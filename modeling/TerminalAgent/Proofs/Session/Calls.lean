import TerminalAgent.Proofs.Session.Drained
import TerminalAgent.Session.Registry

/-! # Calls on one registry

Calls share a registry and hold its lock only for a moment. A call enters with one step; if it goes on
without the lock, to start, use or finish a session, a second step resumes it. Between its steps come
those of other calls and whatever the sessions do on their own. An action that cannot be taken changes
nothing, and neither does the second step of a call that would never come to its end.
-/

namespace TerminalAgent

namespace RunningSession

variable {π σ : Type}

theorem start_id (store : RecordingStore σ) (settings : Option RecorderSettings)
    (pty : PtySession π) (s : σ) : (start store settings pty s).1.pty.id = pty.id := by
  cases settings <;> rfl

theorem advance_id (host : Host π) (store : RecordingStore σ) (session : RunningSession π) (s : σ) :
    (session.advance host store s).2.1.pty.id = session.pty.id := by
  have pulled : (session.pty.pull host).2.id = session.pty.id := by
    unfold PtySession.pull
    split <;> rfl
  have delivered := (deliverAll_further store { session with pty := (session.pty.pull host).2 }
    (session.pty.pull host).1 s).keeps.1.trans pulled
  simp only [advance]
  split
  next => exact (finishRecording_further store _ _).keeps.1.trans delivered
  next => exact delivered

theorem awaitRecorder_id {host : Host π} {store : RecordingStore σ} (session : RunningSession π) {s : σ}
    {rest : List Output × RunningSession π × σ}
    (awaited : session.awaitRecorder? host store s = some rest) :
    rest.2.1.pty.id = session.pty.id := by
  obtain ⟨-, rfl⟩ | ⟨outputs, final, -, -, rfl⟩ := awaitRecorder_cases session awaited
  · exact (finishRecording_further store session s).keeps.1
  · have delivered := deliverAll_further store
      { session with pty := { session.pty with process := final } } outputs s
    exact (finishRecording_further store _ _).keeps.1.trans delivered.keeps.1

theorem finish_id (host : Host π) (store : RecordingStore σ) (session : RunningSession π) (s : σ) :
    (session.finish host store s).2.2.1.pty.id = session.pty.id := by
  obtain ⟨process, stop⟩ := stop_cases host session.pty
  have same {result : Except SessionError Nat} {pty : PtySession π}
      (stopped : session.pty.stop host = (result, pty)) : pty.id = session.pty.id := by
    rw [stopped] at stop
    rw [show pty = _ from stop]
  have finishes := finish_finishes host store session s
  generalize session.finish host store s = finished at finishes
  cases finishes with
  | @ended code pty _ advanced s' stopped went =>
      have advancedId := advance_id host store { session with pty } s
      rw [went] at advancedId
      have finished := finishRecording_further store { advanced with pty := advanced.pty.close } s'
      exact finished.keeps.1.trans (advancedId.trans (same stopped))
  | @survived error pty rest stopped awaited =>
      exact (awaitRecorder_id _ awaited).trans (same stopped)
  | endless stopped => exact same stopped

end RunningSession

namespace Registry

variable {π σ : Type}

/-! ## Requests -/

inductive Request where
  | spawn (id : String) (size : Option (UInt16 × UInt16))
  | write (id : String) (data : Bytes)
  | resize (id : String) (cols rows : UInt16)
  | stop (id : String)
  | reap (id : String)
  | shutdown
  deriving Repr, DecidableEq

inductive Reply where
  | done
  | exited (code : Nat)
  | reaped (retired : Bool)
  | failed (error : SessionError)
  deriving Repr, DecidableEq

def Reply.of : Except SessionError Unit → Reply
  | .ok () => done
  | .error error => failed error

namespace Request

/-- The id of the session to start. -/
def spawned? : Request → Option String
  | spawn id _ => some id
  | _ => none

/-- Whether it takes a session out of its slot, if there is one for it. -/
def retires : Request → Bool
  | stop _ | reap _ | shutdown => true
  | spawn _ _ | write _ _ | resize _ _ _ => false

/-- The id of the session that must be there. -/
def target? : Request → Option String
  | write id _ => some id
  | resize id _ _ => some id
  | stop id => some id
  | reap id => some id
  | _ => none

/-- The answer if the session is not there. -/
def refusal : Request → Reply
  | write id _ => .failed (.notFound id)
  | resize id _ _ => .failed (.notFound id)
  | stop id => .failed (.notFound id)
  | reap _ => .reaped false
  | _ => .done

/-- What is done to a session that is used. -/
def operate (host : Host π) : Request → PtySession π → Except SessionError Unit × PtySession π
  | write _ data, pty => pty.write host data
  | resize _ cols rows, pty => pty.resize host cols rows
  | _, pty => (pure (), pty)

/-- The answer once a session is finished. -/
def outcome : Request → Except SessionError Nat → Reply
  | stop _, .ok code => .exited code
  | stop _, .error error => .failed error
  | reap _, _ => .reaped true
  | _, _ => .done

end Request

/-! ## Calls -/

/-- How far a call has come. -/
inductive Stage (π : Type) where
  /-- It has claimed the slot, in which it found this, and starts a shell. -/
  | spawning (id : String) (size : Option (UInt16 × UInt16)) (found : Slot π)
  /-- It has found the session with this id. -/
  | using (id : String)
  /-- It finishes the session that it has put at this place among the retired ones. -/
  | finishing (place : Nat)
  | ended (reply : Reply)

structure Call (π : Type) where
  request : Request
  /-- The id of the session that it has taken out of the slot. -/
  took : Option String
  stage : Stage π

/-- A call at its end. -/
def Call.answered (call : Call π) (reply : Reply) : Call π :=
  { call with stage := .ended reply }

/-- A registry with its calls, in the order in which they came. -/
structure Shared (π σ : Type) where
  registry : Registry π
  store : σ
  /-- The sessions that were taken out of the slot, which some calls may still use. -/
  retired : List (RunningSession π)
  calls : List (Call π)

namespace Shared

def enter (shared : Shared π σ) (call : Call π) : Shared π σ :=
  { shared with calls := shared.calls ++ [call] }

def refuse (shared : Shared π σ) (request : Request) (reply : Reply) : Shared π σ :=
  shared.enter ⟨request, none, .ended reply⟩

/-- A call takes the session out of the slot, if there is one for it. -/
def take (shared : Shared π σ) (request : Request) :
    (session? : Option (RunningSession π)) → Shared π σ
  | none => shared.refuse request request.refusal
  | some session =>
      { shared with
        registry := shared.registry.retire session
        retired := shared.retired ++ [session] }.enter
          ⟨request, some session.pty.id, .finishing shared.retired.length⟩

/-- A call looks for a session to use. -/
def visit (shared : Shared π σ) (request : Request) (id : String) : Shared π σ :=
  match shared.registry.lookup id with
  | .error error => shared.refuse request (.failed error)
  | .ok _ => shared.enter ⟨request, none, .using id⟩

/-- The first step of a call. -/
def begin (shared : Shared π σ) (request : Request) : Shared π σ :=
  match request with
  | .spawn id size =>
      match shared.registry.claim with
      | .error error => shared.refuse request (.failed error)
      | .ok registry =>
          { shared with registry }.enter ⟨request, none, .spawning id size shared.registry.slot⟩
  | .write id _ => shared.visit request id
  | .resize id _ _ => shared.visit request id
  | .stop id => shared.take request (shared.registry.stoppable? id)
  | .reap id => shared.take request (shared.registry.reapable? id)
  | .shutdown => shared.take request shared.registry.slot.running?

/-- The session with this id, which may have been retired. -/
def session? (shared : Shared π σ) (id : String) : Option (RunningSession π) :=
  (shared.registry.slot.find? id).or (shared.retired.find? fun session => session.pty.id = id)

/-- Puts a session in the place of the one with its id. -/
def put (shared : Shared π σ) (session : RunningSession π) : Shared π σ :=
  match shared.registry.slot.find? session.pty.id with
  | some _ => { shared with registry := { shared.registry with slot := .running session } }
  | none =>
      { shared with
        retired := shared.retired.map fun other =>
          if other.pty.id = session.pty.id then session else other }

/-- A call ends. -/
def settle (shared : Shared π σ) (n : Nat) (call : Call π) (reply : Reply) : Shared π σ :=
  { shared with calls := shared.calls.set n (call.answered reply) }

variable (store : RecordingStore σ)

/-- The second step of a call. -/
def resume (host : Host π) (shared : Shared π σ) (n : Nat) : Shared π σ :=
  match shared.calls[n]? with
  | none => shared
  | some call =>
      match call.stage with
      | .spawning id size _ =>
          match PtySession.start host id (shared.registry.specOf size) with
          | .error error =>
              { shared with registry := shared.registry.abandon }.settle n call (.failed error)
          | .ok pty =>
              let (registry, s) := shared.registry.fill store pty shared.store
              { shared with registry, store := s }.settle n call .done
      | .using id =>
          match shared.session? id with
          | none => shared
          | some session =>
              let (result, pty) := call.request.operate host session.pty
              (shared.put { session with pty }).settle n call (.of result)
      | .finishing place =>
          match shared.retired[place]? with
          | none => shared
          | some session =>
              match session.finish host store shared.store with
              | (none, _) => shared
              | (some result, _, session, s) =>
                  { shared with store := s, retired := shared.retired.set place session }.settle n call
                    (call.request.outcome result)
      | .ended _ => shared

end Shared

/-! ## Runs -/

inductive Action (π σ : Type) where
  | begin (request : Request)
  /-- The call with this number goes on. The host may do something else every time. -/
  | resume (n : Nat) (host : Host π)
  /-- The session with this id has gone on, by its reader, its shell or its consumers. -/
  | progress (session : RunningSession π)
  /-- Others use the store. -/
  | useStore (s : σ)

/-- The request that an action begins. -/
def Action.request? : Action π σ → Option Request
  | begin request => some request
  | _ => none

/-- The id of the session that an action is to start. -/
def Action.spawned? (action : Action π σ) : Option String :=
  action.request?.bind Request.spawned?

namespace Shared

variable (store : RecordingStore σ)

def step (shared : Shared π σ) : Action π σ → Shared π σ
  | .begin request => shared.begin request
  | .resume n host => shared.resume store host n
  | .progress session => shared.put session
  | .useStore s => { shared with store := s }

/-- Performs actions one after the other, on a registry without sessions. -/
def run (spec : ShellSpec) (recording : Option RecorderSettings) (s : σ)
    (actions : List (Action π σ)) : Shared π σ :=
  actions.foldl (step store) ⟨.new spec recording, s, [], []⟩

end Shared

/-! ## Undisturbed calls -/

/-- What the operations of a registry do with a request, and the reply if they come to their end. -/
def serve (host : Host π) (store : RecordingStore σ) (registry : Registry π) (s : σ) :
    Request → Option Reply × Registry π × σ
  | .spawn id size =>
      let (result, registry, s) := registry.spawn host store id size s
      (some (.of result), registry, s)
  | .write id data =>
      let (result, registry) := registry.write host id data
      (some (.of result), registry, s)
  | .resize id cols rows =>
      let (result, registry) := registry.resize host id cols rows
      (some (.of result), registry, s)
  | .stop id =>
      let (result, _, registry, s) := registry.stop host store id s
      (result.map (Request.outcome (.stop id)), registry, s)
  | .reap id =>
      let (retired, registry, s) := registry.reap host store id s
      (retired.map .reaped, registry, s)
  | .shutdown =>
      let (ended, registry, s) := registry.shutdown host store s
      (ended.map fun _ => .done, registry, s)

namespace Request

theorem operate_id (host : Host π) (request : Request) (pty : PtySession π) :
    (request.operate host pty).2.id = pty.id := by
  cases request with
  | write id data =>
      simp only [operate, PtySession.write]
      split <;> rfl
  | resize id cols rows =>
      simp only [operate, PtySession.resize]
      split
      next => rfl
      next => split <;> rfl
  | spawn | stop | reap | shutdown => rfl

end Request

theorem find?_eq_some {slot : Slot π} {id : String} {session : RunningSession π} :
    slot.find? id = some session ↔ slot = .running session ∧ session.pty.id = id := by
  cases slot with
  | running other =>
      simp only [Slot.find?, Slot.running?, Option.filter_eq_some_iff, Option.some.injEq,
        Slot.running.injEq, decide_eq_true_eq]
  | absent | starting | stopped => simp [Slot.find?, Slot.running?]

theorem running?_eq_some {slot : Slot π} {session : RunningSession π} :
    slot.running? = some session ↔ slot = .running session := by
  cases slot <;> simp [Slot.running?]

theorem lookup_ok {registry : Registry π} {id : String} {session : RunningSession π}
    (h : registry.lookup id = .ok session) : registry.slot.find? id = some session := by
  unfold lookup at h
  split at h
  next usable =>
    cases h
    exact (Option.filter_eq_some_iff.mp usable).1
  next => cases h

theorem lookup_error {registry : Registry π} {id : String} {error : SessionError}
    (h : registry.lookup id = .error error) : error = .notFound id := by
  unfold lookup at h
  split at h <;> cases h
  rfl

/-- The session that a request takes out of the slot. -/
def taken? (registry : Registry π) : Request → Option (RunningSession π)
  | .stop id => registry.stoppable? id
  | .reap id => registry.reapable? id
  | .shutdown => registry.slot.running?
  | .spawn _ _ | .write _ _ | .resize _ _ _ => none

section
variable {registry : Registry π} {request : Request} {session : RunningSession π}

theorem slot_of_taken (taken : registry.taken? request = some session) :
    registry.slot = .running session := by
  cases request with
  | spawn | write | resize => cases taken
  | stop id => exact (find?_eq_some.mp taken).1
  | reap id => exact (find?_eq_some.mp (Option.filter_eq_some_iff.mp taken).1).1
  | shutdown => exact running?_eq_some.mp taken

theorem begin_of_taken {shared : Shared π σ} (taken : shared.registry.taken? request = some session) :
    shared.begin request = shared.take request (some session) := by
  cases request with
  | spawn | write | resize => cases taken
  | stop | reap | shutdown => exact congrArg (shared.take _) taken

theorem serve_of_taken (taken : registry.taken? request = some session) (host : Host π)
    (store : RecordingStore σ) (s : σ) :
    registry.serve host store s request =
      ((session.finish host store s).1.map request.outcome, registry.retire session,
        (session.finish host store s).2.2.2) := by
  cases request with
  | spawn | write | resize => cases taken
  | stop id =>
      have found : registry.stoppable? id = some session := taken
      simp only [serve, Registry.stop, found]
  | reap id =>
      have found : registry.reapable? id = some session := taken
      simp only [serve, Registry.reap, found, Option.map_map]
      rfl
  | shutdown =>
      have found : registry.slot.running? = some session := taken
      simp only [serve, Registry.shutdown, found, Option.map_map]
      rfl

theorem serve_of_missing (retires : request.retires = true) (missing : registry.taken? request = none)
    (host : Host π) (store : RecordingStore σ) (s : σ) :
    registry.serve host store s request = (some request.refusal, registry, s) := by
  cases request with
  | spawn | write | resize => cases retires
  | stop id =>
      have missing : registry.stoppable? id = none := missing
      simp only [serve, Registry.stop, missing]
      rfl
  | reap id =>
      have missing : registry.reapable? id = none := missing
      simp only [serve, Registry.reap, missing]
      rfl
  | shutdown =>
      have missing : registry.slot.running? = none := missing
      simp only [serve, Registry.shutdown, missing]
      rfl

theorem begin_of_missing {shared : Shared π σ} (retires : request.retires = true)
    (missing : shared.registry.taken? request = none) :
    shared.begin request = shared.refuse request request.refusal := by
  cases request with
  | spawn | write | resize => cases retires
  | stop | reap | shutdown => exact congrArg (shared.take _) missing

end

namespace Shared

variable {host : Host π} {store : RecordingStore σ} {shared : Shared π σ} {request : Request}

theorem resume_refused (reply : Reply) :
    (shared.refuse request reply).resume store host shared.calls.length =
      shared.refuse request reply := by
  simp [resume, refuse, enter]

/-- A call finishes the session that it has just taken. -/
theorem resume_take {session : RunningSession π} {result : Except SessionError Nat}
    (finished : (session.finish host store shared.store).1 = some result) :
    (shared.take request (some session)).resume store host shared.calls.length =
      { registry := shared.registry.retire session
        store := (session.finish host store shared.store).2.2.2
        retired := shared.retired ++ [(session.finish host store shared.store).2.2.1]
        calls := shared.calls ++ [⟨request, some session.pty.id,
          .ended (request.outcome result)⟩] } := by
  cases finish : session.finish host store shared.store with
  | mk result' rest =>
      obtain rfl : result' = some result := by rwa [finish] at finished
      simp [resume, take, enter, finish, settle, Call.answered]

/-- A call uses the session that it has just found. -/
theorem resume_visit (host : Host π) (store : RecordingStore σ) (shared : Shared π σ)
    (request : Request) (id : String) :
    let after := (shared.visit request id).resume store host shared.calls.length
    let used := shared.registry.use id (request.operate host)
    (after.registry, after.store) = (used.2, shared.store) ∧
      ∃ took, after.calls = shared.calls ++ [⟨request, took, .ended (.of used.1)⟩] := by
  unfold visit use
  cases found : shared.registry.lookup id with
  | error error =>
      rw [resume_refused]
      exact ⟨rfl, none, rfl⟩
  | ok session =>
      have found := lookup_ok found
      obtain ⟨-, same⟩ := find?_eq_some.mp found
      have still : shared.registry.slot.find? (request.operate host session.pty).2.id =
          some session := by
        rw [Request.operate_id, same, found]
      simp [resume, enter, session?, found, put, still, settle, Call.answered]

theorem specOf_claim {registry claimed : Registry π} (h : registry.claim = .ok claimed)
    (size : Option (UInt16 × UInt16)) : claimed.specOf size = registry.specOf size := by
  unfold claim at h
  split at h <;> cases h <;> rfl

/-- A call whose steps follow each other does what the operation of the registry does, if that comes to
    its end. -/
theorem undisturbed (host : Host π) (store : RecordingStore σ) (shared : Shared π σ)
    {request : Request} {reply : Reply}
    (served : (shared.registry.serve host store shared.store request).1 = some reply) :
    let after := (shared.begin request).resume store host shared.calls.length
    (after.registry, after.store) = (shared.registry.serve host store shared.store request).2 ∧
      ∃ took, after.calls = shared.calls ++ [⟨request, took, .ended reply⟩] := by
  cases taken : shared.registry.taken? request with
  | some session =>
      rw [serve_of_taken taken] at served ⊢
      obtain ⟨result, finished, rfl⟩ := Option.map_eq_some_iff.mp served
      rw [begin_of_taken taken, resume_take finished]
      exact ⟨rfl, _, rfl⟩
  | none =>
      cases request with
      | spawn id size =>
          simp only [begin, serve, Registry.spawn] at served ⊢
          cases claimed : shared.registry.claim with
          | error error =>
              rw [claimed] at served
              cases served
              rw [resume_refused]
              exact ⟨rfl, none, rfl⟩
          | ok registry =>
              rw [claimed] at served
              simp only [resume, enter, List.getElem?_concat_length, specOf_claim claimed] at served ⊢
              cases started : PtySession.start host id (shared.registry.specOf size) with
              | error error =>
                  rw [started] at served
                  cases served
                  exact ⟨rfl, none, by simp [settle, Call.answered]; rfl⟩
              | ok pty =>
                  rw [started] at served
                  cases served
                  exact ⟨rfl, none, by simp [settle, Call.answered]; rfl⟩
      | write id data =>
          cases served
          exact resume_visit host store shared (.write id data) id
      | resize id cols rows =>
          cases served
          exact resume_visit host store shared (.resize id cols rows) id
      | stop | reap | shutdown =>
          rw [serve_of_missing rfl taken] at served ⊢
          cases served
          rw [begin_of_missing rfl taken, resume_refused]
          exact ⟨rfl, none, rfl⟩

end Shared

end Registry

end TerminalAgent
