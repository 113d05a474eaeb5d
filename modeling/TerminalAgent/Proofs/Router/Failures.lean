import TerminalAgent.Proofs.Router.Answers
import TerminalAgent.Proofs.Router.TerminalSize

/-! # What a failed request changes

An operation that fails gives back what it has taken and leaves the session as it is. At most it has
worked on the shell: what was to be typed may have got there in part, and a host that fails to change the
size of a terminal may have done something else to it. Only a request to stop a shell that cannot be
killed is not undone.
-/

namespace TerminalAgent

/-! ## Slots -/

/-- What holds of a slot whatever its session does. -/
inductive SlotState where
  | absent
  | starting (previous : Option String)
  | running (id : String)
  | stopped (id : String)
  deriving Repr, DecidableEq

namespace Slot

variable {π : Type}

def state : Slot π → SlotState
  | absent => .absent
  | starting previous => .starting previous
  | running session => .running session.pty.id
  | stopped id => .stopped id

/-- Something is done to the shell that runs. -/
def work (change : π → π) : Slot π → Slot π
  | absent => absent
  | starting previous => starting previous
  | running session =>
      running { session with pty := { session.pty with process := change session.pty.process } }
  | stopped id => stopped id

@[simp] theorem state_work (change : π → π) (slot : Slot π) : (slot.work change).state = slot.state := by
  cases slot <;> rfl

@[simp] theorem work_id (slot : Slot π) : slot.work id = slot := by
  cases slot <;> rfl

end Slot

/-! ## Operations -/

namespace Registry

variable {π σ : Type} {host : Host π} {store : RecordingStore σ} {registry : Registry π}
  {request : Request} {error : SessionError}

/-- Something is done to the shell that runs. -/
def work (registry : Registry π) (change : π → π) : Registry π :=
  { registry with slot := registry.slot.work change }

/-- The shell that runs, with its terminal. -/
def shell? (registry : Registry π) : Option π :=
  registry.slot.running?.map (·.pty.process)

@[simp] theorem work_id (registry : Registry π) : registry.work id = registry := by
  simp [work]

theorem work_running {session : RunningSession π} (slot : registry.slot = .running session)
    (change : π → π) : registry.work change = { registry with
      slot := .running { session with
        pty := { session.pty with process := change session.pty.process } } } := by
  rw [work, slot]
  rfl

theorem size?_work (change : π → π) : (registry.work change).size? = registry.size? := by
  cases slot : registry.slot <;> simp [work, size?, slot, Slot.work, Slot.running?, RunningSession.size]

theorem shell?_work (change : π → π) :
    (registry.work change).shell? = registry.shell?.map change := by
  cases slot : registry.slot <;> simp [work, shell?, slot, Slot.work, Slot.running?]

/-- What an operation that failed has done to the shell. -/
inductive Request.Leaves (host : Host π) : Request → SessionError → (π → π) → Prop
  | nothing {request : Request} {error : SessionError} : Leaves host request error id
  | typed {id : String} {data : Bytes} {reason : String} :
      Leaves host (.write id data) (.writeFailed reason) fun process => (host.write data process).2
  | resized {id : String} {cols rows : UInt16} {reason : String} :
      Leaves host (.resize id cols rows) (.resizeFailed reason)
        fun process => (host.resize cols rows process).2

theorem Request.operate_failed {pty : PtySession π}
    (failed : (request.operate host pty).1 = .error error) :
    ∃ change, request.Leaves host error change ∧
      (request.operate host pty).2 = { pty with process := change pty.process } := by
  cases request with
  | write id data =>
      simp only [operate, PtySession.write] at failed ⊢
      split at failed
      next ended => exact ⟨_, .nothing, by rw [if_pos ended]; rfl⟩
      next running =>
        rw [if_neg running]
        cases written : (host.write data pty.process).1 with
        | ok =>
            rw [written] at failed
            cases failed
        | error reason =>
            rw [written] at failed
            cases failed
            exact ⟨_, .typed, rfl⟩
  | resize id cols rows =>
      simp only [operate, PtySession.resize] at failed ⊢
      split at failed
      next ended => exact ⟨_, .nothing, by rw [if_pos ended]; rfl⟩
      next running =>
        rw [if_neg running]
        cases resized : host.resize cols rows pty.process with
        | mk result process =>
            rw [resized] at failed
            cases result with
            | ok => cases failed
            | error reason =>
                cases failed
                exact ⟨_, .resized, by simp only [resized]⟩
  | spawn | stop | reap | shutdown => cases failed

theorem use_failed (request : Request) {id : String}
    (failed : (registry.use id (request.operate host)).1 = .error error) :
    ∃ change, request.Leaves host error change ∧
      (registry.use id (request.operate host)).2 = registry.work change := by
  unfold use at failed ⊢
  split at failed
  next => exact ⟨_, .nothing, registry.work_id.symm⟩
  next session found =>
    obtain ⟨change, leaves, operated⟩ := Request.operate_failed failed
    have slot : registry.slot = .running session := (find?_eq_some.mp (lookup_ok found)).1
    refine ⟨change, leaves, ?_⟩
    simp only [operated, work_running slot]

/-- What was claimed and is given back is as it was. -/
theorem abandon_of_claim {claimed : Registry π} (claim : registry.claim = .ok claimed) :
    claimed.abandon = registry := by
  obtain ⟨spec, recording, slot⟩ := registry
  cases slot <;> cases claim <;> rfl

theorem spawn_failed {id : String} {size : Option (UInt16 × UInt16)} {s : σ}
    (failed : (registry.spawn host store id size s).1 = .error error) :
    (registry.spawn host store id size s).2 = (registry, s) := by
  unfold spawn at failed ⊢
  cases claim : registry.claim with
  | error => rfl
  | ok claimed =>
      cases started : PtySession.start host id (registry.specOf size) with
      | error reason => simp only [abandon_of_claim claim]
      | ok pty =>
          simp only [claim, started] at failed
          cases failed

/-- A shell that was asked to end fails to only if it cannot be killed. -/
theorem finish_failed {session : RunningSession π} {s : σ}
    (failed : (session.finish host store s).1 = some (.error error)) :
    ∃ reason, error = .killFailed reason := by
  have finishes := RunningSession.finish_finishes host store session s
  generalize session.finish host store s = finished at finishes failed
  cases finishes with
  | ended => cases failed
  | survived stopped =>
      cases failed
      obtain ⟨-, reason, -, killed, -⟩ := (RunningSession.stop_error_iff host session.pty).mp stopped
      exact ⟨reason, killed⟩
  | endless => cases failed

/-- An operation that fails leaves everything but the shell as it is, unless the shell to stop cannot be
    killed. -/
theorem serve_failed {s : σ}
    (failed : (registry.serve host store s request).1 = some (.failed error)) :
    (∃ id reason, request = .stop id ∧ error = .killFailed reason) ∨
      ∃ change, request.Leaves host error change ∧
        (registry.serve host store s request).2 = (registry.work change, s) := by
  have refused {result : Except SessionError Unit}
      (failed : some (Reply.of result) = some (.failed error)) : result = .error error := by
    cases result <;> cases failed
    rfl
  cases request with
  | spawn id size =>
      refine .inr ⟨_, .nothing, ?_⟩
      rw [work_id]
      exact spawn_failed (refused failed)
  | write id data =>
      obtain ⟨change, leaves, used⟩ := use_failed (.write id data) (refused failed)
      exact .inr ⟨change, leaves, congrArg (·, s) used⟩
  | resize id cols rows =>
      obtain ⟨change, leaves, used⟩ := use_failed (.resize id cols rows) (refused failed)
      exact .inr ⟨change, leaves, congrArg (·, s) used⟩
  | stop id =>
      cases taken : registry.taken? (.stop id) with
      | none =>
          refine .inr ⟨_, .nothing, ?_⟩
          rw [serve_of_missing rfl taken, work_id]
      | some session =>
          rw [serve_of_taken taken] at failed
          obtain ⟨result, finished, outcome⟩ := Option.map_eq_some_iff.mp failed
          cases result with
          | ok code => cases outcome
          | error error =>
              cases outcome
              obtain ⟨reason, rfl⟩ := finish_failed finished
              exact .inl ⟨id, reason, rfl, rfl⟩
  | reap | shutdown =>
      obtain ⟨_, -, outcome⟩ := Option.map_eq_some_iff.mp failed
      cases outcome

end Registry

/-! ## Messages -/

namespace Connection

variable {π σ : Type} (host : Host π) (store : RecordingStore σ)

/-- What is sent while bytes are handled. -/
def responses (connection : Connection π σ) (fresh : String) (bytes : Bytes) : List Message :=
  (connection.handle host store fresh bytes).2.outbound.sent.drop connection.outbound.sent.length

/-- Why what arrives is refused. -/
def refusal? (connection : Connection π σ) (fresh : String) (bytes : Bytes) : Option RequestError :=
  match Message.decode bytes with
  | .error error => some (.malformed error)
  | .ok message =>
      match (connection.route host store fresh message).1 with
      | some (.error error) => some error
      | _ => none

/-- A request that was refused for this reason has changed nothing. Unless it failed to write, nothing
    was typed at the shell: at most its terminal was asked to change its size, and did not. -/
structure Spares (error : RequestError) (before after : Connection π σ) : Prop where
  state : after.registry.slot.state = before.registry.slot.state
  rest : ∃ change, after.registry = before.registry.work change
  size : after.registry.size? = before.registry.size?
  store : after.store = before.store
  shell : (∀ reason, error ≠ .session (.writeFailed reason)) →
    after.registry.shell? = before.registry.shell? ∨
      ∃ reason cols rows, error = .session (.resizeFailed reason) ∧
        after.registry.shell? =
          before.registry.shell?.map fun process => (host.resize cols rows process).2

section
variable {host store} {connection : Connection π σ} {fresh : String} {message : Message}

/-! ### What is sent and what is not -/

theorem send_closed (isClosed : connection.outbound.isOpen = false) (reply : Message) :
    (connection.send reply).2 = connection := by
  simp only [send, Outbound.send, isClosed]
  rfl

theorem forward_closed (isClosed : connection.outbound.isOpen = false) (id : String)
    (outputs : List Output) : (connection.forward id outputs).2 = connection := by
  cases outputs with
  | nil => rfl
  | cons output rest =>
      simp only [forward, Outbound.send, isClosed]
      rfl

theorem outbound_route_closed (isClosed : connection.outbound.isOpen = false) :
    (connection.route host store fresh message).2.outbound = connection.outbound := by
  have started : (connection.startShell host store fresh message).2.outbound = connection.outbound := by
    unfold startShell
    split
    next => rfl
    next =>
      simp only [Outbound.send, isClosed]
      rfl
  have stopped : (connection.stopShell host store message).2.outbound = connection.outbound := by
    simp only [stopShell]
    rw [forward_closed (by exact isClosed)]
  have resized : (connection.resizeTerminal host message).2.outbound = connection.outbound := by
    unfold resizeTerminal
    split <;> rfl
  unfold route
  repeat' split
  all_goals first | assumption | rfl

/-- Nothing is sent once nobody takes anything. -/
theorem responses_closed (isClosed : connection.outbound.isOpen = false) (bytes : Bytes) :
    connection.responses host store fresh bytes = [] := by
  have same : (connection.handle host store fresh bytes).2.outbound = connection.outbound := by
    cases decoded : Message.decode bytes with
    | error error => rw [handle, decoded, send_closed isClosed]
    | ok message =>
        have routed : (connection.route host store fresh message).2.outbound = connection.outbound :=
          outbound_route_closed isClosed
        obtain handled | ⟨reply, handled⟩ := handle_of_decoded decoded
        · rw [handled, routed]
        · rw [handled, send_closed (by rw [routed, isClosed]), routed]
  rw [responses, same, List.drop_length]

/-! ### Other sessions -/

/-- A message about another session than the one that runs does nothing. -/
theorem route_elsewhere {session : RunningSession π} (slot : connection.registry.slot = .running session)
    (other : session.pty.id ≠ targetId message) :
    (connection.route host store fresh message).2 = connection := by
  have taken : connection.registry.claim = .error .alreadyRunning := by
    rw [Registry.claim, slot]
    rfl
  have missing : connection.registry.slot.find? (targetId message) = none := by
    rw [slot, find?_running, if_neg other]
  have noUse : connection.registry.lookup (targetId message) = .error (.notFound (targetId message)) := by
    rw [Registry.lookup, missing]
    rfl
  have started : (connection.startShell host store fresh message).2 = connection := by
    simp only [startShell, Registry.spawn, taken]
    rfl
  have stopped : (connection.stopShell host store message).2 = connection := by
    simp only [stopShell, Registry.stop, Registry.stoppable?, missing, forward, Option.isNone_some,
      Bool.or_false]
  have typed : (connection.typeInput host message).2 = connection := by
    simp only [typeInput, Registry.write, Registry.use, noUse]
  have resized : (connection.resizeTerminal host message).2 = connection := by
    unfold resizeTerminal
    split
    next => rfl
    next => rfl
    next => simp only [Registry.resize, Registry.use, noUse]
  unfold route
  repeat' split
  all_goals first | assumption | rfl

theorem handle_elsewhere {session : RunningSession π} {bytes : Bytes}
    (decoded : Message.decode bytes = .ok message)
    (slot : connection.registry.slot = .running session) (other : session.pty.id ≠ targetId message) :
    let after := (connection.handle host store fresh bytes).2
    after.registry = connection.registry ∧ after.store = connection.store := by
  have routed : (connection.route host store fresh message).2 = connection :=
    route_elsewhere slot other
  obtain handled | ⟨reply, handled⟩ := handle_of_decoded decoded <;> rw [routed] at handled
  · rw [handled]
    exact ⟨rfl, rfl⟩
  · rw [handled]
    exact ⟨rfl, rfl⟩

/-! ### What is refused -/

theorem Spares.of_unchanged {error : RequestError} {after : Connection π σ}
    (registry : after.registry = connection.registry) (same : after.store = connection.store) :
    Spares host error connection after where
  state := by rw [registry]
  rest := ⟨id, by rw [registry, Registry.work_id]⟩
  size := by rw [registry]
  store := same
  shell _ := .inl (by rw [registry])

theorem Spares.of_leaves {request : Registry.Request} {error : SessionError} {change : π → π}
    (leaves : request.Leaves host error change) {after : Connection π σ}
    (registry : after.registry = connection.registry.work change)
    (same : after.store = connection.store) : Spares host (.session error) connection after where
  state := by simp [registry, Registry.work]
  rest := ⟨change, registry⟩
  size := by rw [registry, Registry.size?_work]
  store := same
  shell notWritten := by
    rw [registry, Registry.shell?_work]
    cases leaves with
    | nothing => exact .inl (by simp)
    | @typed id data reason => exact absurd rfl (notWritten reason)
    | resized => exact .inr ⟨_, _, _, rfl, rfl⟩

theorem normal_of_lastOutputs {request : Registry.Request} {message : Message}
    (sent : message ∈ connection.lastOutputs host store request) : message.status? ≠ some .error := by
  cases request with
  | stop id =>
      obtain ⟨output, -, rfl⟩ := List.mem_map.mp sent
      simp [outputMessage]
  | spawn | write | resize | reap | shutdown => cases sent

theorem normal_of_plain {reply : Message} (answer : plainReply? message = some reply) :
    reply.status? ≠ some .error := by
  unfold plainReply? at answer
  split at answer <;> cases answer
  intro failed
  cases failed

/-- An operation that was answered with status error has failed. -/
theorem failed_of_answered (isOpen : connection.outbound.isOpen = true) {bytes : Bytes}
    (decoded : Message.decode bytes = .ok message) {request : Registry.Request}
    (asked : request? fresh message = some request) {reply : Message}
    (sent : reply ∈ connection.responses host store fresh bytes)
    (failing : reply.status? = some .error) :
    ∃ error, (connection.registry.serve host store connection.store request).1 =
      some (.failed error) := by
  rw [Connection.responses] at sent
  cases served : (connection.registry.serve host store connection.store request).1 with
  | none =>
      rw [handle_of_endless isOpen decoded asked served] at sent
      simp only [afterwards, List.append_nil, List.drop_left] at sent
      exact absurd failing (normal_of_lastOutputs sent)
  | some outcome =>
      rw [handle_of_request isOpen decoded asked served] at sent
      simp only [afterwards, List.append_assoc, List.drop_left, List.mem_append,
        Option.mem_toList] at sent
      obtain output | answer := sent
      · exact absurd failing (normal_of_lastOutputs output)
      · obtain ⟨error, rfl⟩ := (replyTo_status answer).mp failing
        exact ⟨error, rfl⟩

/-- What is answered with status error changes nothing, unless it was to stop a shell that cannot be
    killed. -/
theorem spares_of_answered (isOpen : connection.outbound.isOpen = true) {bytes : Bytes}
    {reply : Message} (sent : reply ∈ connection.responses host store fresh bytes)
    (failing : reply.status? = some .error) :
    ∃ error, connection.refusal? host store fresh bytes = some error ∧
      ((∀ reason, error ≠ .session (.killFailed reason)) →
        Spares host error connection (connection.handle host store fresh bytes).2) := by
  cases decoded : Message.decode bytes with
  | error error =>
      refine ⟨.malformed error, by rw [refusal?, decoded], fun _ => ?_⟩
      rw [handle_of_malformed isOpen decoded]
      exact .of_unchanged rfl rfl
  | ok message =>
      cases faulty : fault? message with
      | some error =>
          refine ⟨error, by simp only [refusal?, decoded, route_of_fault faulty], fun _ => ?_⟩
          rw [handle_of_fault isOpen decoded faulty]
          exact .of_unchanged rfl rfl
      | none =>
          cases asked : request? fresh message with
          | none =>
              rw [responses, handle_of_plain isOpen decoded faulty asked, List.drop_left,
                Option.mem_toList] at sent
              exact absurd failing (normal_of_plain sent)
          | some request =>
              obtain ⟨error, failed⟩ := failed_of_answered isOpen decoded asked sent failing
              have refused : answerOf message request (.failed error) = .error (.session error) := by
                cases request <;> rfl
              refine ⟨.session error, ?_, fun killed => ?_⟩
              · simp only [refusal?, decoded, route_of_request isOpen asked, performed, failed,
                  Option.map_some, refused]
              · obtain ⟨id, reason, -, rfl⟩ | ⟨change, leaves, served⟩ := Registry.serve_failed failed
                · exact absurd rfl (killed reason)
                · rw [handle_of_request isOpen decoded asked failed]
                  exact .of_leaves leaves (congrArg Prod.fst served) (congrArg Prod.snd served)

end

/-- What is answered with status error changes nothing, unless it was to stop a shell that cannot be
    killed. Nothing at all changes if it was about another session than the one that runs. -/
theorem refused_spares (connection : Connection π σ) (fresh : String) (bytes : Bytes)
    (answered : ∃ reply ∈ connection.responses host store fresh bytes, reply.status? = some .error) :
    let after := (connection.handle host store fresh bytes).2
    (∃ error, connection.refusal? host store fresh bytes = some error ∧
      ((∀ reason, error ≠ .session (.killFailed reason)) → Spares host error connection after)) ∧
    ∀ message session, Message.decode bytes = .ok message →
      connection.registry.slot = .running session → session.pty.id ≠ targetId message →
        after.registry = connection.registry ∧ after.store = connection.store := by
  intro after
  refine ⟨?_, fun message session decoded slot other => handle_elsewhere decoded slot other⟩
  obtain ⟨reply, sent, failing⟩ := answered
  cases isOpen : connection.outbound.isOpen with
  | false =>
      rw [responses_closed isOpen] at sent
      cases sent
  | true => exact spares_of_answered isOpen sent failing

/-- A shell that cannot be started leaves the last session in the slot, and what is typed at another
    session leaves the one that runs. -/
theorem refused_spares_last :
    let host : Host Unit := { Host.silent with launch := fun _ => .error "no terminal" }
    let session : RunningSession Unit :=
      ⟨⟨"a", (), true, true, false, 80, 24, .new⟩, false, none, none⟩
    let vacant : Connection Unit MemoryStore := ⟨⟨.default, none, .stopped "last"⟩, .empty, .new, false⟩
    let taken : Connection Unit MemoryStore := ⟨⟨.default, none, .running session⟩, .empty, .new, false⟩
    let start := (Message.new Proto.shell Kind.spawn).encode
    let input := (((Message.new Proto.shell Kind.shell).withSessionId "b").withBody [0x6C, 0x73]).encode
    (∃ reply ∈ vacant.responses host MemoryStore.recording "fresh" start,
        reply.status? = some .error) ∧
      (vacant.handle host MemoryStore.recording "fresh" start).2.registry.slot.state =
        .stopped "last" ∧
      (∃ reply ∈ taken.responses host MemoryStore.recording "fresh" input,
        reply.status? = some .error) ∧
      (taken.handle host MemoryStore.recording "fresh" input).2.registry = taken.registry := by
  intro host session vacant taken start input
  have refused : ∃ reply ∈ vacant.responses host MemoryStore.recording "fresh" start,
      reply.status? = some .error := by decide +kernel
  have strange : ∃ reply ∈ taken.responses host MemoryStore.recording "fresh" input,
      reply.status? = some .error := by decide +kernel
  refine ⟨refused, ?_, strange, ?_⟩
  · have reason : vacant.refusal? host MemoryStore.recording "fresh" start =
        some (.session (.spawnFailed "no terminal")) := by decide +kernel
    obtain ⟨⟨error, same, spares⟩, -⟩ :=
      refused_spares host MemoryStore.recording vacant "fresh" start refused
    rw [reason] at same
    cases same
    exact (spares nofun).state
  · have named : (Message.decode input).toOption.map targetId = some "b" := by decide +kernel
    obtain ⟨-, elsewhere⟩ := refused_spares host MemoryStore.recording taken "fresh" input strange
    cases decoded : Message.decode input with
    | error error =>
        rw [decoded] at named
        cases named
    | ok message =>
        rw [decoded] at named
        have target : targetId message = "b" := Option.some.inj named
        refine (elsewhere message session decoded rfl ?_).1
        rw [target]
        decide

end Connection

end TerminalAgent
