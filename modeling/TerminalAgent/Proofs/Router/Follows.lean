import TerminalAgent.Proofs.Router.Ending
import TerminalAgent.Proofs.Router.Order

/-! # What tasks can bring about

A connection does with its session in one go what its tasks do step by step. Whatever becomes of the
session, they can bring it about, and then wait for something else.
-/

namespace TerminalAgent

namespace RunningSession

variable {π σ : Type} {session session' session'' : RunningSession π}

/-- The shell or the consumers of a session have gone on, and its output has not ended. -/
def Becomes (session session' : RunningSession π) : Prop :=
  ∃ process cols rows fanout recorder, fanout.isClosed = session.pty.fanout.isClosed ∧
    recorder.map Prod.snd = session.recorder.map Prod.snd ∧
    session' = { session with pty := { session.pty with process, cols, rows, fanout }, recorder }

namespace Becomes

theorem refl (session : RunningSession π) : Becomes session session :=
  ⟨_, _, _, _, _, rfl, rfl, rfl⟩

theorem trans (h : Becomes session session') (h' : Becomes session' session'') :
    Becomes session session'' := by
  obtain ⟨_, _, _, _, _, open_, recorded, rfl⟩ := h
  obtain ⟨process, cols, rows, fanout, recorder, openToo, recordedToo, rfl⟩ := h'
  exact ⟨process, cols, rows, fanout, recorder, openToo.trans open_, recordedToo.trans recorded, rfl⟩

theorem keeps (h : Becomes session session') :
    session'.pty.id = session.pty.id ∧ session'.watcher = session.watcher ∧
      session'.pty.isRunning = session.pty.isRunning ∧
      session'.pty.fanout.isClosed = session.pty.fanout.isClosed := by
  obtain ⟨_, _, _, _, _, open_, -, rfl⟩ := h
  exact ⟨rfl, rfl, rfl, open_⟩

theorem record (store : RecordingStore σ) (session : RunningSession π) (s : σ) :
    Becomes session (session.record store s).1 := by
  unfold RunningSession.record
  split
  next => exact refl session
  next found =>
    exact ⟨_, _, _, _, _, (Fanout.receiveAll_rest _ _).2.1, by rw [found]; rfl, rfl⟩

theorem watch (session : RunningSession π) : Becomes session session.watch.2 := by
  unfold RunningSession.watch
  split
  next => exact refl session
  next => exact ⟨_, _, _, _, _, (Fanout.receiveAll_rest _ _).2.1, rfl, rfl⟩

theorem deliverAll (store : RecordingStore σ) (session : RunningSession π) (outputs : List Output)
    (s : σ) : Becomes session (deliverAll store outputs session s).2.1 := by
  induction outputs generalizing session s with
  | nil => exact refl session
  | cons output rest ih =>
      let published := { session with pty := session.pty.publish output }
      have publish : Becomes session published :=
        ⟨_, _, _, session.pty.fanout.publish output, _, rfl, rfl, rfl⟩
      exact ((publish.trans (record store published s)).trans (watch _)).trans (ih _ _)

theorem finishRecording (store : RecordingStore σ) (session : RunningSession π) (s : σ) :
    (session.finishRecording store s).1 = { session with recorder := none } := by
  obtain ⟨pty, isRecorded, recorder, watcher⟩ := session
  cases recorder <;> rfl

/-- What was read is watched only if somebody watches. -/
theorem advance (host : Host π) (store : RecordingStore σ) (session : RunningSession π) (s : σ) :
    (session.watcher = none → (session.advance host store s).1 = []) ∧
      (Becomes session (session.advance host store s).2.1 ∨
        ∃ delivered, Becomes session delivered ∧
          (session.advance host store s).2.1 =
            { delivered with pty := delivered.pty.finishReading, recorder := none }) := by
  obtain ⟨process, pulled⟩ : ∃ process, (session.pty.pull host).2 = { session.pty with process } := by
    unfold PtySession.pull
    split
    next => exact ⟨_, rfl⟩
    next => exact ⟨session.pty.process, rfl⟩
  have work : Becomes session { session with pty := { session.pty with process } } :=
    ⟨_, _, _, _, _, rfl, rfl, rfl⟩
  have delivered := work.trans (deliverAll store _ (session.pty.pull host).1 s)
  let pulledSession := { session with pty := { session.pty with process } }
  have nobody (unwatched : session.watcher = none) : (RunningSession.deliverAll store
      (session.pty.pull host).1 pulledSession s).1 = [] := by
    have still : pulledSession.watcher = none := unwatched
    exact deliverAll_unwatched still _ s
  simp only [RunningSession.advance, pulled]
  split
  next => exact ⟨nobody, .inr ⟨_, delivered, finishRecording store _ _⟩⟩
  next => exact ⟨nobody, .inl delivered⟩

end Becomes

/-- What a session yields on its last way, and how its shell ends if that comes to an end. -/
theorem finish_eq (host : Host π) (store : RecordingStore σ) (session : RunningSession π) (s : σ) :
    (∀ result ∈ (session.finish host store s).1, result = (session.pty.stop host).1) ∧
      (session.watcher = none → (session.finish host store s).2.1 = []) := by
  have finishes := finish_finishes host store session s
  generalize session.finish host store s = finished at finishes
  cases finishes with
  | @ended code pty watched advanced s' stopped went =>
      have nobody := (Becomes.advance host store { session with pty } s).1
      rw [went] at nobody
      refine ⟨?_, nobody⟩
      rintro _ ⟨⟩
      rw [stopped]
  | survived stopped awaited =>
      refine ⟨?_, fun unwatched => awaitRecorder_quiet _ awaited (.inr unwatched)⟩
      rintro _ ⟨⟩
      rw [stopped]
  | endless => exact ⟨nofun, fun _ => rfl⟩

/-- Nobody waits for a recorder that has seen the end of the output. -/
theorem unawaited_endOutput (session : RunningSession π) :
    { session with pty := session.pty.finishReading, recorder := none }.isAwaited = false := by
  simp [isAwaited, PtySession.finishReading, Fanout.close]

theorem isAwaited_unwatch (session : RunningSession π) :
    session.unwatch.isAwaited = session.isAwaited := by
  unfold unwatch
  split <;> rfl

/-- How the shell of a session ends does not depend on its reader. -/
theorem stop_finishReading (host : Host π) (pty : PtySession π) :
    (pty.finishReading.stop host).1 = (pty.stop host).1 := by
  unfold PtySession.stop
  dsimp only [PtySession.finishReading]
  cases host.exitCode? pty.process with
  | some code => rfl
  | none =>
      cases host.kill pty.process with
      | mk result process => cases result <;> rfl

theorem perform_watcher (session : RunningSession π) (store : RecordingStore σ) (s : σ)
    (deed : Deed π) : (session.perform store s deed).1.watcher = session.watcher := by
  cases deed with
  | work | publish | endOutput => rfl
  | record => simp only [perform]; split <;> rfl
  | finishRecording =>
      simp only [perform]
      split
      next => rfl
      next =>
        split
        next => rw [Becomes.finishRecording]
        next => rfl

theorem perform_record (session : RunningSession π) (store : RecordingStore σ) (s : σ)
    {previous recorder : Recorder} {id : Nat} {fanout : Fanout}
    (found : session.recorder = some (previous, id)) :
    session.perform store s (.record recorder fanout) =
      ({ session with
        pty := { session.pty with fanout }
        recorder := some (recorder, id) }, s) := by
  simp only [perform, found]

end RunningSession

/-! ## Following -/

namespace Connection

variable {π σ : Type} (connection : Connection π σ)

/-- The session of the connection has gone on. -/
def withSession (session : RunningSession π) : Connection π σ :=
  { connection with registry := { connection.registry with slot := .running session } }

/-- Messages were sent. -/
def sending (messages : List Message) : Connection π σ :=
  { connection with
    outbound := { connection.outbound with sent := connection.outbound.sent ++ messages } }

theorem withSession_self {session : RunningSession π}
    (slot : connection.registry.slot = .running session) :
    connection.withSession session = connection := by
  rw [withSession, ← slot]

end Connection

namespace LiveConnection

open Registry (Shared Request Reply Call)
open RunningSession (Becomes)

variable {π σ : Type} {host : Host π} {store : RecordingStore σ}
  {connection connection' : Connection π σ} {live : LiveConnection π σ} {session : RunningSession π}

/-- The tasks have brought a connection to this state, and now nothing is under way. -/
structure Follows (connection : Connection π σ) (live : LiveConnection π σ) : Prop where
  registry : live.shared.registry = connection.registry
  store : live.shared.store = connection.store
  outbound : live.outbound = connection.outbound
  isOpen : connection.outbound.isOpen = true
  notStuck : connection.isStuck = false
  listening : live.routing = .listening
  unexited : ∀ {n : Nat}, live.shared.calls.length ≤ n → live.exits.lookup n = none
  resting : ∀ task ∈ live.pumps, task.stage = .waiting ∨ task.stage = .left
  /-- A session that is watched has a pump that waits. -/
  watched : ∀ {session : RunningSession π}, connection.registry.slot = .running session →
    session.watcher.isSome = true →
      ∃ (n : Nat) (task : PumpTask), live.pumps[n]? = some task ∧ task.id = session.pty.id ∧
        task.stage = .waiting
  stopped : ∀ {session : RunningSession π}, connection.registry.slot = .running session →
    session.pty.fanout.isClosed = true → session.pty.isRunning = false

/-- The tasks can bring the connection to this state, by starting sessions with these ids. -/
def Leads (store : RecordingStore σ) (connection : Connection π σ) (ids : List String)
    (live : LiveConnection π σ) : Prop :=
  ∃ actions : List (Action π σ), actions.filterMap Action.spawned? = ids ∧
    Follows connection (live.run store actions)

theorem run_append (live : LiveConnection π σ) (actions more : List (Action π σ)) :
    live.run store (actions ++ more) = (live.run store actions).run store more :=
  List.foldl_append ..

theorem Leads.trans {ids more : List String} (h : Leads store connection ids live)
    (next : ∀ {live}, Follows connection live → Leads store connection' more live) :
    Leads store connection' (ids ++ more) live := by
  obtain ⟨actions, rfl, follows⟩ := h
  obtain ⟨further, rfl, followsToo⟩ := next follows
  refine ⟨actions ++ further, List.filterMap_append, ?_⟩
  rwa [run_append]

theorem alter_running {shared : Shared π σ} (slot : shared.registry.slot = .running session)
    (f : RunningSession π → RunningSession π) : shared.alter session.pty.id f =
      { shared with registry := { shared.registry with slot := .running (f session) } } := by
  simp [Shared.alter, slot, Connection.find?_running]

theorem session?_running {shared : Shared π σ} (slot : shared.registry.slot = .running session) :
    shared.session? session.pty.id = some session := by
  simp [Shared.session?, slot, Connection.find?_running]

namespace Follows

theorem refl (h : Follows connection live) : Leads store connection [] live := ⟨[], rfl, h⟩

theorem useStore (h : Follows connection live) (s : σ) :
    Leads store { connection with store := s } [] live :=
  ⟨[.useStore s], rfl, h.registry, rfl, h.outbound, h.isOpen, h.notStuck, h.listening, h.unexited,
    h.resting, h.watched, h.stopped⟩

/-- The session goes on by itself. -/
theorem progress (h : Follows connection live) (slot : connection.registry.slot = .running session)
    {deed : RunningSession.Deed π} {session' : RunningSession π} {s : σ}
    (performed : session.perform store connection.store deed = (session', s))
    (stopped : session'.pty.fanout.isClosed = true → session'.pty.isRunning = false) :
    Leads store { connection.withSession session' with store := s } [] live := by
  have there : live.shared.registry.slot = .running session := by rw [h.registry, slot]
  have step : live.run store [.progress session.pty.id deed] = { live with
      shared := { live.shared with
        registry := { live.shared.registry with slot := .running session' }, store := s } } := by
    simp only [run, List.foldl_cons, List.foldl_nil, LiveConnection.step, LiveConnection.progress,
      session?_running there, alter_running there, h.store, performed]
  have id : session'.pty.id = session.pty.id := by
    have tame := (RunningSession.tame_perform store connection.store deed).id session
    rwa [performed] at tame
  have watcher : session'.watcher = session.watcher := by
    have same := session.perform_watcher store connection.store deed
    rwa [performed] at same
  refine ⟨[.progress session.pty.id deed], rfl, ?_⟩
  rw [step, h.registry]
  refine ⟨rfl, rfl, h.outbound, h.isOpen, h.notStuck, h.listening, h.unexited, h.resting, ?_, ?_⟩
  · rintro _ ⟨⟩ watched
    rw [watcher] at watched
    rw [id]
    exact h.watched slot watched
  · rintro _ ⟨⟩
    exact stopped

/-- The session publishes in some way. -/
theorem publish (h : Follows connection live) (slot : connection.registry.slot = .running session)
    {fanout : Fanout} (stopped : fanout.isClosed = true → session.pty.isRunning = false) :
    Leads store
      (connection.withSession { session with pty := { session.pty with fanout } }) [] live :=
  have performed : session.perform store connection.store (.publish fanout) =
      ({ session with pty := { session.pty with fanout } }, connection.store) := rfl
  h.progress slot performed stopped

/-- The pump of the session takes a piece of output and sends it. -/
theorem forward (h : Follows connection live) (slot : connection.registry.slot = .running session)
    {watcher : Nat} (watched : session.watcher = some watcher) {output : Output} {fanout : Fanout}
    (taken : session.pty.fanout.receive watcher = (.item output, fanout))
    (stopped : fanout.isClosed = true → session.pty.isRunning = false) :
    Leads store ((connection.withSession { session with pty := { session.pty with fanout } }).sending
      [Connection.outputMessage session.pty.id output]) [] live := by
  have there : live.shared.registry.slot = .running session := by rw [h.registry, slot]
  obtain ⟨n, task, found, id, waiting⟩ := h.watched slot (by rw [watched]; rfl)
  have isOpen : live.outbound.isOpen = true := by rw [h.outbound, h.isOpen]
  have inRange := (List.getElem?_eq_some_iff.mp found).1
  let taking := (live.alter session.pty.id fun session =>
    { session with pty := { session.pty with fanout } }).setPump n (task.take output)
  have take : live.step store (.pump n) = taking := by
    simp only [LiveConnection.step, LiveConnection.pump, found, waiting, LiveConnection.take, id,
      session?_running there, watched, taken]
    rfl
  have next : taking.pumps[n]? = some (task.take output) := List.getElem?_set_self inRange
  have send : taking.step store (.pump n) =
      (taking.post .pump (Connection.outputMessage task.id output)).setPump n
        ((task.take output).send output) := by
    have open_ : taking.outbound.isOpen = true := isOpen
    simp only [LiveConnection.step, LiveConnection.pump, next, PumpTask.take, open_, if_true]
  refine ⟨[.pump n, .pump n], rfl, ?_⟩
  rw [run, List.foldl_cons, List.foldl_cons, List.foldl_nil, take, send]
  have shared : taking.shared = _ := alter_running there _
  constructor
  case registry => exact (congrArg Shared.registry shared).trans (by rw [h.registry]; rfl)
  case store => exact (congrArg Shared.store shared).trans h.store
  case outbound =>
    have same : taking.outbound = connection.outbound := h.outbound
    simp only [setPump, post, same, id]
    rfl
  case isOpen => exact h.isOpen
  case notStuck => exact h.notStuck
  case listening => exact h.listening
  case unexited => exact fun beyond => h.unexited (by rwa [← Shared.calls_alter])
  case resting =>
    intro other (member : other ∈ taking.pumps.set n ((task.take output).send output))
    rw [show taking.pumps = live.pumps.set n (task.take output) from rfl, List.set_set] at member
    obtain member | rfl := List.mem_or_eq_of_mem_set member
    · exact h.resting other member
    · exact .inl rfl
  case watched =>
    rintro _ ⟨⟩ -
    refine ⟨n, _, List.getElem?_set_self ?_, id, rfl⟩
    exact (List.length_set ..).symm ▸ inRange
  case stopped =>
    rintro _ ⟨⟩
    exact stopped

/-- The subscription of the session yields a piece of output, and its pump sends it. -/
theorem emit (h : Follows connection live) (slot : connection.registry.slot = .running session)
    {watcher : Nat} (watched : session.watcher = some watcher) (output : Output) :
    Leads store (connection.sending [Connection.outputMessage session.pty.id output]) [] live := by
  -- The piece may come out of any queue, since nothing is known about how the session publishes.
  let full : Fanout := ⟨[], List.replicate (watcher + 1) ⟨none, [output], true⟩, false, none⟩
  let published := { session with pty := { session.pty with fanout := full } }
  let rest : Fanout := { full with queues := full.queues.set watcher ⟨none, [], true⟩ }
  have taken : full.receive watcher = (.item output, rest) := by
    have found : full.queues[watcher]? = some ⟨none, [output], true⟩ := by
      rw [List.getElem?_replicate, if_pos (Nat.lt_succ_self _)]
    simp only [Fanout.receive, found, rest]
  have publish : Leads store (connection.withSession published) [] live := h.publish slot (by simp)
  refine publish.trans fun {live} follows => ?_
  let sent := connection.sending [Connection.outputMessage session.pty.id output]
  have forward : Leads store (sent.withSession
      { published with pty := { published.pty with fanout := rest } }) [] live :=
    follows.forward rfl watched taken (by simp)
  refine forward.trans fun {live} follows => ?_
  have back : Leads store (sent.withSession session) [] live :=
    follows.publish rfl (h.stopped slot)
  rwa [sent.withSession_self slot] at back

/-- The subscription of the session yields pieces of output, and its pump sends them. -/
theorem emitAll (h : Follows connection live) (slot : connection.registry.slot = .running session)
    {outputs : List Output} (nobody : session.watcher = none → outputs = []) :
    Leads store (connection.sending (outputs.map (Connection.outputMessage session.pty.id))) []
      live := by
  cases watched : session.watcher with
  | none =>
      rw [nobody watched]
      simpa only [Connection.sending, List.map_nil, List.append_nil] using h.refl
  | some watcher =>
      clear nobody
      induction outputs generalizing connection live with
      | nil => simpa only [Connection.sending, List.map_nil, List.append_nil] using h.refl
      | cons output rest ih =>
          have first : Leads store _ [] live := h.emit slot watched output
          refine first.trans fun follows => ?_
          have later := ih follows slot
          simpa only [Connection.sending, List.map_cons, List.append_assoc, List.singleton_append]
            using later

/-- The shell and the consumers of the session go on. -/
theorem becomes (h : Follows connection live) (slot : connection.registry.slot = .running session)
    {session' : RunningSession π} (becomes : Becomes session session') (s : σ) :
    Leads store { connection.withSession session' with store := s } [] live := by
  obtain ⟨process, cols, rows, fanout, recorder, open_, recorded, rfl⟩ := becomes
  let worked := { session with pty := { session.pty with process, cols, rows } }
  let published := { worked with pty := { worked.pty with fanout } }
  have before := h.stopped slot
  have stopped : fanout.isClosed = true → session.pty.isRunning = false :=
    fun closed => before (open_ ▸ closed)
  have work : Leads store (connection.withSession worked) [] live :=
    have performed : session.perform store connection.store (.work process cols rows) =
        (worked, connection.store) := rfl
    h.progress slot performed before
  refine work.trans fun {live} follows => ?_
  have publish : Leads store (connection.withSession published) [] live :=
    follows.publish rfl stopped
  refine publish.trans fun {live} follows => ?_
  have record : Leads store (connection.withSession { published with recorder }) [] live := by
    cases entry : session.recorder with
    | none =>
        rw [entry, Option.map_none, Option.map_eq_none_iff] at recorded
        have same : { published with recorder } = published := by rw [recorded, ← entry]
        rw [same]
        exact follows.refl
    | some pair =>
        obtain ⟨previous, id⟩ := pair
        rw [entry, Option.map_some, Option.map_eq_some_iff] at recorded
        obtain ⟨⟨recorder, other⟩, rfl, same⟩ := recorded
        obtain rfl : other = id := same
        have still : published.recorder = some (previous, other) := entry
        exact follows.progress rfl (published.perform_record store connection.store still) stopped
  exact record.trans fun follows => follows.useStore s

/-- The recorder of the session, if there is one, finishes. -/
theorem finishRecording (h : Follows connection live)
    (slot : connection.registry.slot = .running session) (s : σ) :
    Leads store { connection.withSession { session with recorder := none } with store := s } []
      live := by
  cases entry : session.recorder with
  | none =>
      have same : { session with recorder := none } = session := by rw [← entry]
      rw [same, connection.withSession_self slot]
      exact h.useStore s
  | some pair =>
      obtain ⟨recorder, id⟩ := pair
      -- For the recorder the output has ended once its subscription is gone.
      let ended := { session with pty := { session.pty with fanout := .new } }
      have stopped := h.stopped slot
      have publish : Leads store (connection.withSession ended) [] live := h.publish slot (by rintro ⟨⟩)
      refine publish.trans fun {live} follows => ?_
      have performed : ended.perform store connection.store .finishRecording =
          ({ ended with recorder := none }, (ended.finishRecording store connection.store).2) := by
        have still : ended.recorder = some (recorder, id) := entry
        have noMore : (ended.pty.fanout.receive id).1 = .ended := rfl
        simp only [RunningSession.perform, still, noMore, if_true]
        rw [← Becomes.finishRecording store ended connection.store]
      have finish : Leads store _ [] live := follows.progress rfl performed (by rintro ⟨⟩)
      refine finish.trans fun {live} follows => ?_
      have back : Leads store { connection.withSession { session with recorder := none } with
          store := (ended.finishRecording store connection.store).2 } [] live :=
        follows.publish rfl stopped
      exact back.trans fun follows => follows.useStore s

/-- The reader comes to the end of the output. -/
theorem endOutput (h : Follows connection live) (slot : connection.registry.slot = .running session)
    (s : σ) :
    Leads store { connection.withSession
      { session with pty := session.pty.finishReading, recorder := none } with store := s } []
      live := by
  let ended := { session with pty := session.pty.finishReading }
  have performed : session.perform store connection.store .endOutput =
      (ended, connection.store) := rfl
  have finish : Leads store (connection.withSession ended) [] live :=
    h.progress slot performed fun _ => rfl
  exact finish.trans fun follows => follows.finishRecording rfl s

end Follows

/-! ## Calls that nobody disturbs -/

/-- A call that has stopped the shell ends with what came of it. -/
theorem resume_stopped (host : Host π) (store : RecordingStore σ) {live : LiveConnection π σ}
    {n : Nat} {call : Call π} (found : live.shared.calls[n]? = some call) {place : Nat}
    (stage : call.stage = .finishing place) (retired : live.shared.retired[place]? = some session)
    (unawaited : session.isAwaited = false) {result : Except SessionError Nat}
    (exited : live.exits.lookup n = some result) :
    ∃ retired, (live.resume store n host).resume store n host = { live with
      shared := { live.shared with retired }.settle n call (call.request.outcome result) } := by
  have inRange := (List.getElem?_eq_some_iff.mp found).1
  have settled (shared : Shared π σ) (calls : shared.calls = live.shared.calls) :
      ({ live with shared := shared.settle n call (call.request.outcome result) } :
        LiveConnection π σ).resume store n host =
      { live with shared := shared.settle n call (call.request.outcome result) } := by
    simp [resume, Shared.settle, calls, inRange, Call.answered]
  by_cases attached : (result.toOption.isSome && !session.pty.fanout.isClosed) = true
  · let closed := { session with pty := session.pty.close }
    let detached := { live.shared with retired := live.shared.retired.set place closed }
    have detach : live.resume store n host = { live with shared := detached } := by
      simp only [resume, found, stage, retired, finish, exited, if_pos attached]
      rfl
    have still : detached.retired[place]? = some closed :=
      List.getElem?_set_self (List.getElem?_eq_some_iff.mp retired).1
    have found : detached.calls[n]? = some call := found
    have gone : (result.toOption.isSome && !closed.pty.fanout.isClosed) = false := by
      simp [closed, PtySession.close, Fanout.close]
    refine ⟨detached.retired, ?_⟩
    rw [detach]
    have recorded : session.recorder = none := RunningSession.recorder_of_unawaited unawaited
    have alone : closed.isAwaited = false := by
      simp [RunningSession.isAwaited, closed, PtySession.close, Fanout.close, recorded]
    simp only [resume, found, stage, still, finish, exited, gone, alone]
    simp [detached]
  · refine ⟨live.shared.retired, ?_⟩
    have settle : live.resume store n host = { live with
        shared := live.shared.settle n call (call.request.outcome result) } := by
      simp only [resume, found, stage, retired, finish, exited, if_neg attached, unawaited]
      rfl
    rw [settle]
    exact settled live.shared rfl

/-- A call retires a session with no recorder to wait for. -/
theorem resume_taken (host : Host π) (store : RecordingStore σ) {live : LiveConnection π σ}
    {request : Request} (taken : live.shared.begin request = live.shared.take request (some session))
    (unexited : live.exits.lookup live.shared.calls.length = none)
    (unawaited : session.isAwaited = false) :
    let n := live.shared.calls.length
    ∃ retired,
      (((live.begin request).resume store n host).resume store n host).resume store n host =
        { live with
          shared := { live.shared with
            registry := live.shared.registry.retire session
            retired
            calls := live.shared.calls ++ [⟨request, some session.pty.id,
              .ended (request.outcome (session.pty.stop host).1)⟩] }
          exits := live.exits ++ [(n, (session.pty.stop host).1)] } := by
  intro n
  let call : Call π := ⟨request, some session.pty.id, .finishing live.shared.retired.length⟩
  let stopped := { session with pty := (session.pty.stop host).2 }
  let killed : LiveConnection π σ := { live with
    shared := { live.shared with
      registry := live.shared.registry.retire session
      retired := (live.shared.retired ++ [session]).set live.shared.retired.length stopped
      calls := live.shared.calls ++ [call] }
    exits := live.exits ++ [(n, (session.pty.stop host).1)] }
  have kill : (live.begin request).resume store n host = killed := by
    rw [LiveConnection.begin, taken]
    simp only [resume, Shared.take, Shared.enter, n, List.getElem?_concat_length, finish, unexited]
    rfl
  have found : killed.shared.calls[n]? = some call := List.getElem?_concat_length
  have still : killed.shared.retired[live.shared.retired.length]? = some stopped :=
    List.getElem?_set_self (by simp)
  have exited : killed.exits.lookup n = some (session.pty.stop host).1 := by
    rw [List.lookup_append, unexited, Option.none_or, List.lookup_cons_self]
  have alone : stopped.isAwaited = false := by
    obtain ⟨process, same⟩ := RunningSession.stop_cases host session.pty
    simp only [RunningSession.isAwaited, stopped, same]
    exact unawaited
  obtain ⟨retired, settled⟩ := resume_stopped host store found rfl still alone exited
  refine ⟨retired, ?_⟩
  rw [kill, settled]
  simp [killed, Shared.settle, Call.answered, call, n]

theorem lookup_concat {exits : List (Nat × Except SessionError Nat)} {n : Nat}
    (unexited : ∀ {m : Nat}, n ≤ m → exits.lookup m = none) (result : Except SessionError Nat)
    {m : Nat} (beyond : n + 1 ≤ m) : (exits ++ [(n, result)]).lookup m = none := by
  have differs : (m == n) = false := beq_eq_false_iff_ne.mpr (by omega)
  rw [List.lookup_append, unexited (by omega), Option.none_or, List.lookup_cons, differs]
  rfl

/-- The pump of a session sees the end of the output and asks to retire the session. -/
theorem run_ask {live : LiveConnection π σ} (slot : live.shared.registry.slot = .running session)
    {watcher : Nat} (watched : session.watcher = some watcher)
    (ended : (session.pty.fanout.receive watcher).1 = .ended) {n : Nat} {task : PumpTask}
    (found : live.pumps[n]? = some task) (id : task.id = session.pty.id)
    (waiting : task.stage = .waiting) :
    live.run store [.pump n, .pump n] =
      (live.setPump n (task.goTo (.reaping live.shared.calls.length))).begin (.reap task.id) := by
  have inRange := (List.getElem?_eq_some_iff.mp found).1
  have drain : live.step store (.pump n) = live.setPump n (task.goTo .finished) := by
    cases taken : session.pty.fanout.receive watcher with
    | mk received fanout =>
        rw [taken] at ended
        cases ended
        simp only [step, pump, found, waiting, take, id, session?_running slot, watched, taken]
  rw [run, List.foldl_cons, drain]
  simp [step, pump, setPump, inRange, PumpTask.goTo, LiveConnection.begin]

/-- The pump of a session that was retired gives notice. -/
theorem run_notify {live : LiveConnection π σ} (isOpen : live.outbound.isOpen = true) {n m : Nat}
    {task : PumpTask} (found : live.pumps[n]? = some task) (reaping : task.stage = .reaping m)
    (settled : live.shared.reply? m = some (.reaped true)) :
    live.run store [.pump n, .pump n] =
      (live.post .pump (Connection.stopNotice task.id)).setPump n (task.goTo .left) := by
  have inRange := (List.getElem?_eq_some_iff.mp found).1
  let notifying := live.setPump n (task.goTo .notifying)
  have notify : live.step store (.pump n) = notifying := by
    simp only [step, pump, found, reaping, settled]
    rfl
  have notice : notifying.step store (.pump n) =
      (notifying.post .pump (Connection.stopNotice task.id)).setPump n (task.goTo .left) := by
    have place : notifying.pumps[n]? = some (task.goTo .notifying) := List.getElem?_set_self inRange
    have open_ : notifying.outbound.isOpen = true := isOpen
    simp only [step, pump, place, PumpTask.goTo, open_, if_true]
  rw [run, List.foldl_cons, notify, List.foldl_cons, notice]
  simp [notifying, setPump, post]

/-- The pump of a session that has ended on its own retires it and gives notice. -/
theorem run_reap (host : Host π) (store : RecordingStore σ) {live : LiveConnection π σ}
    (slot : live.shared.registry.slot = .running session) (isOpen : live.outbound.isOpen = true)
    (unexited : live.exits.lookup live.shared.calls.length = none)
    (unawaited : session.isAwaited = false) {watcher : Nat} (watched : session.watcher = some watcher)
    (ended : (session.pty.fanout.receive watcher).1 = .ended)
    (stopped : session.pty.isRunning = false) {n : Nat} {task : PumpTask}
    (found : live.pumps[n]? = some task) (id : task.id = session.pty.id)
    (waiting : task.stage = .waiting) :
    let m := live.shared.calls.length
    let call : Call π := ⟨.reap task.id, some session.pty.id, .ended (.reaped true)⟩
    ∃ retired, live.run store ([.pump n, .pump n] ++
        [.resume m host, .resume m host, .resume m host] ++ [.pump n, .pump n]) =
      { live.post .pump (Connection.stopNotice task.id) with
        shared := { live.shared with
          registry := live.shared.registry.retire session
          retired
          calls := live.shared.calls ++ [call] }
        exits := live.exits ++ [(m, (session.pty.stop host).1)]
        pumps := live.pumps.set n (task.goTo .left) } := by
  intro m call
  let asking := live.setPump n (task.goTo (.reaping m))
  have taken : asking.shared.begin (.reap task.id) =
      asking.shared.take (.reap task.id) (some session) := by
    have reapable : live.shared.registry.reapable? task.id = some session := by
      rw [Registry.reapable?, slot, id, Connection.find?_running, if_pos rfl]
      simp [stopped]
    rw [Shared.begin, show asking.shared.registry.reapable? task.id = _ from reapable]
  obtain ⟨retired, resumed⟩ := resume_taken host store taken unexited unawaited
  let reaped : LiveConnection π σ := { asking with
    shared := { live.shared with
      registry := live.shared.registry.retire session
      retired
      calls := live.shared.calls ++ [call] }
    exits := live.exits ++ [(m, (session.pty.stop host).1)] }
  have resumed : (asking.begin (.reap task.id)).run store
      [.resume m host, .resume m host, .resume m host] = reaped := resumed
  have settled : reaped.shared.reply? m = some (.reaped true) := by
    have last : reaped.shared.calls[m]? = some call := List.getElem?_concat_length
    simp only [Shared.reply?, last, call]
  have place : reaped.pumps[n]? = some (task.goTo (.reaping m)) :=
    List.getElem?_set_self (List.getElem?_eq_some_iff.mp found).1
  have asked : live.run store [.pump n, .pump n] = asking.begin (.reap task.id) :=
    run_ask slot watched ended found id waiting
  have open_ : reaped.outbound.isOpen = true := isOpen
  have notified : reaped.run store [.pump n, .pump n] = _ := run_notify open_ place rfl settled
  refine ⟨retired, ?_⟩
  rw [run_append, run_append, asked, resumed, notified]
  simp [reaped, asking, setPump, post, PumpTask.goTo]

namespace Follows

/-- The pump of a session that takes no more input retires it and gives notice. -/
theorem reap (h : Follows connection live) (slot : connection.registry.slot = .running session)
    (watched : session.watcher.isSome = true) (stopped : session.pty.isRunning = false)
    (host : Host π) (s : σ) :
    Leads store { connection.sending [Connection.stopNotice session.pty.id] with
      registry := connection.registry.retire session, store := s } [] live := by
  have finish : Leads store
      { connection.withSession { session with recorder := none } with store := s } [] live :=
    h.finishRecording slot s
  refine finish.trans fun {live} follows => ?_
  -- For the pump the output has ended once its subscription is gone.
  let gone := { session with pty := { session.pty with fanout := Fanout.new.close }, recorder := none }
  have publish : Leads store { connection.withSession gone with store := s } [] live :=
    follows.publish rfl fun _ => stopped
  refine publish.trans fun {live} follows => ?_
  obtain ⟨watcher, watching⟩ := Option.isSome_iff_exists.mp watched
  obtain ⟨n, task, found, id, waiting⟩ := follows.watched rfl watched
  have there : live.shared.registry.slot = .running gone := by rw [follows.registry]; rfl
  have isOpen : live.outbound.isOpen = true := by rw [follows.outbound]; exact h.isOpen
  have unawaited : gone.isAwaited = false := by simp [RunningSession.isAwaited, gone, Fanout.close]
  obtain ⟨retired, run⟩ := run_reap host store there isOpen (follows.unexited le_rfl) unawaited watching
    rfl stopped found id waiting
  let m := live.shared.calls.length
  refine ⟨[.pump n, .pump n] ++ [.resume m host, .resume m host, .resume m host] ++
    [.pump n, .pump n], rfl, ?_⟩
  rw [run]
  have retire : live.shared.registry.retire gone = connection.registry.retire session := by
    rw [follows.registry]
    rfl
  constructor
  case registry => exact retire
  case store => exact follows.store
  case outbound =>
    have same : live.outbound = connection.outbound := follows.outbound
    simp only [post, same, id]
    rfl
  case isOpen => exact h.isOpen
  case notStuck => exact h.notStuck
  case listening => exact follows.listening
  case unexited =>
    intro k beyond
    refine lookup_concat follows.unexited _ ?_
    simpa using beyond
  case resting =>
    intro other member
    obtain member | rfl := List.mem_or_eq_of_mem_set member
    · exact follows.resting other member
    · exact .inr rfl
  case watched => rintro _ ⟨⟩
  case stopped => rintro _ ⟨⟩

/-- The session runs until nothing happens, and is retired when its output has ended. -/
theorem advance (h : Follows connection live) (host : Host π) :
    Leads store (connection.advance host store) [] live := by
  cases slot : connection.registry.slot with
  | absent | starting | stopped =>
      rw [show connection.advance host store = connection by simp only [Connection.advance, slot]]
      exact h.refl
  | running session =>
      obtain ⟨nobody, goesOn⟩ := Becomes.advance host store session connection.store
      simp only [Connection.advance, slot]
      rw [Connection.forward_open _ (by exact h.isOpen)]
      generalize session.advance host store connection.store = advanced at *
      obtain ⟨outputs, session', s⟩ := advanced
      dsimp only at *
      let sent := connection.sending (outputs.map (Connection.outputMessage session.pty.id))
      have emitted : Leads store sent [] live := h.emitAll slot nobody
      have advanced : Leads store { sent.withSession session' with store := s } [] live := by
        refine emitted.trans fun {live} follows => ?_
        obtain becomes | ⟨delivered, becomes, rfl⟩ := goesOn
        · exact follows.becomes slot becomes s
        · have first : Leads store { sent.withSession delivered with store := s } [] live :=
            follows.becomes slot becomes s
          exact first.trans fun follows => follows.endOutput rfl s
      have id : session'.pty.id = session.pty.id := by
        obtain becomes | ⟨delivered, becomes, rfl⟩ := goesOn
        · exact becomes.keeps.1
        · exact becomes.keeps.1
      simp only [if_true]
      split
      next ended =>
        obtain ⟨watched, closed⟩ := Bool.and_eq_true_iff.mp ended
        refine advanced.trans fun {live} follows => ?_
        have stopped : session'.pty.isRunning = false := follows.stopped rfl closed
        let registry : Registry π := { connection.registry with slot := .running session' }
        have comes : (session'.finish host store s).1 ≠ none := by
          rw [Ne, RunningSession.finish_eq_none_iff]
          rintro ⟨-, -, -, isOpen, -⟩
          rw [closed] at isOpen
          cases isOpen
        obtain ⟨result, finished⟩ := Option.ne_none_iff_exists'.mp comes
        have reap : registry.reap host store session.pty.id s =
            (some true, registry.retire session', (session'.finish host store s).2.2.2) := by
          rw [← id, Connection.reap_eq rfl s, stopped]
          simp only [Bool.false_eq_true, if_false, finished]
          rfl
        rw [show Registry.reap host store { connection.registry with slot := .running session' }
          session.pty.id s = _ from reap]
        have reaped : Leads store _ [] live :=
          follows.reap rfl watched stopped host (session'.finish host store s).2.2.2
        rw [id] at reaped
        have notified : (sent.outbound.send (Connection.stopNotice session.pty.id)).2 =
            (sent.sending [Connection.stopNotice session.pty.id]).outbound := by
          rw [Outbound.send, if_pos (by exact h.isOpen)]
          rfl
        change Leads store ⟨registry.retire session', (session'.finish host store s).2.2.2,
          (sent.outbound.send (Connection.stopNotice session.pty.id)).2, connection.isStuck⟩ [] live
        rw [notified]
        exact reaped
      next => exact advanced

end Follows

end LiveConnection

end TerminalAgent
