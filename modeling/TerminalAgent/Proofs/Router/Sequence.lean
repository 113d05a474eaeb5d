import TerminalAgent.Proofs.Router.Follows

/-! # A connection that does one thing after the other

A connection that handles a message, or lets its session run, before it does anything else is a
connection whose tasks take turns in one of the possible ways. Until nobody takes what it sends, its
tasks can bring it about whatever it does.
-/

namespace TerminalAgent

open RunningSession (Becomes)

/-! ## Requests -/

namespace Registry

variable {π σ : Type} {registry registry' : Registry π} {request : Request} {reply : Reply}
  {session : RunningSession π}

theorem becomes_operate (host : Host π) (request : Request) (session : RunningSession π) :
    Becomes session { session with pty := (request.operate host session.pty).2 } := by
  cases request with
  | write id data =>
      simp only [Request.operate, PtySession.write]
      split
      next => exact .refl session
      next => exact ⟨_, _, _, _, _, rfl, rfl, rfl⟩
  | resize id cols rows =>
      simp only [Request.operate, PtySession.resize]
      split
      next => exact .refl session
      next => split <;> exact ⟨_, _, _, _, _, rfl, rfl, rfl⟩
  | spawn | stop | reap | shutdown => exact .refl session

/-- Where the session comes from that runs after a request. -/
inductive Origin (registry : Registry π) (request : Request) (reply : Reply)
    (session : RunningSession π) : Prop
  | before {previous : RunningSession π} (slot : registry.slot = .running previous)
      (becomes : Becomes previous session)
  | started {size : Option (UInt16 × UInt16)} (asked : request = .spawn session.pty.id size)
      (accepted : reply = .done) (isOpen : session.pty.fanout.isClosed = false)

theorem origin_of_use {host : Host π} {id : String}
    (slot : (registry.use id (request.operate host)).2.slot = .running session) :
    registry.Origin request reply session := by
  unfold use at slot
  split at slot
  next => exact .before slot (.refl session)
  next found =>
    cases slot
    exact .before (find?_eq_some.mp (lookup_ok found)).1 (becomes_operate host request _)

theorem running?_abandon (claimed : registry.claim = .ok registry') :
    registry'.abandon.slot.running? = none := by
  unfold claim at claimed
  split at claimed <;> cases claimed <;> rfl

theorem start_open (host : Host π) (store : RecordingStore σ) {id : String} {spec : ShellSpec}
    {pty : PtySession π} (started : PtySession.start host id spec = .ok pty)
    (settings : Option RecorderSettings) (s : σ) :
    let session := (RunningSession.start store settings pty s).1
    session.pty.id = id ∧ session.pty.fanout.isClosed = false := by
  unfold PtySession.start at started
  split at started
  next => cases started
  next =>
    cases started
    cases settings <;> exact ⟨rfl, rfl⟩

theorem origin_of_spawn {host : Host π} {store : RecordingStore σ} {id : String}
    {size : Option (UInt16 × UInt16)} {s : σ}
    (slot : (registry.spawn host store id size s).2.1.slot = .running session) :
    registry.Origin (.spawn id size) (.of (registry.spawn host store id size s).1) session := by
  unfold spawn at slot ⊢
  cases claimed : registry.claim with
  | error error =>
      rw [claimed] at slot
      exact .before slot (.refl session)
  | ok registry' =>
      simp only [claimed] at slot ⊢
      cases started : PtySession.start host id (registry.specOf size) with
      | error error =>
          rw [started] at slot
          have vacant := running?_abandon claimed
          rw [slot] at vacant
          cases vacant
      | ok pty =>
          simp only [started] at slot ⊢
          cases slot
          obtain ⟨rfl, isOpen⟩ := start_open host store started registry'.recording s
          exact .started rfl rfl isOpen

/-- A session that runs after a request has run before, or it was started. -/
theorem serve_origin (host : Host π) (store : RecordingStore σ) (s : σ)
    (served : (registry.serve host store s request).1 = some reply)
    (slot : (registry.serve host store s request).2.1.slot = .running session) :
    registry.Origin request reply session := by
  cases taken : registry.taken? request with
  | some session =>
      rw [serve_of_taken taken] at slot
      cases slot
  | none =>
      cases request with
      | spawn id size =>
          have answer : .of (registry.spawn host store id size s).1 = reply := Option.some.inj served
          rw [← answer]
          exact origin_of_spawn slot
      | write id data => exact origin_of_use slot
      | resize id cols rows => exact origin_of_use slot
      | stop | reap | shutdown =>
          rw [serve_of_missing rfl taken] at slot
          exact .before slot (.refl session)

end Registry

/-! ## Calls -/

namespace Connection

variable {π σ : Type} {host : Host π} {store : RecordingStore σ} {connection : Connection π σ}

theorem shutdown_of_idle (notStuck : connection.isStuck = false)
    (idle : connection.registry.slot.running? = none) :
    connection.shutdown host store = connection := by
  obtain ⟨⟨spec, recording, slot⟩, s, outbound, isStuck⟩ := connection
  cases notStuck
  cases slot with
  | absent | starting | stopped => rfl
  | running => cases idle

theorem shutdown_of_running (notStuck : connection.isStuck = false) {session : RunningSession π}
    (slot : connection.registry.slot = .running session) :
    connection.shutdown host store =
      let finished := session.unwatch.finish host store connection.store
      { connection with
        registry := connection.registry.retire session
        store := finished.2.2.2
        isStuck := finished.1.isNone } := by
  have id : session.unwatch.pty.id = session.pty.id := RunningSession.tame_unwatch.id session
  simp only [shutdown, notStuck, slot, Registry.shutdown, Slot.running?, Registry.retire, id]
  simp

theorem isStuck_forward (connection : Connection π σ) (id : String) (outputs : List Output) :
    (connection.forward id outputs).2.isStuck = connection.isStuck := by
  induction outputs generalizing connection with
  | nil => rfl
  | cons output rest ih =>
      unfold forward
      split
      next => rfl
      next => exact ih _

theorem isStuck_advance : (connection.advance host store).isStuck = connection.isStuck := by
  unfold advance
  split
  next session _ =>
    have sent := isStuck_forward
      { connection with store := (session.advance host store connection.store).2.2 } session.pty.id
      (session.advance host store connection.store).1
    dsimp only
    generalize Connection.forward _ _ _ = forwarded at sent ⊢
    repeat' split
    all_goals exact sent
  next => rfl

theorem isStuck_route {message : Message} (isStuck : connection.isStuck = true) :
    (connection.route host store fresh message).2.isStuck = true := by
  have started : (connection.startShell host store fresh message).2.isStuck = true := by
    unfold startShell
    split
    next => exact isStuck
    next =>
      dsimp only
      split <;> exact isStuck
  have stopped : (connection.stopShell host store message).2.isStuck = true := by
    simp only [stopShell]
    rw [isStuck_forward, isStuck, Bool.true_or]
  have resized : (connection.resizeTerminal host message).2.isStuck = true := by
    unfold resizeTerminal
    split <;> exact isStuck
  unfold route
  repeat' split
  all_goals assumption

theorem isStuck_handle (isStuck : connection.isStuck = true) (bytes : Bytes) :
    (connection.handle host store fresh bytes).2.isStuck = true := by
  cases decoded : Message.decode bytes with
  | error error =>
      rw [handle, decoded]
      exact isStuck
  | ok message =>
      have routed : (connection.route host store fresh message).2.isStuck = true :=
        isStuck_route isStuck
      obtain handled | ⟨reply, handled⟩ := handle_of_decoded decoded
      · rw [handled, routed]
      · rw [handled]
        exact routed

/-- A connection that waits for something that never comes waits for ever. -/
theorem isStuck_step (isStuck : connection.isStuck = true) (event : Event) :
    (connection.step host store event).isStuck = true := by
  cases event with
  | arrive fresh bytes => exact isStuck_handle isStuck bytes
  | advance => rw [step, isStuck_advance, isStuck]
  | takeSent => exact isStuck
  | shutdown => rw [step, shutdown, if_pos isStuck, isStuck]

theorem isStuck_run (isStuck : connection.isStuck = true) (events : List Event) :
    (connection.run host store events).isStuck = true := by
  induction events generalizing connection with
  | nil => exact isStuck
  | cons event rest ih => exact ih (isStuck_step isStuck event)

/-- The id that is announced once an operation has ended. -/
def announced? : Registry.Request → Registry.Reply → Option String
  | .spawn id _, .done => some id
  | _, _ => none

end Connection

namespace LiveConnection

open Registry (Shared Request Reply Call)

variable {π σ : Type} {host : Host π} {store : RecordingStore σ} {connection : Connection π σ}
  {live live' : LiveConnection π σ} {session : RunningSession π}

/-- Outside of the end of a session, a call goes on as it does on the registry alone. -/
theorem resume_shared {n : Nat} {call : Call π} (found : live.shared.calls[n]? = some call)
    (unfinishing : ∀ place, call.stage ≠ .finishing place)
    (there : ∀ id, call.stage = .using id →
      ∃ session, live.shared.registry.slot = .running session ∧ session.pty.id = id) :
    live.resume store n host = { live with shared := live.shared.resume store host n } := by
  cases stage : call.stage with
  | spawning id size slot => simp only [resume, found, stage]
  | finishing place => exact absurd stage (unfinishing place)
  | ended reply => simp only [resume, Shared.resume, found, stage]
  | «using» id =>
      obtain ⟨session, slot, rfl⟩ := there id stage
      have put : live.shared.put
          { session with pty := (call.request.operate host session.pty).2 } =
          live.shared.alter session.pty.id fun session =>
            { session with pty := (call.request.operate host session.pty).2 } := by
        have same := call.request.operate_id host session.pty
        rw [alter_running slot, Shared.put]
        simp only [slot, Connection.find?_running, same, if_true]
      simp only [resume, Shared.resume, found, stage, session?_running slot, put]

/-- A call that has begun and finishes no session: the one that it uses is there. -/
def Simple (shared : Shared π σ) (call : Call π) : Prop :=
  (∀ place, call.stage ≠ .finishing place) ∧ ∀ id, call.stage = .using id →
    ∃ session, shared.registry.slot = .running session ∧ session.pty.id = id

theorem simple_visit (shared : Shared π σ) (request : Request) (id : String) :
    ∃ call, (shared.visit request id).calls = shared.calls ++ [call] ∧
      Simple (shared.visit request id) call := by
  unfold Shared.visit
  split
  next => exact ⟨_, rfl, nofun, nofun⟩
  next session found =>
    refine ⟨_, rfl, nofun, ?_⟩
    rintro _ ⟨⟩
    exact ⟨session, Registry.find?_eq_some.mp (Registry.lookup_ok found)⟩

theorem simple_begin {shared : Shared π σ} {request : Request}
    (untaken : shared.registry.taken? request = none) :
    ∃ call, (shared.begin request).calls = shared.calls ++ [call] ∧
      Simple (shared.begin request) call := by
  have refused (reply : Reply) : ∃ call, (shared.refuse request reply).calls =
      shared.calls ++ [call] ∧ Simple (shared.refuse request reply) call := ⟨_, rfl, by simp, by simp⟩
  cases request with
  | spawn id size =>
      simp only [Shared.begin]
      split
      next => exact refused _
      next => exact ⟨_, rfl, by simp, by simp⟩
  | write id data => exact simple_visit shared _ id
  | resize id cols rows => exact simple_visit shared _ id
  | stop | reap | shutdown =>
      rw [Registry.begin_of_missing rfl untaken]
      exact refused _

/-- A call that takes no session out of the slot ends with its second step. -/
theorem begin_resume {request : Request} (untaken : live.shared.registry.taken? request = none) :
    (live.begin request).resume store live.shared.calls.length host = { live with
      shared := (live.shared.begin request).resume store host live.shared.calls.length } := by
  obtain ⟨call, calls, unfinishing, there⟩ := simple_begin untaken
  have found : (live.begin request).shared.calls[live.shared.calls.length]? = some call := by
    rw [show (live.begin request).shared.calls = _ from calls, List.getElem?_concat_length]
  exact resume_shared found unfinishing there

/-- The router sends a reply, if there is one. -/
theorem route_toSend (isOpen : live.outbound.isOpen = true) {reply? : Option Message}
    (sending : live.routing = .toSend reply?) :
    live.route = { live with
      routing := .listening
      outbound := { live.outbound with sent := live.outbound.sent ++ reply?.toList }
      log := live.log ++ reply?.toList.map (Posting.mk .router) } := by
  cases reply? with
  | none =>
      have listening : live.routing = .listening := sending
      simp only [route, listening, Option.toList, List.append_nil, List.map_nil]
      rw [← listening]
  | some reply =>
      have replying : live.routing = .replying reply := sending
      simp only [route, replying]
      rw [if_pos isOpen]
      rfl

/-- What the router does with the reply to a call. -/
theorem route_concluded {n : Nat} {message : Message} {request : Request} {reply : Reply}
    (isOpen : live.outbound.isOpen = true) (calling : live.routing = .calling n message request)
    (ended : live.shared.reply? n = some reply) :
    let replies := (Connection.replyTo message request reply).toList
    live.route.route = { live with
      routing := .listening
      outbound := { live.outbound with sent := live.outbound.sent ++ replies }
      log := live.log ++ replies.map (Posting.mk .router)
      pumps := live.pumps ++ (Connection.announced? request reply).toList.map PumpTask.new } := by
  have conclude : live.route = { live with routing := .concluded message request reply } := by
    simp only [route, calling, ended]
  rw [conclude]
  obtain ⟨id, size, rfl, rfl, announcing⟩ | ⟨notSpawned, sending⟩ :=
    Attended.concluded_cases message request reply
  · simp only [route, announcing]
    rw [if_pos isOpen]
    rfl
  · have unannounced : Connection.announced? request reply = none := by
      unfold Connection.announced?
      split
      next => simp [Request.spawned?] at notSpawned
      next => rfl
    rw [route_toSend (by exact isOpen) sending, unannounced]
    simp

namespace Follows

/-- A reply is sent for which nothing was done. -/
theorem answered (h : Follows connection live) (reply? : Option Message)
    (sent : live' = { live with routing := .toSend reply? }) :
    Follows (connection.sending reply?.toList) live'.route := by
  subst sent
  have isOpen : live.outbound.isOpen = true := by rw [h.outbound, h.isOpen]
  rw [route_toSend (by exact isOpen) rfl]
  exact ⟨h.registry, h.store, by rw [h.outbound]; rfl, h.isOpen, h.notStuck, rfl, h.unexited,
    h.resting, h.watched, h.stopped⟩

/-- The reply to a call is sent, and a session that has started is watched. -/
theorem concluded (h : Follows connection live) {n : Nat} {message : Message} {request : Request}
    {reply : Reply} {registry : Registry π} {s : σ}
    (calling : live'.routing = .calling n message request)
    (ended : live'.shared.reply? n = some reply) (registered : live'.shared.registry = registry)
    (stored : live'.shared.store = s) (outbound : live'.outbound = live.outbound)
    (pumps : live'.pumps = live.pumps)
    (unexited : ∀ {m : Nat}, live'.shared.calls.length ≤ m → live'.exits.lookup m = none)
    (origin : ∀ {session : RunningSession π}, registry.slot = .running session →
      connection.registry.Origin request reply session) :
    Follows ({ connection with registry, store := s }.sending
      (Connection.replyTo message request reply).toList) live'.route.route := by
  have isOpen : live'.outbound.isOpen = true := by rw [outbound, h.outbound, h.isOpen]
  rw [route_concluded isOpen calling ended]
  constructor
  case registry => exact registered
  case store => exact stored
  case outbound =>
    simp only [outbound, h.outbound]
    rfl
  case isOpen => exact h.isOpen
  case notStuck => exact h.notStuck
  case listening => rfl
  case unexited => exact unexited
  case resting =>
    intro task member
    simp only [pumps, List.mem_append, List.mem_map] at member
    obtain known | ⟨id, -, rfl⟩ := member
    · exact h.resting task known
    · exact .inl rfl
  case watched =>
    intro session slot watched
    -- The pump of a session that has just started is the new one; any other pump keeps its place.
    cases origin slot with
    | before slot becomes =>
        obtain ⟨id, watcher, -⟩ := becomes.keeps
        rw [watcher] at watched
        obtain ⟨k, task, found, own, waiting⟩ := h.watched slot watched
        have inRange := (List.getElem?_eq_some_iff.mp found).1
        refine ⟨k, task, ?_, own.trans id.symm, waiting⟩
        simp only [pumps]
        rw [List.getElem?_append_left inRange, found]
    | started asked accepted =>
        subst asked accepted
        refine ⟨live.pumps.length, .new session.pty.id, ?_, rfl, rfl⟩
        simp only [pumps]
        exact List.getElem?_concat_length
  case stopped =>
    intro session slot closed
    cases origin slot with
    | before slot becomes =>
        obtain ⟨-, -, running, open_⟩ := becomes.keeps
        rw [running]
        exact h.stopped slot (open_ ▸ closed)
    | started _ _ isOpen =>
        rw [isOpen] at closed
        cases closed

theorem ids_arrive (fresh : String) (bytes : Bytes) {actions : List (Action π σ)}
    (others : actions.filterMap Action.spawned? = []) :
    (Action.arrive fresh bytes :: actions).filterMap Action.spawned? =
      (spawnedBy (fresh, bytes)).toList := by
  have first : (Action.arrive fresh bytes : Action π σ).spawned? = spawnedBy (fresh, bytes) := rfl
  rw [List.filterMap_cons, others, first]
  cases spawnedBy (fresh, bytes) <;> rfl

/-- What arrives asks for nothing. -/
theorem unasked (h : Follows connection live) {fresh : String} {bytes : Bytes}
    {reply? : Option Message} (intake : Connection.intake fresh bytes = .answer reply?) :
    Leads store (connection.sending reply?.toList) (spawnedBy (fresh, bytes)).toList live := by
  refine ⟨[.arrive fresh bytes, .route], ids_arrive fresh bytes rfl, ?_⟩
  refine h.answered reply? ?_
  simp only [step, arrive, h.listening, if_true, intake]

/-- What arrives asks for an operation that retires no session. -/
theorem asked (h : Follows connection live) {fresh : String} {bytes : Bytes} {message : Message}
    {request : Request} (intake : Connection.intake fresh bytes = .ask message request)
    (untaken : connection.registry.taken? request = none) (host : Host π) {reply : Reply}
    (comes : (connection.registry.serve host store connection.store request).1 = some reply) :
    let served := connection.registry.serve host store connection.store request
    let connection' := { connection with registry := served.2.1, store := served.2.2 }
    Leads store (connection'.sending (Connection.replyTo message request reply).toList)
      (spawnedBy (fresh, bytes)).toList live := by
  intro served connection'
  let n := live.shared.calls.length
  let calling := { live with routing := .calling n message request }
  have arrive : live.arrive fresh bytes = calling.begin request := by
    simp only [LiveConnection.arrive, h.listening, if_true, intake]
    rfl
  have untaken : calling.shared.registry.taken? request = none := by
    rw [show calling.shared.registry = _ from h.registry, untaken]
  have resume : (calling.begin request).resume store n host = _ := begin_resume untaken
  let after := (live.shared.begin request).resume store host n
  obtain ⟨registered, stored, took, calls⟩ : after.registry = served.2.1 ∧ after.store = served.2.2 ∧
      ∃ took, after.calls = live.shared.calls ++ [⟨request, took, .ended reply⟩] := by
    have there : (live.shared.registry.serve host store live.shared.store request).1 = some reply := by
      rw [h.registry, h.store, comes]
    obtain ⟨same, calls⟩ := Shared.undisturbed host store live.shared there
    rw [h.registry, h.store] at same
    exact ⟨congrArg Prod.fst same, congrArg Prod.snd same, calls⟩
  refine ⟨[.arrive fresh bytes, .resume n host, .route, .route], ids_arrive fresh bytes rfl, ?_⟩
  simp only [run, List.foldl_cons, List.foldl_nil, step, arrive, resume]
  refine h.concluded rfl ?_ registered stored rfl rfl ?_ (Registry.serve_origin host store _ comes)
  · have replied : after.reply? n = some reply := by
      rw [Shared.reply?, calls, List.getElem?_concat_length]
    exact replied
  · intro m (beyond : after.calls.length ≤ m)
    rw [calls, List.length_append] at beyond
    exact h.unexited (by omega)

/-- What arrives asks to stop the session. The rest of its output is sent first. -/
theorem stops (h : Follows connection live) {fresh : String} {bytes : Bytes} {message : Message}
    {id : String} (intake : Connection.intake fresh bytes = .ask message (.stop id))
    (taken : connection.registry.taken? (.stop id) = some session) (host : Host π)
    {result : Except SessionError Nat}
    (comes : (session.finish host store connection.store).1 = some result) :
    let finished := session.finish host store connection.store
    let reply := Request.outcome (.stop id) result
    let retired := { connection with
      registry := connection.registry.retire session, store := finished.2.2.2 }
    Leads store
      ((retired.sending (finished.2.1.map (Connection.outputMessage id))).sending
        (Connection.replyTo message (.stop id) reply).toList)
      (spawnedBy (fresh, bytes)).toList live := by
  intro finished reply retired
  have slot := Registry.slot_of_taken taken
  obtain rfl : session.pty.id = id := (Registry.find?_eq_some.mp taken).2
  obtain ⟨results, nobody⟩ := RunningSession.finish_eq host store session connection.store
  -- The rest of the output is sent and recorded before the call begins that takes the session.
  let sent := connection.sending (finished.2.1.map (Connection.outputMessage session.pty.id))
  have emitted : Leads store sent [] live :=
    h.emitAll slot nobody
  refine emitted.trans fun {live} follows => ?_
  let ended := { session with pty := session.pty.finishReading, recorder := none }
  let recorded := { sent.withSession ended with store := finished.2.2.2 }
  have finish : Leads store recorded [] live := follows.endOutput slot finished.2.2.2
  refine finish.trans fun {live} follows => ?_
  let n := live.shared.calls.length
  let calling := { live with routing := .calling n message (.stop session.pty.id) }
  have arrive : live.arrive fresh bytes = calling.begin (.stop session.pty.id) := by
    simp only [LiveConnection.arrive, follows.listening, if_true, intake]
    rfl
  have still : live.shared.registry.taken? (.stop session.pty.id) = some ended := by
    rw [follows.registry]
    exact Registry.find?_eq_some.mpr ⟨rfl, rfl⟩
  have begun : calling.shared.begin (.stop session.pty.id) = _ := Registry.begin_of_taken still
  have unawaited : ended.isAwaited = false := RunningSession.unawaited_endOutput session
  obtain ⟨retired, resumed⟩ := resume_taken host store begun (follows.unexited le_rfl) unawaited
  refine ⟨[.arrive fresh bytes, .resume n host, .resume n host, .resume n host, .route, .route],
    ids_arrive fresh bytes rfl, ?_⟩
  simp only [run, List.foldl_cons, List.foldl_nil, step, arrive]
  rw [show ((((calling.begin (.stop session.pty.id)).resume store n host).resume store n host).resume
    store n host) = _ from resumed]
  have registered : live.shared.registry.retire ended = connection.registry.retire session := by
    rw [follows.registry]
    rfl
  refine follows.concluded rfl ?_ registered follows.store rfl rfl ?_ (by rintro _ ⟨⟩)
  · have exited : (ended.pty.stop host).1 = result :=
      (RunningSession.stop_finishReading host session.pty).trans (results result comes).symm
    simp only [Shared.reply?, calling, n, List.getElem?_concat_length, exited]
    rfl
  · intro m beyond
    refine lookup_concat follows.unexited _ ?_
    simpa [calling] using beyond

/-- What arrives asks for an operation. -/
theorem serve (h : Follows connection live) {fresh : String} {bytes : Bytes} {message : Message}
    {request : Request} (asks : Connection.Asks fresh message request)
    (intake : Connection.intake fresh bytes = .ask message request) (host : Host π) {reply : Reply}
    (served : (connection.registry.serve host store connection.store request).1 = some reply) :
    Leads store
      (connection.afterwards host store request (Connection.replyTo message request reply).toList)
      (spawnedBy (fresh, bytes)).toList live := by
  cases taken : connection.registry.taken? request with
  | none =>
      have nothing : connection.lastOutputs host store request = [] := by
        cases asks with
        | spawn | input | resize => rfl
        | stop =>
            have missing : connection.registry.stoppable? (Connection.targetId message) = none :=
              taken
            simp only [Connection.lastOutputs, Registry.stop, missing, List.map_nil]
      have led : Leads store _ _ live := h.asked intake taken host served
      simp only [Connection.afterwards, nothing, List.append_nil, served, Option.isNone_some,
        Bool.or_false]
      exact led
  | some session =>
      cases asks with
      | spawn | input | resize => cases taken
      | stop =>
          have found : connection.registry.stoppable? (Connection.targetId message) = some session :=
            taken
          rw [Registry.serve_of_taken taken] at served
          obtain ⟨result, comes, rfl⟩ := Option.map_eq_some_iff.mp served
          have led : Leads store _ _ live := h.stops intake taken host comes
          simp only [Connection.afterwards, Connection.lastOutputs, Registry.stop, found,
            Registry.serve_of_taken taken, comes, Option.map_some, Option.isNone_some, Bool.or_false]
          exact led

/-- Something arrives, and is answered. -/
theorem handle (h : Follows connection live) (host : Host π) {fresh : String} {bytes : Bytes}
    (goesOn : (connection.handle host store fresh bytes).2.isStuck = false) :
    Leads store (connection.handle host store fresh bytes).2 (spawnedBy (fresh, bytes)).toList
      live := by
  cases decoded : Message.decode bytes with
  | error error =>
      have intake : Connection.intake fresh bytes =
          .answer (some (Connection.malformedReply bytes error)) := by
        simp only [Connection.intake, decoded]
      rw [Connection.handle_of_malformed h.isOpen decoded]
      exact h.unasked intake
  | ok message =>
      cases faulty : Connection.fault? message with
      | some error =>
          have intake : Connection.intake fresh bytes =
              .answer (some (error.reply message.proto message.typ message.sessionId?)) := by
            simp only [Connection.intake, decoded, faulty]
          rw [Connection.handle_of_fault h.isOpen decoded faulty]
          exact h.unasked intake
      | none =>
          cases asked : Connection.request? fresh message with
          | none =>
              have intake : Connection.intake fresh bytes =
                  .answer (Connection.plainReply? message) := by
                simp only [Connection.intake, decoded, faulty, asked]
              rw [Connection.handle_of_plain h.isOpen decoded faulty asked]
              exact h.unasked intake
          | some request =>
              have intake : Connection.intake fresh bytes = .ask message request := by
                simp only [Connection.intake, decoded, faulty, asked]
              cases served : (connection.registry.serve host store connection.store request).1 with
              | none =>
                  rw [Connection.handle_of_endless h.isOpen decoded asked served] at goesOn
                  simp [Connection.afterwards, served] at goesOn
              | some reply =>
                  rw [Connection.handle_of_request h.isOpen decoded asked served]
                  exact h.serve (Connection.asks_of_request asked).2 intake host served

theorem takeSent (h : Follows connection live) : Leads store connection.takeSent.2 [] live := by
  refine ⟨[.takeSent], rfl, h.registry, h.store, ?_, h.isOpen, h.notStuck, h.listening, h.unexited,
    h.resting, h.watched, h.stopped⟩
  simp only [run, List.foldl_cons, List.foldl_nil, step, Connection.takeSent, h.outbound]

end Follows

/-! ## The end -/

theorem registry_alter (shared : Shared π σ) (id : String) (f : RunningSession π → RunningSession π) :
    (shared.alter id f).registry = shared.registry ∨
      ∃ session, shared.registry.slot = .running session ∧
        (shared.alter id f).registry = { shared.registry with slot := .running (f session) } := by
  unfold Shared.alter
  split
  next session found => exact .inr ⟨session, (Registry.find?_eq_some.mp found).1, rfl⟩
  next => exact .inl rfl

theorem store_alter (shared : Shared π σ) (id : String) (f : RunningSession π → RunningSession π) :
    (shared.alter id f).store = shared.store := by
  unfold Shared.alter
  split <;> rfl

/-- Some pumps have left, and nothing else has happened. -/
structure Parts (live live' : LiveConnection π σ) : Prop where
  routing : live'.routing = live.routing
  exits : live'.exits = live.exits
  outbound : live'.outbound = live.outbound
  isCancelled : live'.isCancelled = live.isCancelled
  store : live'.shared.store = live.shared.store
  calls : live'.shared.calls = live.shared.calls
  pumps : live'.pumps.length = live.pumps.length
  resting : ∀ task ∈ live'.pumps, task.stage = .waiting ∨ task.stage = .left
  registry : live'.shared.registry = live.shared.registry ∨
    ∃ session session', live.shared.registry.slot = .running session ∧
      live'.shared.registry = { live.shared.registry with slot := .running session' } ∧
      session'.pty.id = session.pty.id ∧ (session.isAwaited = false → session'.isAwaited = false)

namespace Parts

theorem refl (resting : ∀ task ∈ live.pumps, task.stage = .waiting ∨ task.stage = .left) :
    Parts live live :=
  ⟨rfl, rfl, rfl, rfl, rfl, rfl, rfl, resting, .inl rfl⟩

theorem dismiss (h : Parts live live') (n : Nat) (task : PumpTask) :
    Parts live (live'.dismiss n task) := by
  have tame : RunningSession.Tame (RunningSession.unwatch (π := π)) := RunningSession.tame_unwatch
  refine ⟨h.routing, h.exits, h.outbound, h.isCancelled, ?_, ?_, ?_, ?_, ?_⟩
  · exact (store_alter ..).trans h.store
  · exact (Shared.calls_alter ..).trans h.calls
  · exact (List.length_set ..).trans h.pumps
  · intro other member
    obtain member | rfl := List.mem_or_eq_of_mem_set member
    · exact h.resting other member
    · exact .inr rfl
  · obtain same | ⟨changed, slot, now⟩ :=
      registry_alter live'.shared task.id RunningSession.unwatch
    · rw [show (live'.dismiss n task).shared.registry = _ from same]
      exact h.registry
    · rw [show (live'.dismiss n task).shared.registry = _ from now]
      have awaited := RunningSession.isAwaited_unwatch changed
      obtain same | ⟨session, session', before, after, id, unawaited⟩ := h.registry
      · rw [same] at slot ⊢
        exact .inr ⟨changed, _, slot, rfl, tame.id changed, awaited.trans⟩
      · rw [after] at slot ⊢
        cases slot
        exact .inr ⟨session, _, before, rfl, (tame.id changed).trans id,
          fun nobody => awaited.trans (unawaited nobody)⟩

/-- A pump that is told to leave leaves, unless it has left. -/
theorem leave_cases (h : Parts live live') (cancelled : live.isCancelled = true) (k : Nat) :
    (live'.leave k = live' ∧ ∀ task, live'.pumps[k]? = some task → task.stage = .left) ∨
      ∃ task, live'.pumps[k]? = some task ∧ live'.leave k = live'.dismiss k task := by
  have still : live'.isCancelled = true := by rw [h.isCancelled, cancelled]
  cases found : live'.pumps[k]? with
  | none => exact .inl ⟨by simp [LiveConnection.leave, found], nofun⟩
  | some task =>
      obtain waiting | left := h.resting task (List.mem_of_getElem? found)
      · exact .inr ⟨task, rfl, by simp [LiveConnection.leave, still, found, waiting]⟩
      · refine .inl ⟨by simp [LiveConnection.leave, found, left], ?_⟩
        rintro _ ⟨⟩
        exact left

/-- The pumps leave one after the other. -/
theorem leave (store : RecordingStore σ) (cancelled : live.isCancelled = true)
    (resting : ∀ task ∈ live.pumps, task.stage = .waiting ∨ task.stage = .left) (k : Nat) :
    let live' := live.run store ((List.range k).map .leave)
    Parts live live' ∧
      ∀ n < k, ∀ task, live'.pumps[n]? = some task → task.stage = .left := by
  induction k with
  | zero => exact ⟨refl resting, nofun⟩
  | succ k ih =>
      obtain ⟨parts, gone⟩ := ih
      rw [List.range_succ, List.map_append, run_append]
      generalize live.run store ((List.range k).map .leave) = live' at parts gone ⊢
      rw [show live'.run store ([k].map .leave) = live'.leave k from rfl]
      obtain ⟨same, left⟩ | ⟨task, found, dismissed⟩ := parts.leave_cases cancelled k
      · rw [same]
        refine ⟨parts, fun n below task there => ?_⟩
        obtain below | rfl := Nat.lt_succ_iff_lt_or_eq.mp below
        · exact gone n below task there
        · exact left task there
      · rw [dismissed]
        refine ⟨parts.dismiss k task, fun n below other there => ?_⟩
        have pumps : (live'.dismiss k task).pumps = live'.pumps.set k (task.goTo .left) := rfl
        rw [pumps] at there
        obtain below | rfl := Nat.lt_succ_iff_lt_or_eq.mp below
        · rw [List.getElem?_set_ne (by omega)] at there
          exact gone n below other there
        · rw [List.getElem?_set_self (List.getElem?_eq_some_iff.mp found).1] at there
          cases there
          rfl

end Parts

/-- The tasks have brought a connection to its end, which is this state. -/
structure Ends (connection : Connection π σ) (live : LiveConnection π σ) : Prop where
  registry : live.shared.registry = connection.registry
  store : live.shared.store = connection.store
  outbound : live.outbound = connection.outbound
  notStuck : connection.isStuck = false
  complete : live.routing = .complete

/-- The tasks can bring a connection to its end, which is this state. -/
def LeadsToEnd (store : RecordingStore σ) (connection : Connection π σ) (live : LiveConnection π σ) :
    Prop :=
  ∃ actions : List (Action π σ), actions.filterMap Action.spawned? = [] ∧
    Ends connection (live.run store actions)

theorem route_stopping {n : Nat} (stopping : live.routing = .stopping n) {reply : Reply}
    (ended : live.shared.reply? n = some reply) :
    live.route = { live with routing := .complete } := by
  simp only [route, stopping, ended]

/-- Whatever runs is stopped once the pumps are gone. -/
theorem ends_of_gone (closing : live.routing = .closing)
    (gone : ∀ task ∈ live.pumps, task.stage = .left)
    (unexited : live.exits.lookup live.shared.calls.length = none)
    (unawaited : ∀ {session : RunningSession π}, live.shared.registry.slot = .running session →
      session.isAwaited = false) (host : Host π) :
    LeadsToEnd store
      { registry :=
          live.shared.registry.slot.running?.elim live.shared.registry live.shared.registry.retire
        store := live.shared.store
        outbound := live.outbound
        isStuck := false } live := by
  let n := live.shared.calls.length
  let stopping := { live with routing := .stopping n }
  have all : live.pumps.all (·.stage = .left) = true := by simpa using gone
  have stop : live.route = stopping.begin .shutdown := by
    simp only [route, closing, all, if_true]
    rfl
  cases running : live.shared.registry.slot.running? with
  | none =>
      let refused := { stopping with shared := live.shared.refuse .shutdown .done }
      have begun : stopping.begin .shutdown = refused := by
        simp only [LiveConnection.begin, Shared.begin, stopping, running]
        rfl
      have replied : refused.shared.reply? n = some .done := by
        simp [Shared.reply?, refused, Shared.refuse, Shared.enter, n]
      have complete : refused.route = _ := route_stopping rfl replied
      refine ⟨[.route, .route], rfl, ?_⟩
      simp only [run, List.foldl_cons, List.foldl_nil, step, stop, begun, complete]
      exact ⟨rfl, rfl, rfl, rfl, rfl⟩
  | some session =>
      have taken : stopping.shared.begin .shutdown = stopping.shared.take .shutdown (some session) :=
        Registry.begin_of_taken running
      obtain ⟨retired, resumed⟩ := resume_taken host store taken unexited
        (unawaited (Registry.running?_eq_some.mp running))
      let resume := (((stopping.begin .shutdown).resume store n host).resume store n host).resume
        store n host
      have replied : resume.shared.reply? n = some .done := by
        rw [show resume = _ from resumed]
        simp [Shared.reply?, Request.outcome, stopping, n]
      have routing : resume.routing = .stopping n := by rw [show resume = _ from resumed]
      have complete : resume.route = _ := route_stopping routing replied
      refine ⟨[.route, .resume n host, .resume n host, .resume n host, .route], rfl, ?_⟩
      simp only [run, List.foldl_cons, List.foldl_nil, step, stop]
      rw [show (resume.route : LiveConnection π σ) = _ from complete,
        show resume = _ from resumed]
      exact ⟨rfl, rfl, rfl, rfl, rfl⟩

/-- The pumps leave, and whatever runs is stopped. -/
theorem Follows.leaves (h : Follows connection live)
    (unawaited : ∀ {session : RunningSession π}, connection.registry.slot = .running session →
      session.isAwaited = false) (host : Host π) :
    LeadsToEnd store { connection with registry :=
      connection.registry.slot.running?.elim connection.registry connection.registry.retire }
      live := by
  have close : live.run store [.shutdown] = live.close := by
    simp [run, step, h.listening]
  let leaves : List (Action π σ) := (List.range live.pumps.length).map .leave
  let parted := live.close.run store leaves
  have cancelled : live.close.isCancelled = true := rfl
  obtain ⟨parts, left⟩ := Parts.leave store cancelled h.resting live.pumps.length
  have gone (task : PumpTask) (member : task ∈ parted.pumps) : task.stage = .left := by
    obtain ⟨n, found⟩ := List.mem_iff_getElem?.mp member
    have inRange := (List.getElem?_eq_some_iff.mp found).1
    have before : n < live.pumps.length := parts.pumps ▸ inRange
    exact left n before task found
  have unexited : parted.exits.lookup parted.shared.calls.length = none := by
    rw [parts.exits, parts.calls]
    exact h.unexited le_rfl
  have registry : live.close.shared.registry = connection.registry := h.registry
  have still {session : RunningSession π} (slot : parted.shared.registry.slot = .running session) :
      session.isAwaited = false := by
    obtain same | ⟨session', now, before, after, -, still⟩ := parts.registry
    · rw [same, registry] at slot
      exact unawaited slot
    · rw [after] at slot
      cases slot
      exact still (unawaited (registry ▸ before))
  have retired : parted.shared.registry.slot.running?.elim parted.shared.registry
      parted.shared.registry.retire =
      connection.registry.slot.running?.elim connection.registry connection.registry.retire := by
    obtain same | ⟨session, session', before, after, id, -⟩ := parts.registry
    · rw [same, registry]
    · rw [registry] at before after
      rw [after, before]
      simp only [Slot.running?, Option.elim_some, Registry.retire, id]
  have ended : LeadsToEnd store _ parted := ends_of_gone parts.routing gone unexited still host
  obtain ⟨more, ids, ends⟩ := ended
  have silent : leaves.filterMap Action.spawned? = [] := by
    rw [List.filterMap_map]
    exact List.filterMap_eq_nil_iff.mpr fun _ _ => rfl
  refine ⟨[.shutdown] ++ leaves ++ more, ?_, ?_⟩
  · rw [List.filterMap_append, List.filterMap_append, silent, ids]
    rfl
  · rw [run_append, run_append, close]
    exact ⟨ends.registry.trans retired, ends.store.trans (parts.store.trans h.store),
      ends.outbound.trans (parts.outbound.trans h.outbound), h.notStuck, ends.complete⟩

/-- The connection ends. -/
theorem Follows.shutdown (h : Follows connection live) (host : Host π)
    (goesOn : (connection.shutdown host store).isStuck = false) :
    LeadsToEnd store (connection.shutdown host store) live := by
  cases running : connection.registry.slot.running? with
  | none =>
      have ended : LeadsToEnd store _ live :=
        h.leaves (fun slot => by rw [slot] at running; cases running) host
      rw [running] at ended
      rwa [Connection.shutdown_of_idle h.notStuck running]
  | some session =>
      have slot := Registry.running?_eq_some.mp running
      rw [Connection.shutdown_of_running h.notStuck slot] at goesOn ⊢
      -- The pumps leave a session whose output has ended and was recorded already.
      let finished := session.unwatch.finish host store connection.store
      let silent := { session with pty := session.pty.finishReading, recorder := none }
      have finish : Leads store { connection.withSession silent with
          store := finished.2.2.2 } [] live := h.endOutput slot finished.2.2.2
      obtain ⟨actions, ids, follows⟩ := finish
      have unawaited : silent.isAwaited = false := RunningSession.unawaited_endOutput session
      have ended : LeadsToEnd store _ (live.run store actions) :=
        follows.leaves (by rintro _ ⟨⟩; exact unawaited) host
      obtain ⟨more, idsToo, ends⟩ := ended
      refine ⟨actions ++ more, ?_, ?_⟩
      · rw [List.filterMap_append, ids, idsToo]
        rfl
      · rw [run_append]
        exact ⟨ends.registry, ends.store, ends.outbound, goesOn, ends.complete⟩

/-! ## Runs -/

theorem follows_new (spec : ShellSpec) (recording : Option RecorderSettings) (s : σ) :
    Follows (Connection.new spec recording s : Connection π σ) (new spec recording s) :=
  ⟨rfl, rfl, rfl, rfl, rfl, rfl, fun _ => rfl, nofun, nofun, nofun⟩

/-- The id of the session that an event is to start. -/
def spawnedAt : Connection.Event → Option String
  | .arrive fresh bytes => spawnedBy (fresh, bytes)
  | _ => none

/-- Whatever happens to a connection until it ends or waits for something that never comes, its tasks can
    take turns so that they bring it about. -/
theorem Follows.run (h : Follows connection live) (host : Host π) {events : List Connection.Event}
    (goesOn : .shutdown ∉ events) (notStuck : (connection.run host store events).isStuck = false) :
    Leads store (connection.run host store events) (events.filterMap spawnedAt) live := by
  induction events generalizing connection live with
  | nil => exact h.refl
  | cons event rest ih =>
      have later : (connection.step host store event).isStuck = false := by
        refine Bool.eq_false_iff.mpr fun isStuck => ?_
        have always : (connection.run host store (event :: rest)).isStuck = true :=
          Connection.isStuck_run isStuck rest
        rw [notStuck] at always
        cases always
      have first : Leads store (connection.step host store event) (spawnedAt event).toList live := by
        cases event with
        | arrive fresh bytes => exact h.handle host later
        | advance => exact h.advance host
        | takeSent => exact h.takeSent
        | shutdown => exact absurd List.mem_cons_self goesOn
      have both : Leads store _ ((spawnedAt event).toList ++ rest.filterMap spawnedAt) live :=
        first.trans fun follows =>
          ih follows (fun later => goesOn (List.mem_cons_of_mem _ later)) notStuck
      have ids : (spawnedAt event).toList ++ rest.filterMap spawnedAt =
          (event :: rest).filterMap spawnedAt := by
        rw [List.filterMap_cons]
        cases spawnedAt event <;> rfl
      rwa [ids] at both

/-- Its tasks can bring a connection to its end in the state in which it ends. -/
theorem run_ends (store : RecordingStore σ) (host : Host π) (spec : ShellSpec)
    (recording : Option RecorderSettings) (s : σ) {events : List Connection.Event}
    (goesOn : .shutdown ∉ events) :
    let connection := ((Connection.new spec recording s).run host store events).shutdown host store
    connection.isStuck = false →
      ∃ actions : List (Action π σ), actions.filterMap Action.spawned? = events.filterMap spawnedAt ∧
        Ends connection ((new spec recording s).run store actions) := by
  intro connection notStuck
  have earlier : ((Connection.new spec recording s).run host store events).isStuck = false := by
    refine Bool.eq_false_iff.mpr fun isStuck => ?_
    have always : connection.isStuck = true := Connection.isStuck_step isStuck .shutdown
    rw [notStuck] at always
    cases always
  have led : Leads store _ _ (new spec recording s) :=
    (follows_new spec recording s).run host goesOn earlier
  obtain ⟨actions, ids, follows⟩ := led
  obtain ⟨more, nothing, ends⟩ : LeadsToEnd store _ _ := follows.shutdown host notStuck
  refine ⟨actions ++ more, ?_, ?_⟩
  · rw [List.filterMap_append, ids, nothing, List.append_nil]
  · rwa [run_append]

end LiveConnection

end TerminalAgent
