import TerminalAgent.Proofs.Router.Replies
import TerminalAgent.Proofs.Session.Drained
import TerminalAgent.Proofs.Session.Live

/-! # The order in which a connection works

A connection lets its session run in one order: each piece that is read is published and taken by the
recorder and the watcher at once, and all that is watched is sent afterwards. This is one of the ways
in which the steps of the session can be interleaved.
-/

namespace TerminalAgent.LiveSession

variable {π σ : Type} {host : Host π} {store : RecordingStore σ}
  {kept : String → σ → Option Recording}

/-- The session has gone on and so much output was sent. -/
def after (live : LiveSession π σ) (session : RunningSession π) (ledger : Fanout.Ledger) (s : σ)
    (stats : Option RecorderStats) (outputs : List Output) : LiveSession π σ :=
  let messages := outputs.map (Connection.outputMessage live.id)
  { live with
    session, ledger, stats
    store := s
    outbound := { live.outbound with sent := live.outbound.sent ++ messages }
    log := live.log ++ messages }

/-- Some steps bring the session to this state, with so much output sent. -/
def Comes (store : RecordingStore σ) (kept : String → σ → Option Recording)
    (live : LiveSession π σ) (session : RunningSession π) (s : σ) (outputs : List Output) : Prop :=
  ∃ actions ledger stats, live.run store kept actions = live.after session ledger s stats outputs

namespace Comes

theorem refl (live : LiveSession π σ) : Comes store kept live live.session live.store [] :=
  ⟨[], live.ledger, live.stats, by simp [run, after]⟩

theorem trans {live : LiveSession π σ} {session session' : RunningSession π} {s s' : σ}
    {outputs outputs' : List Output} (h : Comes store kept live session s outputs)
    (same : session.pty.id = live.session.pty.id)
    (h' : ∀ ledger stats,
      Comes store kept (live.after session ledger s stats outputs) session' s' outputs') :
    Comes store kept live session' s' (outputs ++ outputs') := by
  obtain ⟨actions, ledger, stats, first⟩ := h
  obtain ⟨more, ledger', stats', later⟩ := h' ledger stats
  refine ⟨actions ++ more, ledger', stats', ?_⟩
  simp only [run] at first later ⊢
  rw [List.foldl_append, first, later]
  simp only [after, LiveSession.id, same, List.map_append, List.append_assoc]

theorem quietly {live : LiveSession π σ} {session session' : RunningSession π} {s s' : σ}
    {outputs : List Output} (h : Comes store kept live session s outputs)
    (same : session.pty.id = live.session.pty.id)
    (h' : ∀ ledger stats,
      Comes store kept (live.after session ledger s stats outputs) session' s' []) :
    Comes store kept live session' s' outputs := by
  have both := h.trans same h'
  rwa [List.append_nil] at both

theorem of_step {live : LiveSession π σ} {action : Action π σ} {session : RunningSession π} {s : σ}
    {ledger : Fanout.Ledger} {stats : Option RecorderStats}
    (h : live.step store kept action = live.after session ledger s stats []) :
    Comes store kept live session s [] := ⟨[action], ledger, stats, h⟩

end Comes

theorem step_record {live : LiveSession π σ} {recorder : Recorder} {id : Nat} {output : Output}
    {fanout : Fanout} (found : live.session.recorder = some (recorder, id))
    (taken : live.session.pty.fanout.receive id = (.item output, fanout)) (atMs : Nat) :
    live.step store kept (.record atMs) =
      live.after
        { live.session with
          pty := { live.session.pty with fanout }
          recorder := some ((recorder.receive store atMs output live.store).1, id) }
        (live.history.perform (.receive id)).toLedger
        (recorder.receive store atMs output live.store).2 live.stats [] := by
  have taken' : live.history.fanout.receive id = (.item output, fanout) := taken
  simp only [step, found, taken, after, act, Fanout.History.perform, taken', List.map_nil,
    List.append_nil]

theorem recordUpTo_comes (count : Nat) {live : LiveSession π σ} {recorder : Recorder} {id : Nat}
    (found : live.session.recorder = some (recorder, id)) :
    let received := live.session.pty.fanout.receiveUpTo id count
    let recorded := received.1.foldl
      (fun (state : Recorder × σ) output => state.1.receive store 0 output state.2)
      (recorder, live.store)
    Comes store kept live
      { live.session with
        pty := { live.session.pty with fanout := received.2 }
        recorder := some (recorded.1, id) } recorded.2 [] := by
  induction count generalizing live recorder with
  | zero =>
      have same : Comes store kept live _ _ _ := Comes.refl live
      simpa only [Fanout.receiveUpTo, List.foldl_nil, ← found] using same
  | succ count ih =>
      cases taken : live.session.pty.fanout.receive id with
      | mk received fanout =>
          cases received with
          | item output =>
              rw [Fanout.receiveUpTo_succ taken]
              have first : Comes store kept live _ _ _ := Comes.of_step (step_record found taken 0)
              exact first.trans rfl fun ledger stats => ih rfl
          | nothing | ended =>
              have same : Comes store kept live _ _ _ := Comes.refl live
              have unchanged : fanout = live.session.pty.fanout :=
                (Fanout.receive_idle taken (by simp)).1
              simpa only [Fanout.receiveUpTo, taken, unchanged, List.foldl_nil, ← found] using same

theorem record_comes (live : LiveSession π σ) :
    Comes store kept live (live.session.record store live.store).1
      (live.session.record store live.store).2 [] := by
  cases found : live.session.recorder with
  | none =>
      have same : Comes store kept live _ _ _ := Comes.refl live
      simpa only [RunningSession.record, found] using same
  | some entry =>
      obtain ⟨recorder, id⟩ := entry
      simp only [RunningSession.record, found]
      exact recordUpTo_comes _ found

/-- The pump takes a piece of output and sends it. -/
theorem forward_comes {live : LiveSession π σ} (waiting : live.pump = .waiting)
    (isOpen : live.outbound.isOpen = true) {id : Nat} (watched : live.session.watcher = some id)
    {output : Output} {fanout : Fanout}
    (taken : live.session.pty.fanout.receive id = (.item output, fanout)) :
    Comes store kept live { live.session with pty := { live.session.pty with fanout } } live.store
      [output] := by
  have taken' : live.history.fanout.receive id = (.item output, fanout) := taken
  have take : live.step store kept .take =
      { live.act (.receive id) with pump := .sending output } := by
    simp only [step, waiting, watched, taken]
  refine ⟨[.take, .send], (live.history.perform (.receive id)).toLedger, live.stats, ?_⟩
  simp only [run, List.foldl_cons, List.foldl_nil, take]
  simp only [step]
  rw [send_of_open (by exact isOpen)]
  simp only [after, act, Fanout.History.perform, taken', ← waiting]
  rfl

theorem forwardUpTo_comes (count : Nat) {live : LiveSession π σ} (waiting : live.pump = .waiting)
    (isOpen : live.outbound.isOpen = true) {id : Nat} (watched : live.session.watcher = some id) :
    let received := live.session.pty.fanout.receiveUpTo id count
    Comes store kept live
      { live.session with pty := { live.session.pty with fanout := received.2 } } live.store
      received.1 := by
  induction count generalizing live with
  | zero => exact Comes.refl live
  | succ count ih =>
      cases taken : live.session.pty.fanout.receive id with
      | mk received fanout =>
          cases received with
          | item output =>
              rw [Fanout.receiveUpTo_succ taken]
              have first : Comes store kept live _ _ _ := forward_comes waiting isOpen watched taken
              exact first.trans rfl fun ledger stats => ih waiting isOpen watched
          | nothing | ended =>
              have unchanged : fanout = live.session.pty.fanout :=
                (Fanout.receive_idle taken (by simp)).1
              simp only [Fanout.receiveUpTo, taken, unchanged]
              exact Comes.refl live

theorem watch_comes {live : LiveSession π σ}
    (waiting : live.session.watcher.isSome → live.pump = .waiting)
    (isOpen : live.outbound.isOpen = true) :
    Comes store kept live live.session.watch.2 live.store live.session.watch.1 := by
  cases watched : live.session.watcher with
  | none =>
      simp only [RunningSession.watch, watched]
      exact Comes.refl live
  | some id =>
      have watch : live.session.watch =
          ((live.session.pty.fanout.receiveAll id).1,
            { live.session with
              pty := { live.session.pty with
                fanout := (live.session.pty.fanout.receiveAll id).2 } }) := by
        simp only [RunningSession.watch, watched]
      rw [watch]
      exact forwardUpTo_comes _ (waiting (by simp [watched])) isOpen watched

/-- A piece of output is published, recorded, watched and sent. -/
theorem deliver_comes {live : LiveSession π σ} (drained : live.session.Drained)
    (waiting : live.session.watcher.isSome → live.pump = .waiting)
    (isOpen : live.outbound.isOpen = true) {output : Output} (short : output.data.length ≤ 4096) :
    Comes store kept live (live.session.deliver store output live.store).2.1
      (live.session.deliver store output live.store).2.2
      (live.session.deliver store output live.store).1 := by
  let published := { live.session with pty := live.session.pty.publish output }
  have publish : Comes store kept live published live.store [] := by
    have idle : live.history.fanout.pending = none := drained.idle
    have step : live.step store kept (.publish output) =
        live.after published (live.history.perform (.publish output)).toLedger live.store live.stats
          [] := by
      simp only [LiveSession.step, if_neg (Nat.not_lt.mpr short), act, Fanout.History.perform, idle,
        after, List.map_nil, List.append_nil]
      rfl
    exact Comes.of_step step
  have recorded : Comes store kept live (published.record store live.store).1
      (published.record store live.store).2 [] :=
    publish.trans rfl fun ledger stats =>
      record_comes (live.after published ledger live.store stats [])
  obtain ⟨id, watcher⟩ := (RunningSession.record_further store published live.store).keeps
  refine recorded.trans id fun ledger stats => watch_comes (fun isSome => waiting ?_) isOpen
  rwa [← show _ = live.session.watcher from watcher]

theorem deliverAll_comes {outputs : List Output}
    (short : ∀ output ∈ outputs, output.data.length ≤ 4096) {live : LiveSession π σ}
    (drained : live.session.Drained)
    (waiting : outputs ≠ [] → live.session.watcher.isSome → live.pump = .waiting)
    (isOpen : live.outbound.isOpen = true) :
    let delivered := RunningSession.deliverAll store outputs live.session live.store
    Comes store kept live delivered.2.1 delivered.2.2 delivered.1 := by
  induction outputs generalizing live with
  | nil => exact Comes.refl live
  | cons output rest ih =>
      have waiting := waiting (by simp)
      have first : Comes store kept live _ _ _ :=
        deliver_comes drained waiting isOpen (short output (by simp))
      obtain ⟨id, watcher⟩ :=
        (RunningSession.deliver_further store live.session output live.store).keeps
      refine first.trans id fun ledger stats => ?_
      refine ih (fun other member => short other (by simp [member]))
        (drained.deliver output live.store) (fun _ isSome => waiting ?_) isOpen
      rwa [← watcher]

theorem work_comes (live : LiveSession π σ) (process : π) :
    Comes store kept live
      { live.session with pty := { live.session.pty with process } } live.store [] :=
  ⟨[.work process live.session.pty.cols live.session.pty.rows], live.ledger, live.stats, by
    simp [run, step, after]⟩

theorem endOutput_comes {live : LiveSession π σ} (drained : live.session.Drained) :
    Comes store kept live { live.session with pty := live.session.pty.finishReading } live.store
      [] := by
  refine ⟨[.endOutput], (live.history.perform .close).toLedger, live.stats, ?_⟩
  simp [run, step, after, drained.idle]

theorem finishRecording_comes {live : LiveSession π σ} (drained : live.session.Drained)
    (closed : live.session.pty.fanout.isClosed = true) :
    Comes store kept live (live.session.finishRecording store live.store).1
      (live.session.finishRecording store live.store).2 [] := by
  cases found : live.session.recorder with
  | none =>
      simp only [RunningSession.finishRecording, found]
      exact Comes.refl live
  | some entry =>
      obtain ⟨recorder, id⟩ := entry
      have ended := congrArg Prod.fst (drained.ended closed (drained.recorded found))
      refine ⟨[.finishRecording], live.ledger, some (recorder.finish store live.store).1, ?_⟩
      simp only [run, List.foldl_cons, List.foldl_nil, step, found, ended, if_true, after,
        List.map_nil, List.append_nil]

/-- The session reads and delivers all there is. -/
theorem advance_comes
    (short : host.Short)
    {live : LiveSession π σ} (drained : live.session.Drained)
    (waiting : live.session.pty.isDone = false → live.session.watcher.isSome →
      live.pump = .waiting)
    (isOpen : live.outbound.isOpen = true) :
    let advanced := live.session.advance host store live.store
    Comes store kept live advanced.2.1 advanced.2.2 advanced.1 := by
  obtain ⟨process, outputs, short, done, cases_⟩ :=
    RunningSession.advance_cases store short live.session live.store
  let pulled := { live.session with pty := { live.session.pty with process } }
  have drainedPulled : pulled.Drained := drained.work process live.session.pty.isRunning
  let delivered := RunningSession.deliverAll store outputs pulled live.store
  -- After the end of the output nothing is read, and then the pump need not wait.
  have waiting (some_ : outputs ≠ []) : live.session.watcher.isSome → live.pump = .waiting := by
    refine waiting ?_
    by_contra isDone
    exact some_ (done (by simpa using isDone))
  have deliver : Comes store kept live delivered.2.1 delivered.2.2 delivered.1 :=
    (work_comes live process).trans rfl fun ledger stats =>
      deliverAll_comes short drainedPulled waiting isOpen
  obtain ⟨id, -⟩ := (RunningSession.deliverAll_further store pulled outputs live.store).keeps
  have drainedDelivered : delivered.2.1.Drained := drainedPulled.deliverAll outputs live.store
  intro advanced
  rcases cases_ with same | ended
  · rw [show advanced = delivered from same]
    exact deliver
  · rw [show advanced = _ from ended]
    have finish : Comes store kept live
        { delivered.2.1 with pty := delivered.2.1.pty.finishReading } delivered.2.2 delivered.1 :=
      deliver.quietly id fun ledger stats => endOutput_comes drainedDelivered
    exact finish.quietly id fun ledger stats =>
      finishRecording_comes drainedDelivered.finishReading rfl

theorem close_comes {live : LiveSession π σ} (retired : live.isRetired = true) :
    Comes store kept live { live.session with pty := live.session.pty.close } live.store [] := by
  refine ⟨[.close], (live.history.perform .close).toLedger, live.stats, ?_⟩
  simp [run, step, after, retired]

/-- The pump sees the end and retires the session. -/
theorem run_take_reap {live : LiveSession π σ} (drained : live.session.Drained)
    (waiting : live.pump = .waiting) {id : Nat} (watched : live.session.watcher = some id)
    (closed : live.session.pty.fanout.isClosed = true)
    (stopped : live.session.pty.isRunning = false) (notRetired : live.isRetired = false) :
    live.run store kept [.take, .reap] = { live with pump := .finished, isRetired := true } := by
  have ended := drained.ended closed (drained.watched watched)
  have take : live.step store kept .take = { live with pump := .finished } := by
    simp only [step, waiting, watched, ended]
  simp only [run, List.foldl_cons, List.foldl_nil, take]
  simp only [step, retire, stopped, notRetired, decide_true, Bool.not_false, Bool.and_self, if_true]
  rw [← stopped]

/-- Whoever waits for the recorder lets the rest of the output be recorded. -/
theorem awaitRecorder_comes (short : host.Short) {live : LiveSession π σ}
    (drained : live.session.Drained)
    (waiting : live.session.pty.isDone = false → live.session.watcher.isSome →
      live.pump = .waiting)
    (isOpen : live.outbound.isOpen = true) {rest : List Output × RunningSession π × σ}
    (awaited : live.session.awaitRecorder? host store live.store = some rest) :
    Comes store kept live rest.2.1 rest.2.2 rest.1 := by
  obtain ⟨ready, rfl⟩ | ⟨outputs, final, read, notDone, rfl⟩ :=
    RunningSession.awaitRecorder_cases live.session awaited
  · obtain unrecorded | closed := ready
    · simp only [RunningSession.finishRecording, unrecorded]
      exact Comes.refl live
    · exact finishRecording_comes drained closed
  · let pulled := { live.session with pty := { live.session.pty with process := final } }
    have drainedPulled : pulled.Drained := drained.work final live.session.pty.isRunning
    let delivered := RunningSession.deliverAll store outputs pulled live.store
    have drainedDelivered : delivered.2.1.Drained := drainedPulled.deliverAll outputs live.store
    obtain ⟨id, -⟩ := (RunningSession.deliverAll_further store pulled outputs live.store).keeps
    have deliver : Comes store kept live delivered.2.1 delivered.2.2 delivered.1 :=
      (work_comes live final).trans rfl fun ledger stats =>
        deliverAll_comes (short.readToEnd read) drainedPulled (fun _ => waiting notDone) isOpen
    have ended : Comes store kept live
        { delivered.2.1 with pty := delivered.2.1.pty.finishReading } delivered.2.2 delivered.1 :=
      deliver.quietly id fun ledger stats => endOutput_comes drainedDelivered
    exact ended.quietly id fun ledger stats =>
      finishRecording_comes drainedDelivered.finishReading rfl

/-- The shell has ended, and whoever has retired the session reads the rest and detaches everyone. -/
theorem close_finish_comes (short : host.Short) {live : LiveSession π σ}
    (drained : live.session.Drained)
    (waiting : live.session.pty.isDone = false → live.session.watcher.isSome →
      live.pump = .waiting)
    (isOpen : live.outbound.isOpen = true) (retired : live.isRetired = true) {watched : List Output}
    {advanced : RunningSession π} {s : σ}
    (went : live.session.advance host store live.store = (watched, advanced, s)) :
    let closed := { advanced with pty := advanced.pty.close }
    Comes store kept live (closed.finishRecording store s).1 (closed.finishRecording store s).2
      watched := by
  have drainedAdvanced : (live.session.advance host store live.store).2.1.Drained :=
    drained.advance short live.store
  obtain ⟨id, -⟩ := RunningSession.advance_keeps short store live.session live.store
  have advance : Comes store kept live _ _ _ := advance_comes short drained waiting isOpen
  rw [went] at drainedAdvanced id advance
  have close : Comes store kept live { advanced with pty := advanced.pty.close } s watched :=
    advance.quietly id fun ledger stats => close_comes retired
  exact close.quietly id fun ledger stats => finishRecording_comes drainedAdvanced.close rfl

/-- Whoever has retired the session finishes it, or does all of it that ever comes to its end. -/
theorem finish_comes (short : host.Short) {live : LiveSession π σ} (drained : live.session.Drained)
    (waiting : live.session.pty.isDone = false → live.session.watcher.isSome →
      live.pump = .waiting)
    (isOpen : live.outbound.isOpen = true) (retired : live.isRetired = true)
    (stopped : live.session.pty.isRunning = false) :
    let finished := live.session.finish host store live.store
    Comes store kept live finished.2.2.1 finished.2.2.2 finished.2.1 := by
  obtain ⟨process, stop⟩ := RunningSession.stop_cases host live.session.pty
  have stop : (live.session.pty.stop host).2 = { live.session.pty with process } := by
    rw [stop, ← stopped]
  let ending := { live.session with pty := { live.session.pty with process } }
  have drainedEnding (ledger : Fanout.Ledger) (stats : Option RecorderStats) :
      (live.after ending ledger live.store stats []).session.Drained :=
    drained.work process live.session.pty.isRunning
  have finishes := RunningSession.finish_finishes host store live.session live.store
  intro finished
  change RunningSession.Finishes host store live.session live.store finished at finishes
  generalize finished = finished at finishes
  cases finishes with
  | ended killed went =>
      obtain rfl : _ = _ := (congrArg Prod.snd killed).symm.trans stop
      exact (work_comes live process).trans rfl fun ledger stats =>
        close_finish_comes short (drainedEnding ledger stats) waiting isOpen retired went
  | survived killed awaited =>
      obtain rfl : _ = _ := (congrArg Prod.snd killed).symm.trans stop
      exact (work_comes live process).trans rfl fun ledger stats =>
        awaitRecorder_comes short (drainedEnding ledger stats) waiting isOpen awaited
  | endless killed =>
      obtain rfl : _ = _ := (congrArg Prod.snd killed).symm.trans stop
      exact work_comes live process

end TerminalAgent.LiveSession

namespace TerminalAgent.Connection

variable {π σ : Type} {host : Host π} {store : RecordingStore σ}
  {kept : String → σ → Option Recording}

/-- The connection has the session, whose pump waits for output unless it has left. -/
structure Serves (connection : Connection π σ) (live : LiveSession π σ) : Prop where
  slot : connection.registry.slot = .running live.session
  store : connection.store = live.store
  outbound : connection.outbound = live.outbound
  isOpen : live.outbound.isOpen = true
  drained : live.session.Drained
  pumping : live.pump = .waiting ∨ live.session.watcher = none ∧ live.pump = .left
  notRetired : live.isRetired = false
  notStuck : connection.isStuck = false

/-- The connection had the session. -/
structure Retired (connection : Connection π σ) (live : LiveSession π σ) : Prop where
  slot : connection.registry.slot = .stopped live.id
  store : connection.store = live.store
  outbound : connection.outbound = live.outbound

/-- The connection has gone on with the session, or it has retired it. -/
def GoesOn (store : RecordingStore σ) (kept : String → σ → Option Recording)
    (connection : Connection π σ) (live : LiveSession π σ) : Prop :=
  ∃ actions, Serves connection (live.run store kept actions) ∨
    Retired connection (live.run store kept actions)

theorem forward_open (connection : Connection π σ) (isOpen : connection.outbound.isOpen = true)
    (id : String) (outputs : List Output) :
    connection.forward id outputs = (true,
      { connection with
        outbound := { connection.outbound with
          sent := connection.outbound.sent ++ outputs.map (outputMessage id) } }) := by
  induction outputs generalizing connection with
  | nil => simp [forward]
  | cons output rest ih =>
      simp only [forward, Outbound.send, isOpen, if_true, pure, Except.pure]
      rw [ih _ rfl]
      simp

theorem find?_running (session : RunningSession π) (id : String) :
    (Slot.running session).find? id = if session.pty.id = id then some session else none := by
  by_cases same : session.pty.id = id <;>
    simp [Slot.find?, Slot.running?, Option.filter, same]

/-- Only a session that takes no more input is retired after the end. -/
theorem reap_eq {registry : Registry π} {session : RunningSession π}
    (slot : registry.slot = .running session) (s : σ) :
    registry.reap host store session.pty.id s =
      if session.pty.isRunning then (some false, registry, s)
      else ((session.finish host store s).1.map fun _ => true, registry.retire session,
        (session.finish host store s).2.2.2) := by
  cases running : session.pty.isRunning <;>
    simp [Registry.reap, Registry.reapable?, slot, find?_running, Option.filter, running]

namespace Serves

variable {connection : Connection π σ} {live : LiveSession π σ}

theorem waiting (h : Serves connection live) (watched : live.session.watcher.isSome) :
    live.pump = .waiting := by
  rcases h.pumping with waiting | ⟨unwatched, -⟩
  · exact waiting
  · simp [unwatched] at watched

/-- The session has gone on without being retired. -/
theorem comes (h : Serves connection live) {connection' : Connection π σ}
    {session : RunningSession π} {s : σ} {outputs : List Output}
    (come : LiveSession.Comes store kept live session s outputs)
    (drained : session.Drained) (watcher : session.watcher = live.session.watcher)
    (slot : connection'.registry.slot = .running session) (store_ : connection'.store = s)
    (outbound : connection'.outbound =
      { live.outbound with
        sent := live.outbound.sent ++ outputs.map (outputMessage live.id) })
    (notStuck : connection'.isStuck = false) : GoesOn store kept connection' live := by
  obtain ⟨actions, ledger, stats, run⟩ := come
  refine ⟨actions, .inl ?_⟩
  rw [run]
  refine ⟨slot, store_, outbound, h.isOpen, drained, ?_, h.notRetired, notStuck⟩
  rcases h.pumping with waiting | ⟨unwatched, left⟩
  · exact .inl waiting
  · exact .inr ⟨watcher.trans unwatched, left⟩

end Serves

/-- Whatever is no output may be sent at any time. -/
theorem GoesOn.reply {connection : Connection π σ} {live : LiveSession π σ}
    (h : GoesOn store kept connection live) {message : Message} (other : isOutput message = false) :
    GoesOn store kept
      { connection with outbound := (connection.outbound.send message).2 } live := by
  obtain ⟨actions, h⟩ := h
  refine ⟨actions ++ [.sendOther message], ?_⟩
  rw [LiveSession.run_append]
  generalize live.run store kept actions = live' at h ⊢
  simp only [LiveSession.run, List.foldl_cons, List.foldl_nil, LiveSession.step_sendOther other]
  rcases h with h | h
  · have stillOpen : (live'.outbound.send message).2.isOpen = true := by
      simp [Outbound.send, h.isOpen]
    exact .inl ⟨h.slot, h.store, by rw [h.outbound], stillOpen, h.drained, h.pumping, h.notRetired,
      h.notStuck⟩
  · exact .inr ⟨h.slot, h.store, by rw [h.outbound]⟩

section
variable (short : host.Short)
  {connection connection' : Connection π σ} {live : LiveSession π σ}
include short

/-- A session that was taken out of its slot is finished. -/
theorem goesOn_of_finish {live' : LiveSession π σ} {actions : List (LiveSession.Action π σ)}
    (reached : live.run store kept actions = live') (drained : live'.session.Drained)
    (waiting : live'.session.pty.isDone = false → live'.session.watcher.isSome →
      live'.pump = .waiting)
    (isOpen : live'.outbound.isOpen = true) (retired : live'.isRetired = true)
    (stopped : live'.session.pty.isRunning = false)
    (slot : connection'.registry.slot = .stopped live.id)
    (store_ : connection'.store = (live'.session.finish host store live'.store).2.2.2)
    (outbound : connection'.outbound =
      { live'.outbound with
        sent := live'.outbound.sent ++
          (live'.session.finish host store live'.store).2.1.map (outputMessage live.id) }) :
    GoesOn store kept connection' live := by
  have come : LiveSession.Comes store kept live' _ _ _ :=
    LiveSession.finish_comes short drained waiting isOpen retired stopped
  obtain ⟨more, ledger, stats, come⟩ := come
  have id : (live.run store kept (actions ++ more)).id = live.id := LiveSession.id_run ..
  refine ⟨actions ++ more, .inr ⟨by rw [id, slot], ?_, ?_⟩⟩
  · rw [LiveSession.run_append, reached, come]
    exact store_
  · rw [LiveSession.run_append, reached, come, outbound, ← LiveSession.id_run live actions, reached]
    rfl

/-- A session that was watched to its end is finished. -/
theorem Serves.reaped (h : Serves connection live) {session : RunningSession π} {s : σ}
    {outputs : List Output} (come : LiveSession.Comes store kept live session s outputs)
    (drained : session.Drained) (watcher : session.watcher = live.session.watcher)
    (watched : session.watcher.isSome) (closed : session.pty.fanout.isClosed = true)
    (stopped : session.pty.isRunning = false)
    (slot : connection'.registry.slot = .stopped live.id)
    (store_ : connection'.store = (session.finish host store s).2.2.2)
    (outbound : connection'.outbound =
      { live.outbound with
        sent := live.outbound.sent ++ outputs.map (outputMessage live.id) }) :
    GoesOn store kept connection' live := by
  obtain ⟨actions, ledger, stats, run⟩ := come
  obtain ⟨id, found⟩ := Option.isSome_iff_exists.mp watched
  have waiting : live.pump = .waiting := h.waiting (by rw [← watcher, watched])
  let ended := { live.after session ledger s stats outputs with pump := .finished, isRetired := true }
  have reached : live.run store kept (actions ++ [.take, .reap]) = ended := by
    rw [LiveSession.run_append, run]
    exact LiveSession.run_take_reap drained waiting found closed stopped h.notRetired
  have isDone : session.pty.isDone = true := (drained.nobody closed).2
  have nothing : (session.finish host store s).2.1 = [] :=
    RunningSession.finish_quiet store short session s (.inl isDone)
  refine goesOn_of_finish short reached drained ?_ h.isOpen rfl stopped slot store_ ?_
  · intro (notDone : session.pty.isDone = false)
    rw [isDone] at notDone
    cases notDone
  · rw [outbound]
    simp [ended, LiveSession.after, nothing]

/-- The session is let run. When it has ended, it is retired. -/
theorem advance_goesOn (h : Serves connection live) :
    GoesOn store kept (connection.advance host store) live := by
  have drained : (live.session.advance host store live.store).2.1.Drained :=
    h.drained.advance short live.store
  obtain ⟨id, watcher⟩ := RunningSession.advance_keeps short store live.session live.store
  have come : LiveSession.Comes store kept live _ _ _ :=
    LiveSession.advance_comes short h.drained (fun _ => h.waiting) h.isOpen
  have isOpen : connection.outbound.isOpen = true := by rw [h.outbound, h.isOpen]
  simp only [advance, h.slot, h.store]
  rw [forward_open _ (by exact isOpen)]
  simp only [if_true]
  split
  next ended =>
    generalize live.session.advance host store live.store = advanced at *
    obtain ⟨outputs, session, s⟩ := advanced
    dsimp only at *
    -- The session has gone on in its slot, under the id that it had before.
    let registry : Registry π := { connection.registry with slot := .running session }
    have reap : registry.reap host store live.session.pty.id s =
        if session.pty.isRunning then (some false, registry, s)
        else ((session.finish host store s).1.map fun _ => true, registry.retire session,
          (session.finish host store s).2.2.2) := by
      rw [← id]
      exact reap_eq rfl s
    obtain ⟨watched, closed⟩ := Bool.and_eq_true_iff.mp ended
    rw [show Registry.reap host store { connection.registry with slot := .running session }
      live.session.pty.id s = _ from reap]
    cases running : session.pty.isRunning with
    | true => exact h.comes come drained watcher rfl rfl (by rw [h.outbound]; rfl) h.notStuck
    | false =>
        have retired : GoesOn store kept
            { connection with
              registry := registry.retire session
              store := (session.finish host store s).2.2.2
              outbound := { connection.outbound with
                sent := connection.outbound.sent ++
                  outputs.map (outputMessage live.session.pty.id) } } live := by
          have slot : (registry.retire session).slot = .stopped live.id := congrArg Slot.stopped id
          exact h.reaped short come drained watcher watched closed running slot rfl
            (by rw [h.outbound]; rfl)
        simp only [Bool.false_eq_true, if_false]
        split
        next => exact retired.reply (isOutput_stopNotice live.session.pty.id)
        next => exact retired
  next => exact h.comes come drained watcher rfl rfl (by rw [h.outbound]; rfl) h.notStuck

/-- A request stops the session, or it is about another one. -/
theorem stopShell_goesOn (h : Serves connection live) (message : Message) :
    GoesOn store kept (connection.stopShell host store message).2 live := by
  have isOpen : connection.outbound.isOpen = true := by rw [h.outbound, h.isOpen]
  by_cases same : live.session.pty.id = targetId message
  · let stopped := live.disturb.retire
    have reached : live.run store kept [.stop] = stopped := by
      simp [LiveSession.run, LiveSession.step, h.notRetired, stopped]
    have stop : connection.registry.stop host store (targetId message) connection.store =
        ((live.session.finish host store live.store).1,
          (live.session.finish host store live.store).2.1, connection.registry.retire live.session,
          (live.session.finish host store live.store).2.2.2) := by
      simp [Registry.stop, Registry.stoppable?, h.slot, find?_running, same, h.store]
    simp only [stopShell, stop]
    rw [forward_open _ (by exact isOpen)]
    refine goesOn_of_finish short reached (h.drained.work _ _) ?_ h.isOpen rfl rfl rfl rfl ?_
    · exact fun _ => h.waiting
    · rw [h.outbound, ← same]
      rfl
  · have missing : connection.registry.stop host store (targetId message) connection.store =
        (some (.error (.notFound (targetId message))), [], connection.registry, connection.store) := by
      simp [Registry.stop, Registry.stoppable?, h.slot, find?_running, same]
      rfl
    have unchanged : (connection.stopShell host store message).2 = connection := by
      simp only [stopShell, missing, Option.isNone_some, Bool.or_false]
      rfl
    rw [unchanged]
    exact ⟨[], .inl h⟩

/-- The end of the connection retires the session. -/
theorem shutdown_goesOn (h : Serves connection live) :
    GoesOn store kept (connection.shutdown host store) live := by
  let cancelled := { live.disturb with isCancelled := true }
  obtain ⟨ledger, left⟩ := LiveSession.leave_eq cancelled
  let gone := { cancelled with session := live.session.unwatch, ledger, pump := .left }
  have running : live.pump ≠ .finished := by
    rcases h.pumping with waiting | ⟨-, left⟩
    · simp [waiting]
    · simp [left]
  have leave : cancelled.step store kept .leave = gone := by
    have guard : (cancelled.isCancelled && cancelled.pump ≠ .finished) = true := by
      simp [cancelled, LiveSession.disturb, running]
    simp only [LiveSession.step]
    rw [if_pos guard, left]
    rfl
  have stop : gone.step store kept .stopAtShutdown = gone.retire := by
    simp [LiveSession.step, gone, cancelled, LiveSession.disturb, h.notRetired]
  have reached : live.run store kept [.shutdown, .leave, .stopAtShutdown] = gone.retire := by
    simp only [LiveSession.run, List.foldl_cons, List.foldl_nil]
    rw [show live.step store kept .shutdown = cancelled from rfl, leave, stop]
  obtain ⟨id, unwatched⟩ := live.session.unwatch_keeps
  -- The rest of the output is recorded, but nobody watches it.
  have nothing : (live.session.unwatch.finish host store live.store).2.1 = [] :=
    RunningSession.finish_quiet store short _ _ (.inr unwatched)
  have drained : gone.retire.session.Drained := h.drained.unwatch.work _ false
  simp only [shutdown, h.notStuck, h.slot, Registry.shutdown, Slot.running?, h.store,
    Bool.false_eq_true, if_false]
  refine goesOn_of_finish short reached drained ?_ h.isOpen rfl rfl (congrArg Slot.stopped id) rfl ?_
  · intro _ (watched : live.session.unwatch.watcher.isSome)
    simp [unwatched] at watched
  · rw [h.outbound]
    have same : (gone.retire.session.finish host store gone.retire.store).2.1 = [] := nothing
    rw [same, List.map_nil, List.append_nil]
    rfl

end

/-! ## Requests -/

section
variable {connection : Connection π σ} {live : LiveSession π σ}

theorem lookup_eq_ok {registry : Registry π} {session session' : RunningSession π} {id : String}
    (slot : registry.slot = .running session) (found : registry.lookup id = .ok session') :
    session' = session := by
  unfold Registry.lookup at found
  rw [slot, find?_running] at found
  by_cases same : session.pty.id = id <;> cases running : session.pty.isRunning <;>
    simp only [same, running, Option.filter, if_true, if_false, Bool.false_eq_true] at found <;>
    cases found
  rfl

/-- What is done to the shell or its terminal leaves the rest alone. -/
theorem use_goesOn (h : Serves connection live) (id : String)
    {operation : PtySession π → Except SessionError Unit × PtySession π}
    (changes : ∀ pty, ∃ process cols rows,
      (operation pty).2 = { pty with process, cols, rows }) :
    GoesOn store kept { connection with registry := (connection.registry.use id operation).2 }
      live := by
  cases found : connection.registry.lookup id with
  | error error =>
      refine ⟨[], .inl ?_⟩
      simp only [Registry.use, found]
      exact h
  | ok session =>
      cases lookup_eq_ok h.slot found
      obtain ⟨process, cols, rows, changed⟩ := changes live.session.pty
      refine ⟨[.work process cols rows], .inl ?_⟩
      simp only [Registry.use, found, changed]
      exact ⟨rfl, h.store, h.outbound, h.isOpen,
        ⟨h.drained.toSteady, h.drained.reading, h.drained.recorded, h.drained.watched⟩, h.pumping,
        h.notRetired, h.notStuck⟩

theorem typeInput_goesOn (h : Serves connection live) (message : Message) :
    GoesOn store kept (connection.typeInput host message).2 live := by
  simp only [typeInput, Registry.write]
  refine use_goesOn h (targetId message) fun pty => ?_
  unfold PtySession.write
  split
  next => exact ⟨pty.process, pty.cols, pty.rows, rfl⟩
  next => exact ⟨_, pty.cols, pty.rows, rfl⟩

theorem resizeTerminal_goesOn (h : Serves connection live) (message : Message) :
    GoesOn store kept (connection.resizeTerminal host message).2 live := by
  unfold resizeTerminal
  split
  next => exact ⟨[], .inl h⟩
  next => exact ⟨[], .inl h⟩
  next cols rows _ _ =>
    simp only [Registry.resize]
    refine use_goesOn h (targetId message) fun pty => ?_
    unfold PtySession.resize
    split
    next => exact ⟨pty.process, pty.cols, pty.rows, rfl⟩
    next => split <;> exact ⟨_, _, _, rfl⟩

/-- There is no second session beside one that runs. -/
theorem startShell_goesOn (h : Serves connection live) (fresh : String) (message : Message) :
    GoesOn store kept (connection.startShell host store fresh message).2 live := by
  have busy : connection.registry.claim = .error .alreadyRunning := by
    simp only [Registry.claim, h.slot]
    rfl
  have unchanged : (connection.startShell host store fresh message).2 = connection := by
    simp only [startShell, Registry.spawn, busy]
    rfl
  rw [unchanged]
  exact ⟨[], .inl h⟩

theorem route_goesOn
    (short : host.Short)
    (h : Serves connection live) (fresh : String) (message : Message) :
    GoesOn store kept (connection.route host store fresh message).2 live := by
  have unchanged : GoesOn store kept connection live := ⟨[], .inl h⟩
  unfold route
  split
  next =>
    split
    next => exact startShell_goesOn h fresh message
    next =>
      split
      next => exact typeInput_goesOn h message
      next =>
        split
        next => exact stopShell_goesOn short h message
        next =>
          split
          next => exact resizeTerminal_goesOn h message
          next => exact unchanged
  next =>
    split
    next =>
      split
      next => exact unchanged
      next => split <;> exact unchanged
    next => exact unchanged

/-- Whatever arrives, what the connection does with its session is one of the runs of the session. -/
theorem handle_goesOn
    (short : host.Short)
    (h : Serves connection live) (fresh : String) (bytes : Bytes) :
    GoesOn store kept (connection.handle host store fresh bytes).2 live := by
  rw [handle]
  split
  next error _ =>
    have unchanged : GoesOn store kept connection live := ⟨[], .inl h⟩
    exact unchanged.reply (isOutput_reply _ _ _ _)
  next message _ =>
    have routed : GoesOn store kept _ live := route_goesOn short h fresh message
    split
    next done =>
      rw [done] at routed
      exact routed
    next done =>
      rw [done] at routed
      exact routed
    next reply connection' done =>
      have other := isOutput_of_route (congrArg Prod.fst done)
      rw [done] at routed
      exact routed.reply other
    next done =>
      rw [done] at routed
      exact routed
    next error connection' _ done =>
      rw [done] at routed
      exact routed.reply (isOutput_reply _ _ _ _)

end

/-! ## Runs -/

/-- A shell that is started and announced is one of the sessions. -/
theorem startShell_serves {connection connection' : Connection π σ} {settings : RecorderSettings}
    (recording : connection.registry.recording = some settings)
    (isOpen : connection.outbound.isOpen = true) (notStuck : connection.isStuck = false)
    {fresh : String} {message : Message}
    (done : connection.startShell host store fresh message = (some (.ok none), connection')) :
    ∃ spec pty, PtySession.start host fresh spec = .ok pty ∧
      Serves connection'
        ((LiveSession.start store settings pty connection.outbound connection.store).step store kept
          .announce) := by
  unfold startShell at done
  split at done
  next => cases done
  next registry s spawned =>
    unfold Registry.spawn at spawned
    split at spawned
    next => cases spawned
    next claimed claim =>
      have same : claimed.recording = some settings := by
        unfold Registry.claim at claim
        split at claim <;> cases claim <;> exact recording
      split at spawned
      next => cases spawned
      next pty started =>
        obtain ⟨named, new⟩ := PtySession.start_fresh started
        refine ⟨_, pty, started, ?_⟩
        simp only [Registry.fill, same] at spawned
        cases spawned
        simp only [Outbound.send, isOpen, if_true, pure, Except.pure] at done
        cases done
        let live := LiveSession.start store settings pty connection.outbound connection.store
        have own : live.id = fresh := named
        have announce : live.step store kept .announce =
            { live with
              pump := .waiting
              outbound := { live.outbound with
                sent := live.outbound.sent ++ [startedReply live.id] }
              log := live.log ++ [startedReply live.id] } := by
          have announcing : live.pump = .announcing := rfl
          simp only [LiveSession.step, announcing, if_true]
          rw [LiveSession.send_of_open isOpen]
        rw [announce, own]
        let sent := connection.outbound.sent ++ [startedReply fresh]
        exact ⟨rfl, rfl, congrArg (Outbound.mk · sent) isOpen.symm, isOpen,
          RunningSession.start_drained store settings new connection.store, .inl rfl, rfl, notStuck⟩

/-- What may happen to a connection. -/
inductive Event where
  /-- Something arrives. A session that it starts gets the id `fresh`. -/
  | arrive (fresh : String) (bytes : Bytes)
  | advance
  /-- What was sent is taken. -/
  | takeSent
  | shutdown
  deriving Repr, DecidableEq

def step (host : Host π) (store : RecordingStore σ) (connection : Connection π σ) :
    Event → Connection π σ
  | .arrive fresh bytes => (connection.handle host store fresh bytes).2
  | .advance => connection.advance host store
  | .takeSent => connection.takeSent.2
  | .shutdown => connection.shutdown host store

def run (host : Host π) (store : RecordingStore σ) (connection : Connection π σ)
    (events : List Event) : Connection π σ :=
  events.foldl (step host store) connection

section
variable (short : host.Short)
  {connection : Connection π σ} {live : LiveSession π σ}
include short

theorem step_goesOn (h : Serves connection live) (event : Event) :
    GoesOn store kept (connection.step host store event) live := by
  cases event with
  | arrive fresh bytes => exact handle_goesOn short h fresh bytes
  | advance => exact advance_goesOn short h
  | takeSent =>
      refine ⟨[.takeSent], .inl ⟨h.slot, h.store, ?_, h.isOpen, h.drained, h.pumping, h.notRetired,
        h.notStuck⟩⟩
      simp only [step, takeSent, h.outbound]
      rfl
  | shutdown => exact shutdown_goesOn short h

/-- Whatever happens, what a connection does with its session until it is retired is one of the runs of
    the session. -/
theorem run_goesOn (h : Serves connection live) (events : List Event) :
    (∃ actions, Serves (connection.run host store events) (live.run store kept actions)) ∨
      ∃ before after actions, events = before ++ after ∧
        Retired (connection.run host store before) (live.run store kept actions) := by
  induction events generalizing connection live with
  | nil => exact .inl ⟨[], h⟩
  | cons event rest ih =>
      have first : GoesOn store kept (connection.step host store event) live :=
        step_goesOn short h event
      obtain ⟨actions, serves | retired⟩ := first
      · rcases ih serves with ⟨more, still⟩ | ⟨before, after, more, rfl, gone⟩
        · refine .inl ⟨actions ++ more, ?_⟩
          rw [LiveSession.run_append]
          exact still
        · refine .inr ⟨event :: before, after, actions ++ more, rfl, ?_⟩
          rw [LiveSession.run_append]
          exact gone
      · exact .inr ⟨[event], rest, actions, rfl, retired⟩

end

end TerminalAgent.Connection
