import TerminalAgent.Proofs.Session.Delivery
import TerminalAgent.Session.Running

/-! # A session that is let run

A session that is let run publishes one piece of output after the other, and the recorder and the
watcher take each piece at once. So nobody ever waits for room, and at the end nothing is left to take.
-/

namespace TerminalAgent

/-- What is put out is read in pieces of at most 4096 bytes. -/
structure Host.Short {π : Type} (host : Host π) : Prop where
  read : ∀ process, ∀ output ∈ (host.read process).1, output.data.length ≤ 4096
  readToEnd : ∀ {process outputs rest}, host.readToEnd? process = some (outputs, rest) →
    ∀ output ∈ outputs, output.data.length ≤ 4096

namespace RunningSession

variable {π σ : Type} {host : Host π} {store : RecordingStore σ}

/-- Nobody waits for room, and only the watcher can make the reader wait. -/
structure Steady (fanout : Fanout) (isDone : Bool) (watcher : Option Nat) : Prop where
  idle : fanout.pending = none
  nobody : fanout.isClosed = true → fanout.subscribers = [] ∧ isDone = true
  bounded : ∀ {id queue}, fanout.queues[id]? = some queue →
    queue.capacity = none ∨ queue.capacity ≠ some 0 ∧
      (watcher = some id ∨ queue.hasReceiver = false)

/-- A queue, if there is one, is empty. -/
def Empty (fanout : Fanout) (id : Nat) : Prop :=
  ∀ queue, fanout.queues[id]? = some queue → queue.items = []

/-- The recorder and the watcher have taken what was published. -/
structure Drained (session : RunningSession π) : Prop
    extends Steady session.pty.fanout session.pty.isDone session.watcher where
  reading : session.pty.isReading = true
  recorded : ∀ {recorder id}, session.recorder = some (recorder, id) → Empty session.pty.fanout id
  watched : ∀ {id}, session.watcher = some id → Empty session.pty.fanout id

/-- Consumers have gone on. -/
def Further (session session' : RunningSession π) : Prop :=
  ∃ fanout recorder, session' = { session with pty := { session.pty with fanout }, recorder }

theorem Further.trans {session session' session'' : RunningSession π} (h : Further session session')
    (h' : Further session' session'') : Further session session'' := by
  obtain ⟨_, _, rfl⟩ := h
  obtain ⟨fanout, recorder, rfl⟩ := h'
  exact ⟨fanout, recorder, rfl⟩

theorem Further.keeps {session session' : RunningSession π} (h : Further session session') :
    session'.pty.id = session.pty.id ∧ session'.watcher = session.watcher := by
  obtain ⟨_, _, rfl⟩ := h
  exact ⟨rfl, rfl⟩

/-! ## Consumers -/

theorem empty_receiveAll (fanout : Fanout) (id : Nat) : Empty (fanout.receiveAll id).2 id := by
  intro queue found
  simp only [Fanout.queue_receiveAll, Option.map_eq_some_iff, if_true] at found
  obtain ⟨before, -, rfl⟩ := found
  rfl

theorem Empty.receiveAll {fanout : Fanout} {id : Nat} (h : Empty fanout id) (other : Nat) :
    Empty (fanout.receiveAll other).2 id := by
  intro queue found
  simp only [Fanout.queue_receiveAll, Option.map_eq_some_iff] at found
  obtain ⟨before, found, rfl⟩ := found
  split
  next => rfl
  next => exact h before found

theorem Steady.receiveAll {fanout : Fanout} {isDone : Bool} {watcher : Option Nat}
    (h : Steady fanout isDone watcher) (id : Nat) :
    Steady (fanout.receiveAll id).2 isDone watcher := by
  obtain ⟨pending, isClosed, subscribers⟩ := fanout.receiveAll_rest id
  refine ⟨pending.trans h.idle, fun closed => ?_, fun {other queue} found => ?_⟩
  · rw [subscribers]
    exact h.nobody (isClosed.symm.trans closed)
  · simp only [Fanout.queue_receiveAll, Option.map_eq_some_iff] at found
    obtain ⟨before, found, rfl⟩ := found
    have bounded := h.bounded found
    split <;> exact bounded

section
variable {session : RunningSession π}

theorem record_further (store : RecordingStore σ) (session : RunningSession π) (s : σ) :
    Further session (session.record store s).1 := by
  unfold RunningSession.record
  split
  next => exact ⟨session.pty.fanout, session.recorder, rfl⟩
  next => exact ⟨_, _, rfl⟩

theorem watch_further (session : RunningSession π) : Further session session.watch.2 := by
  unfold RunningSession.watch
  split
  next => exact ⟨session.pty.fanout, session.recorder, rfl⟩
  next => exact ⟨_, session.recorder, rfl⟩

theorem record_steady (store : RecordingStore σ) (session : RunningSession π)
    (h : Steady session.pty.fanout session.pty.isDone session.watcher) (s : σ) :
    let after := (session.record store s).1
    Steady after.pty.fanout after.pty.isDone after.watcher ∧
      ∀ {recorder id}, after.recorder = some (recorder, id) → Empty after.pty.fanout id := by
  cases recorder : session.recorder with
  | none =>
      simp only [RunningSession.record, recorder]
      exact ⟨h, fun found => by cases found⟩
  | some entry =>
      obtain ⟨recorder, id⟩ := entry
      simp only [RunningSession.record, recorder]
      refine ⟨h.receiveAll id, fun found => ?_⟩
      cases found
      exact empty_receiveAll _ _

theorem watch_drained (h : Steady session.pty.fanout session.pty.isDone session.watcher)
    (reading : session.pty.isReading = true)
    (recorded : ∀ {recorder id}, session.recorder = some (recorder, id) →
      Empty session.pty.fanout id) : Drained session.watch.2 := by
  cases watcher : session.watcher with
  | none =>
      simp only [RunningSession.watch, watcher]
      refine ⟨h, reading, recorded, fun found => ?_⟩
      rw [watcher] at found
      cases found
  | some id =>
      have steady := h.receiveAll id
      rw [watcher] at steady
      simp only [RunningSession.watch, watcher]
      refine ⟨steady, reading, fun found => (recorded found).receiveAll id, fun found => ?_⟩
      cases found
      exact empty_receiveAll _ _

/-! ## Delivery -/

/-- Every queue has room. -/
theorem Drained.room (h : Drained session) (id : Nat) : session.pty.fanout.delivery id ≠ .full := by
  cases found : session.pty.fanout.queues[id]? with
  | none => simp [Fanout.delivery, found]
  | some queue =>
      rw [Fanout.delivery_of_queue found]
      split
      next => simp
      next receives =>
        -- A queue without a limit is never full, and one with a limit was emptied by the watcher.
        have notFull : queue.isFull = false := by
          rcases h.bounded found with unlimited | ⟨notZero, watches | gone⟩
          · simp [OutputQueue.isFull, unlimited]
          · have empty := h.watched watches queue found
            cases limit : queue.capacity with
            | none => simp [OutputQueue.isFull, limit]
            | some capacity =>
                simp only [OutputQueue.isFull, limit, empty, List.length_nil]
                simpa [limit] using notZero
          · exact absurd gone receives
        simp [notFull]

theorem Drained.publish (h : Drained session) (output : Output) :
    Steady (session.pty.fanout.publish output) session.pty.isDone session.watcher where
  idle := by
    have nobody : (session.pty.fanout.subscribers.map (·.id)).filter
        (fun id => session.pty.fanout.delivery id = .full) = [] := by
      simp [h.room]
    simp only [Fanout.publish, nobody, List.isEmpty_nil, if_true]
  nobody closed := by
    obtain ⟨nobody, isDone⟩ := h.nobody closed
    exact ⟨by simp [Fanout.publish, nobody], isDone⟩
  bounded {id queue} found := by
    simp only [Fanout.queue_publish, Option.map_eq_some_iff] at found
    obtain ⟨before, found, rfl⟩ := found
    have bounded := h.bounded found
    split <;> exact bounded

theorem deliver_further (store : RecordingStore σ) (session : RunningSession π) (output : Output)
    (s : σ) : Further session (session.deliver store output s).2.1 := by
  let published := { session with pty := session.pty.publish output }
  have publish : Further session published := ⟨session.pty.fanout.publish output, _, rfl⟩
  exact publish.trans ((record_further store published s).trans (watch_further _))

/-- A piece of output that was published is taken at once. -/
theorem Drained.deliver (h : Drained session) (output : Output) (s : σ) :
    Drained (session.deliver store output s).2.1 := by
  let published := { session with pty := session.pty.publish output }
  obtain ⟨steady, recorded⟩ := record_steady store published (h.publish output) s
  obtain ⟨_, _, further⟩ := record_further store published s
  have reading : (published.record store s).1.pty.isReading = true := by
    rw [further]
    exact h.reading
  exact watch_drained steady reading recorded

theorem deliverAll_further (store : RecordingStore σ) (session : RunningSession π)
    (outputs : List Output) (s : σ) :
    Further session (deliverAll store outputs session s).2.1 := by
  induction outputs generalizing session s with
  | nil => exact ⟨session.pty.fanout, session.recorder, rfl⟩
  | cons output rest ih => exact (deliver_further store session output s).trans (ih _ _)

theorem Drained.deliverAll (h : Drained session) (outputs : List Output) (s : σ) :
    Drained (deliverAll store outputs session s).2.1 := by
  induction outputs generalizing session s with
  | nil => exact h
  | cons output rest ih => exact ih (h.deliver output s) _

theorem watch_unwatched (unwatched : session.watcher = none) : session.watch.1 = [] := by
  simp only [RunningSession.watch, unwatched]

/-- Nobody watches, and so nothing is watched. -/
theorem deliverAll_unwatched (unwatched : session.watcher = none) (outputs : List Output) (s : σ) :
    (deliverAll store outputs session s).1 = [] := by
  induction outputs generalizing session s with
  | nil => rfl
  | cons output rest ih =>
      obtain ⟨_, _, further⟩ := deliver_further store session output s
      have still : (session.deliver store output s).2.1.watcher = none := by rw [further, unwatched]
      let published := { session with pty := session.pty.publish output }
      obtain ⟨_, _, recorded⟩ := record_further store published s
      have first : (session.deliver store output s).1 = [] := by
        have nobody : (published.record store s).1.watcher = none := by
          rw [recorded]
          exact unwatched
        exact watch_unwatched nobody
      simp only [RunningSession.deliverAll, first, ih still, List.append_nil]

/-! ## The end -/

/-- Reading changes only the shell, and at the end it gets nothing. -/
theorem pull_cases (short : host.Short) (pty : PtySession π) :
    (∀ output ∈ (pty.pull host).1, output.data.length ≤ 4096) ∧
      (pty.isDone = true → (pty.pull host).1 = []) ∧
      ∃ process, (pty.pull host).2 = { pty with process } := by
  unfold PtySession.pull
  split
  next reads =>
    refine ⟨short.read pty.process, fun isDone => ?_, _, rfl⟩
    simp [isDone] at reads
  next => exact ⟨by simp, fun _ => rfl, pty.process, rfl⟩

/-- What depends on neither the shell nor its terminal. -/
theorem Drained.work (h : Drained session) (process : π) (isRunning : Bool) :
    Drained { session with pty := { session.pty with process, isRunning } } :=
  ⟨h.toSteady, h.reading, h.recorded, h.watched⟩

theorem Drained.finishReading (h : Drained session) :
    Drained { session with pty := session.pty.finishReading } :=
  ⟨⟨h.idle, fun _ => ⟨rfl, rfl⟩, h.bounded⟩, h.reading, h.recorded, h.watched⟩

theorem Drained.close (h : Drained session) : Drained { session with pty := session.pty.close } := by
  have isDone : (session.pty.isDone || session.pty.isReading) = true := by simp [h.reading]
  exact ⟨⟨h.idle, fun _ => ⟨rfl, isDone⟩, h.bounded⟩, h.reading, h.recorded, h.watched⟩

theorem Drained.finishRecording (h : Drained session) (s : σ) :
    Drained (session.finishRecording store s).1 := by
  unfold RunningSession.finishRecording
  split
  next => exact h
  next => exact ⟨h.toSteady, h.reading, (fun found => by cases found), h.watched⟩

theorem finishRecording_further (store : RecordingStore σ) (session : RunningSession π) (s : σ) :
    Further session (session.finishRecording store s).1 := by
  unfold RunningSession.finishRecording
  split
  next => exact ⟨session.pty.fanout, session.recorder, rfl⟩
  next => exact ⟨session.pty.fanout, none, rfl⟩

theorem Empty.dropReceiver {fanout : Fanout} {id : Nat} (h : Empty fanout id) (other : Nat) :
    Empty (fanout.dropReceiver other) id := by
  intro queue found
  simp only [Fanout.queue_dropReceiver, Option.map_eq_some_iff] at found
  obtain ⟨before, found, rfl⟩ := found
  split
  next => rfl
  next => exact h before found

theorem unwatch_keeps (session : RunningSession π) :
    session.unwatch.pty.id = session.pty.id ∧ session.unwatch.watcher = none := by
  cases watcher : session.watcher with
  | none => exact ⟨by simp only [RunningSession.unwatch, watcher],
      by simp only [RunningSession.unwatch, watcher]⟩
  | some id => exact ⟨by simp only [RunningSession.unwatch, watcher],
      by simp only [RunningSession.unwatch, watcher]⟩

/-- Nobody watches any more. -/
theorem Drained.unwatch (h : Drained session) : Drained session.unwatch := by
  cases watcher : session.watcher with
  | none =>
      simp only [RunningSession.unwatch, watcher]
      exact h
  | some id =>
      simp only [RunningSession.unwatch, watcher]
      refine ⟨⟨h.idle, h.nobody, fun {other queue} found => ?_⟩, h.reading,
        fun found => (h.recorded found).dropReceiver id, fun found => by cases found⟩
      simp only [Fanout.queue_dropReceiver, Option.map_eq_some_iff] at found
      obtain ⟨before, found, rfl⟩ := found
      have bounded := h.bounded found
      by_cases same : other = id
      · simpa [same] using bounded.imp_right fun known => known.1
      · have notWatched : session.watcher ≠ some other := by
          rw [watcher, Ne, Option.some.injEq]
          exact Ne.symm same
        simpa [same, notWatched] using bounded

/-- Everyone sees the end of what they have taken. -/
theorem Drained.ended (h : Drained session) (closed : session.pty.fanout.isClosed = true) {id : Nat}
    (empty : Empty session.pty.fanout id) :
    session.pty.fanout.receive id = (.ended, session.pty.fanout) := by
  have nobody : session.pty.fanout.hasSender id = false := by
    simp [Fanout.hasSender, Fanout.isAttached, (h.nobody closed).1, h.idle]
  cases found : session.pty.fanout.queues[id]? with
  | none => simp only [Fanout.receive, found]
  | some queue => simp [Fanout.receive, found, empty queue found, nobody]

/-- A session that has read all there is has delivered it, and perhaps come to the end. -/
theorem advance_cases (store : RecordingStore σ) (short : host.Short) (session : RunningSession π)
    (s : σ) :
    ∃ process outputs, (∀ output ∈ outputs, output.data.length ≤ 4096) ∧
      (session.pty.isDone = true → outputs = []) ∧
      let delivered :=
        deliverAll store outputs { session with pty := { session.pty with process } } s
      session.advance host store s = delivered ∨
        session.advance host store s = (delivered.1,
          { delivered.2.1 with pty := delivered.2.1.pty.finishReading }.finishRecording store
            delivered.2.2) := by
  obtain ⟨short, done, process, pulled⟩ := pull_cases short session.pty
  refine ⟨process, (session.pty.pull host).1, short, done, ?_⟩
  simp only [RunningSession.advance, pulled]
  split
  next => exact .inr rfl
  next => exact .inl rfl

section
variable (short : host.Short)
include short

theorem Drained.advance (h : Drained session) (s : σ) :
    Drained (session.advance host store s).2.1 := by
  obtain ⟨process, outputs, -, -, cases_⟩ := advance_cases store short session s
  let pulled := { session with pty := { session.pty with process } }
  have delivered : Drained (RunningSession.deliverAll store outputs pulled s).2.1 :=
    (h.work process session.pty.isRunning).deliverAll outputs s
  rcases cases_ with same | ended
  · rw [same]
    exact delivered
  · rw [ended]
    exact delivered.finishReading.finishRecording _

theorem advance_keeps (store : RecordingStore σ) (session : RunningSession π) (s : σ) :
    (session.advance host store s).2.1.pty.id = session.pty.id ∧
      (session.advance host store s).2.1.watcher = session.watcher := by
  obtain ⟨process, outputs, -, -, cases_⟩ := advance_cases store short session s
  obtain ⟨id, watcher⟩ := (deliverAll_further store
    { session with pty := { session.pty with process } } outputs s).keeps
  rcases cases_ with same | ended
  · rw [same]
    exact ⟨id, watcher⟩
  · rw [ended]
    obtain ⟨id', watcher'⟩ := (finishRecording_further store _ _).keeps
    exact ⟨id'.trans id, watcher'.trans watcher⟩

/-- Nothing is watched after the end or without a watcher. -/
theorem advance_quiet (session : RunningSession π) (s : σ)
    (quiet : session.pty.isDone = true ∨ session.watcher = none) :
    (session.advance host store s).1 = [] := by
  obtain ⟨process, outputs, -, done, cases_⟩ := advance_cases store short session s
  let pulled := { session with pty := { session.pty with process } }
  have nothing : (deliverAll store outputs pulled s).1 = [] := by
    rcases quiet with isDone | unwatched
    · rw [done isDone]
      rfl
    · have still : pulled.watcher = none := unwatched
      exact deliverAll_unwatched still outputs s
  rcases cases_ with same | ended
  · rw [same, nothing]
  · rw [ended, nothing]

end

theorem stop_cases (host : Host π) (pty : PtySession π) :
    ∃ process, (pty.stop host).2 = { pty with process, isRunning := false } := by
  unfold PtySession.stop
  dsimp only
  split
  next => exact ⟨_, rfl⟩
  next => split <;> exact ⟨_, rfl⟩

/-- The ways in which a session is finished. -/
inductive Finishes (host : Host π) (store : RecordingStore σ) (session : RunningSession π) (s : σ) :
    Option (Except SessionError Nat) × List Output × RunningSession π × σ → Prop
  /-- The shell has ended. -/
  | ended {code : Nat} {pty : PtySession π} {watched : List Output} {advanced : RunningSession π} {s' : σ}
      (stopped : session.pty.stop host = (.ok code, pty))
      (went : { session with pty }.advance host store s = (watched, advanced, s')) :
      Finishes host store session s (some (.ok code), watched,
        { advanced with pty := advanced.pty.close }.finishRecording store s')
  /-- The shell cannot be killed, but its output was recorded to the end. -/
  | survived {error : SessionError} {pty : PtySession π} {rest : List Output × RunningSession π × σ}
      (stopped : session.pty.stop host = (.error error, pty))
      (awaited : { session with pty }.awaitRecorder? host store s = some rest) :
      Finishes host store session s (some (.error error), rest)
  /-- The shell cannot be killed, and the end of its output is waited for in vain. -/
  | endless {error : SessionError} {pty : PtySession π}
      (stopped : session.pty.stop host = (.error error, pty))
      (awaited : { session with pty }.awaitRecorder? host store s = none) :
      Finishes host store session s (none, [], { session with pty }, s)

theorem finish_finishes (host : Host π) (store : RecordingStore σ) (session : RunningSession π)
    (s : σ) : Finishes host store session s (session.finish host store s) := by
  unfold finish
  split
  next stopped => exact .ended stopped rfl
  next error pty stopped =>
    cases awaited : { session with pty }.awaitRecorder? host store s with
    | some rest => exact .survived stopped awaited
    | none => exact .endless stopped awaited

/-- The end of a session is waited for in vain: its shell cannot be killed, and the output, which is
    recorded, never ends. -/
structure Lingers (host : Host π) (session : RunningSession π) : Prop where
  runs : host.exitCode? session.pty.process = none
  survives : ∃ reason, (host.kill session.pty.process).1 = .error reason
  awaited : session.isAwaited = true
  isOpen : session.pty.fanout.isClosed = false
  endless : session.pty.isReading = true → session.pty.isDone = false →
    host.readToEnd? (host.kill session.pty.process).2 = none

theorem stop_error_iff (host : Host π) (pty : PtySession π) {error : SessionError}
    {stopped : PtySession π} :
    pty.stop host = (.error error, stopped) ↔
      host.exitCode? pty.process = none ∧ ∃ reason, (host.kill pty.process).1 = .error reason ∧
        error = .killFailed reason ∧
        stopped = { pty with isRunning := false, process := (host.kill pty.process).2 } := by
  unfold PtySession.stop
  dsimp only
  cases ended : host.exitCode? pty.process with
  | some code => simp [pure, Except.pure]
  | none =>
      cases killed : host.kill pty.process with
      | mk result process =>
          cases result with
          | ok code => simp [pure, Except.pure]
          | error reason =>
              simp only [throw, throwThe, MonadExceptOf.throw, Prod.mk.injEq, Except.error.injEq,
                true_and, exists_eq_left']
              exact and_congr eq_comm eq_comm

theorem awaitRecorder_eq_none_iff (host : Host π) (store : RecordingStore σ)
    (session : RunningSession π) (s : σ) :
    session.awaitRecorder? host store s = none ↔
      session.isAwaited = true ∧ session.pty.fanout.isClosed = false ∧
        (session.pty.isReading = true → session.pty.isDone = false →
          host.readToEnd? session.pty.process = none) := by
  unfold awaitRecorder? PtySession.pullToEnd?
  cases session.isAwaited <;> cases session.pty.fanout.isClosed <;> cases session.pty.isReading <;>
    cases session.pty.isDone <;> simp

theorem recorder_of_unawaited {session : RunningSession π} (unawaited : session.isAwaited = false) :
    session.recorder = none := by
  rw [isAwaited, Bool.or_eq_false_iff] at unawaited
  exact Option.isNone_iff_eq_none.mp (by simpa using unawaited.1)

/-- A session that lingers is the only one that is never finished. -/
theorem finish_eq_none_iff (session : RunningSession π) {s : σ} :
    (session.finish host store s).1 = none ↔ session.Lingers host := by
  constructor
  · intro never
    have finishes := finish_finishes host store session s
    generalize session.finish host store s = finished at finishes never
    cases finishes with
    | ended => cases never
    | survived => cases never
    | endless stopped awaited =>
        obtain ⟨runs, reason, survives, -, rfl⟩ := (stop_error_iff host session.pty).mp stopped
        obtain ⟨isAwaited, isOpen, endless⟩ := (awaitRecorder_eq_none_iff host store _ s).mp awaited
        exact ⟨runs, ⟨reason, survives⟩, isAwaited, isOpen, endless⟩
  · rintro ⟨runs, ⟨reason, survives⟩, isAwaited, isOpen, endless⟩
    let pty := { session.pty with isRunning := false, process := (host.kill session.pty.process).2 }
    have stopped : session.pty.stop host = (.error (.killFailed reason), pty) :=
      (stop_error_iff host session.pty).mpr ⟨runs, reason, survives, rfl, rfl⟩
    have awaited : { session with pty }.awaitRecorder? host store s = none :=
      (awaitRecorder_eq_none_iff host store _ s).mpr ⟨isAwaited, isOpen, endless⟩
    simp only [finish, stopped, awaited]

/-- A recorder that is waited for has seen all of the output, or there was nothing left to see. -/
theorem awaitRecorder_cases (session : RunningSession π) {s : σ}
    {rest : List Output × RunningSession π × σ}
    (awaited : session.awaitRecorder? host store s = some rest) :
    (session.recorder = none ∨ session.pty.fanout.isClosed = true) ∧
        rest = ([], session.finishRecording store s) ∨
      ∃ outputs final,
        host.readToEnd? session.pty.process = some (outputs, final) ∧ session.pty.isDone = false ∧
          let pulled := { session with pty := { session.pty with process := final } }
          let delivered := deliverAll store outputs pulled s
          rest = (delivered.1, { delivered.2.1 with
            pty := delivered.2.1.pty.finishReading }.finishRecording store delivered.2.2) := by
  unfold awaitRecorder? at awaited
  split at awaited
  next =>
    unfold PtySession.pullToEnd? at awaited
    split at awaited
    next reads =>
      simp only [Option.map_map, Option.map_eq_some_iff] at awaited
      obtain ⟨⟨outputs, final⟩, read, rfl⟩ := awaited
      exact .inr ⟨outputs, final, read, by simpa using (Bool.and_eq_true_iff.mp reads).2, rfl⟩
    next => cases awaited
  next nobody =>
    cases awaited
    refine .inl ⟨?_, rfl⟩
    cases recorder : session.recorder with
    | none => exact .inl rfl
    | some => simpa [isAwaited, recorder] using nobody

/-- Nothing is watched after the end or without a watcher. -/
theorem awaitRecorder_quiet (session : RunningSession π) {s : σ}
    {rest : List Output × RunningSession π × σ}
    (awaited : session.awaitRecorder? host store s = some rest)
    (quiet : session.pty.isDone = true ∨ session.watcher = none) : rest.1 = [] := by
  obtain ⟨-, rfl⟩ | ⟨outputs, final, -, notDone, rfl⟩ := awaitRecorder_cases session awaited
  · rfl
  · obtain isDone | unwatched := quiet
    · exact absurd (isDone.symm.trans notDone) (by decide)
    · have still : { session with pty := { session.pty with process := final } }.watcher = none :=
        unwatched
      exact deliverAll_unwatched still outputs s

theorem finish_quiet (store : RecordingStore σ) (short : host.Short) (session : RunningSession π)
    (s : σ) (quiet : session.pty.isDone = true ∨ session.watcher = none) :
    (session.finish host store s).2.1 = [] := by
  obtain ⟨process, stop⟩ := stop_cases host session.pty
  have still {result : Except SessionError Nat} {pty : PtySession π}
      (stopped : session.pty.stop host = (result, pty)) :
      { session with pty }.pty.isDone = true ∨ { session with pty }.watcher = none := by
    rw [stopped] at stop
    rw [show pty = _ from stop]
    exact quiet
  have finishes := finish_finishes host store session s
  generalize session.finish host store s = finished at finishes
  cases finishes with
  | @ended code pty watched advanced s' stopped went =>
      have nothing : ({ session with pty }.advance host store s).1 = [] :=
        advance_quiet short _ s (still stopped)
      rwa [went] at nothing
  | survived stopped awaited => exact awaitRecorder_quiet _ awaited (still stopped)
  | endless => rfl

end

/-- A session has just been started. -/
theorem start_drained (store : RecordingStore σ) (settings : RecorderSettings) {pty : PtySession π}
    (fresh : pty.fanout = .new) (s : σ) : Drained (start store (some settings) pty s).1 := by
  have queues {id : Nat} {queue : OutputQueue}
      (found : (start store (some settings) pty s).1.pty.fanout.queues[id]? = some queue) :
      queue.items = [] ∧ (queue.capacity = none ∨ queue.capacity ≠ some 0 ∧
        ((start store (some settings) pty s).1.watcher = some id ∨ queue.hasReceiver = false)) := by
    simp only [start, fresh, Fanout.subscribe, Fanout.new, PtySession.startReading] at found ⊢
    match id, found with
    | 0, found =>
        cases found
        exact ⟨rfl, .inl rfl⟩
    | 1, found =>
        cases found
        exact ⟨rfl, .inr ⟨by decide, .inl rfl⟩⟩
  refine ⟨⟨?_, ?_, fun found => (queues found).2⟩, rfl, fun _ _ found => (queues found).1,
    fun _ _ found => (queues found).1⟩
  · simp only [start, fresh]
    rfl
  · intro closed
    simp only [start, fresh] at closed
    cases closed

end RunningSession

end TerminalAgent
