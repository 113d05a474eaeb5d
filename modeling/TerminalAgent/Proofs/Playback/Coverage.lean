import TerminalAgent.Playback.Service
import TerminalAgent.Proofs.Router.Replies
import TerminalAgent.Proofs.Session.Attendance
import TerminalAgent.Proofs.Session.Live

/-! # Playback covers what was watched

What is sent of the output of a session is a first part of what is recorded, however the steps of its
tasks are interleaved. If the shell has ended on its own and nothing came in between, it is all of it.
-/

namespace TerminalAgent

/-- The output that the pump has taken and not sent. -/
def Pump.inHand : Pump → Bytes
  | .sending output => output.data
  | _ => []

namespace LiveSession

variable {π σ : Type} {store : RecordingStore σ} {kept : String → σ → Option Recording}

/-! ## What is shown -/

/-- The output of a session among messages. -/
def shown (id : String) (log : List Message) : Bytes :=
  (log.filter (isOwnOutput id)).flatMap (·.body)

theorem isOwnOutput_outputMessage (id other : String) (output : Output) :
    isOwnOutput id (Connection.outputMessage other output) = decide (other = id) := by
  rw [isOwnOutput, Connection.isOutput_outputMessage, Bool.true_and]
  simp [Connection.outputMessage]

theorem shown_output (id : String) (log : List Message) (output : Output) :
    shown id (log ++ [Connection.outputMessage id output]) = shown id log ++ output.data := by
  have body : (Connection.outputMessage id output).body = output.data := rfl
  simp [shown, isOwnOutput_outputMessage, body]

theorem shown_other {id : String} {message : Message} (h : isOwnOutput id message = false)
    (log : List Message) : shown id (log ++ [message]) = shown id log := by
  simp [shown, h]

/-! ## What holds at every point -/

/-- What the pump has received was sent, but for what it has in hand. -/
structure Pumped (id : String) (log : List Message) (pump : Pump) (watcher : Option Nat)
    (account : Fanout.Account) : Prop where
  own : ∀ {n}, watcher = some n → n = 1
  receives : pump ≠ .left → watcher = some 1 ∧ account.isDropped = false
  inOrder : shown id log <+: account.received.flatMap (·.data)
  whole : pump ≠ .left → shown id log ++ pump.inHand = account.received.flatMap (·.data)

/-- The recorder holds what it has received, and a sealed recording holds everything. -/
structure OnRecord (kept : String → σ → Option Recording) (id : String)
    (recorder : Option (Recorder × Nat)) (stats : Option RecorderStats) (ledger : Fanout.Ledger)
    (s : σ) : Prop where
  holds : ∀ {recorder' n}, recorder = some (recorder', n) → n = 0 ∧
    ∃ chunks frames written, recorder'.Holds kept id chunks frames written s ∧
      chunks.map (·.data) = (ledger.accounts 0).received.map (·.data)
  finished : ∀ {stats'}, stats = some stats' → recorder = none ∧
    (stats'.isSealed = true → ledger.isClosed = true ∧ ∃ bytes chunks,
      kept id s = some ⟨bytes, true⟩ ∧ Log.decode bytes = .ok chunks ∧
        chunks.map (·.data) = ledger.heard.map (·.data))

/-- As long as nothing comes in between, only the end of the output ends the pump. -/
structure Calm (ledger : Fanout.Ledger) (pump : Pump)
    (isDisturbed isCancelled isRetired isOpen : Bool) : Prop where
  pumping : isDisturbed = false → pump ≠ .left ∧
    (pump ≠ .finished → isCancelled = false ∧ isRetired = false ∧ isOpen = true)
  clean : isDisturbed = false → ledger.isClosed = true → ledger.isClean = true
  finished : pump = .finished → ledger.isClosed = true ∧
    (isDisturbed = false → (ledger.accounts 1).received = ledger.heard)

/-- The recorder and the pump agree with the fan-out. -/
structure Covered (kept : String → σ → Option Recording) (live : LiveSession π σ) : Prop where
  attended : live.history.Attended
  pumped : Pumped live.id live.log live.pump live.session.watcher (live.ledger.accounts 1)
  onRecord : OnRecord kept live.id live.session.recorder live.stats live.ledger live.store
  calm : Calm live.ledger live.pump live.isDisturbed live.isCancelled live.isRetired
    live.outbound.isOpen

section
variable {id : String} {log : List Message} {pump : Pump} {watcher : Option Nat}
  {account : Fanout.Account} {recorder : Option (Recorder × Nat)} {stats : Option RecorderStats}
  {ledger : Fanout.Ledger} {isDisturbed isCancelled isRetired isOpen : Bool} {s s' : σ}

namespace Pumped

theorem sent_other (h : Pumped id log pump watcher account) {message : Message}
    (other : isOwnOutput id message = false) :
    Pumped id (log ++ [message]) pump watcher account where
  own := h.own
  receives := h.receives
  inOrder := by
    rw [shown_other other]
    exact h.inOrder
  whole stays := by
    rw [shown_other other]
    exact h.whole stays

theorem sent (h : Pumped id log pump watcher account) {output : Output}
    (sending : pump = .sending output) :
    Pumped id (log ++ [Connection.outputMessage id output]) .waiting watcher account := by
  subst sending
  have stays : Pump.sending output ≠ .left := by simp
  have all : shown id (log ++ [Connection.outputMessage id output]) =
      account.received.flatMap (·.data) := by
    rw [shown_output]
    exact h.whole stays
  exact ⟨h.own, fun _ => h.receives stays, all ▸ List.prefix_refl _,
    fun _ => (List.append_nil _).trans all⟩

/-- A pump with empty hands goes from one state to another. -/
theorem turned (h : Pumped id log pump watcher account) {pump' : Pump} (stays : pump ≠ .left)
    (before : pump.inHand = []) (after : pump'.inHand = []) :
    Pumped id log pump' watcher account where
  own := h.own
  receives _ := h.receives stays
  inOrder := h.inOrder
  whole _ := by
    have whole := h.whole stays
    rwa [before, ← after] at whole

theorem taken (h : Pumped id log pump watcher account) (waiting : pump = .waiting)
    (output : Output) :
    Pumped id log (.sending output) watcher
      { account with received := account.received ++ [output] } := by
  subst waiting
  have stays : Pump.waiting ≠ .left := by simp
  have all : shown id log = account.received.flatMap (·.data) := by
    rw [← h.whole stays]
    exact (List.append_nil _).symm
  constructor
  case own => exact h.own
  case receives => exact fun _ => h.receives stays
  case inOrder =>
    rw [List.flatMap_append]
    exact h.inOrder.trans (List.prefix_append _ _)
  case whole =>
    intro _
    simp only [all, Pump.inHand, List.flatMap_append, List.flatMap_cons, List.flatMap_nil,
      List.append_nil]

theorem gone (h : Pumped id log pump watcher account) {account' : Fanout.Account}
    (received : account'.received = account.received) : Pumped id log .left none account' where
  own found := by cases found
  receives stays := absurd rfl stays
  inOrder := by
    rw [received]
    exact h.inOrder
  whole stays := absurd rfl stays

end Pumped

namespace OnRecord

theorem perform (history : Fanout.History)
    (h : OnRecord kept id recorder stats history.toLedger s) (action : Fanout.Action)
    (received : ((history.perform action).accounts 0).received = (history.accounts 0).received) :
    OnRecord kept id recorder stats (history.perform action).toLedger s where
  holds found := by
    rw [received]
    exact h.holds found
  finished found := by
    obtain ⟨noRecorder, sealed⟩ := h.finished found
    refine ⟨noRecorder, fun isSealed => ?_⟩
    obtain ⟨closed, content⟩ := sealed isSealed
    obtain ⟨closed, heard, -⟩ := Fanout.History.perform_of_closed closed action
    rw [heard]
    exact ⟨closed, content⟩

/-- Others may do what they like to the store. -/
theorem transfer (h : OnRecord kept id recorder stats ledger s) (same : kept id s' = kept id s) :
    OnRecord kept id recorder stats ledger s' where
  holds found := by
    obtain ⟨own, chunks, frames, written, holds, received⟩ := h.holds found
    exact ⟨own, chunks, frames, written, { holds with stored := same.trans holds.stored }, received⟩
  finished found := by
    rw [same]
    exact h.finished found

end OnRecord

namespace Calm

/-- Something happens to the fan-out, which does not come to an unclean end undisturbed. -/
theorem perform (history : Fanout.History)
    (h : Calm history.toLedger pump isDisturbed isCancelled isRetired isOpen) (action : Fanout.Action)
    (received : ((history.perform action).accounts 1).received = (history.accounts 1).received)
    (clean : isDisturbed = false → history.isClosed = false →
      (history.perform action).isClosed = true → (history.perform action).isClean = true) :
    Calm (history.perform action).toLedger pump isDisturbed isCancelled isRetired isOpen where
  pumping := h.pumping
  clean undisturbed closed := by
    cases before : history.isClosed with
    | false => exact clean undisturbed before closed
    | true =>
        obtain ⟨-, -, same⟩ := Fanout.History.perform_of_closed before action
        rw [same]
        exact h.clean undisturbed before
  finished ended := by
    obtain ⟨closed, all⟩ := h.finished ended
    obtain ⟨closed, heard, -⟩ := Fanout.History.perform_of_closed closed action
    rw [received, heard]
    exact ⟨closed, all⟩

/-- The pump goes on. -/
theorem turned (h : Calm ledger pump isDisturbed isCancelled isRetired isOpen)
    (running : pump ≠ .finished) {pump' : Pump} (stays : pump' ≠ .left)
    (goesOn : pump' ≠ .finished) :
    Calm ledger pump' isDisturbed isCancelled isRetired isOpen where
  pumping undisturbed := ⟨stays, fun _ => (h.pumping undisturbed).2 running⟩
  clean := h.clean
  finished ended := absurd ended goesOn

/-- Whoever acts on a session before its pump has finished disturbs it. -/
theorem disturbed (h : Calm ledger pump isDisturbed isCancelled isRetired isOpen)
    (isCancelled' isRetired' isOpen' : Bool) :
    Calm ledger pump (isDisturbed || pump ≠ .finished) isCancelled' isRetired' isOpen' := by
  have before (undisturbed : (isDisturbed || pump ≠ .finished) = false) :
      isDisturbed = false ∧ pump = .finished := by
    simpa using undisturbed
  constructor
  case pumping =>
    intro undisturbed
    obtain ⟨-, ended⟩ := before undisturbed
    subst ended
    exact ⟨by simp, fun running => absurd rfl running⟩
  case clean => exact fun undisturbed => h.clean (before undisturbed).1
  case finished =>
    intro ended
    obtain ⟨closed, all⟩ := h.finished ended
    exact ⟨closed, fun undisturbed => all (before undisturbed).1⟩

end Calm

end

/-! ## Every step keeps it -/

namespace Covered

variable {live : LiveSession π σ}

/-- The fan-out goes on, and nobody receives. -/
theorem act (h : Covered kept live) {action : Fanout.Action}
    (ofSession : Fanout.History.IsOfSession action)
    (accounts : (live.history.perform action).accounts = live.ledger.accounts)
    (clean : live.isDisturbed = false → live.ledger.isClosed = false →
      (live.history.perform action).isClosed = true →
      (live.history.perform action).isClean = true) : Covered kept (live.act action) where
  attended := h.attended.perform ofSession
  pumped := by
    have pumped := h.pumped
    rw [← accounts] at pumped
    exact pumped
  onRecord := h.onRecord.perform live.history action (by rw [accounts]; rfl)
  calm := h.calm.perform live.history action (by rw [accounts]; rfl) clean

/-- What the publisher does between the ends. -/
theorem publisher (h : Covered kept live) {action : Fanout.Action}
    (ofSession : Fanout.History.IsOfSession action) (notEnd : action ≠ .close)
    (accounts : (live.history.perform action).accounts = live.ledger.accounts) :
    Covered kept (live.act action) := by
  refine h.act ofSession accounts fun _ isOpen closed => ?_
  obtain ⟨same, -⟩ := Fanout.History.isClosed_perform live.history notEnd
  rw [same] at closed
  simp [show live.ledger.isClosed = true from closed] at isOpen

/-- The reader that does not wait comes to the end. -/
theorem ended (h : Covered kept live) (idle : live.session.pty.fanout.pending = none) :
    Covered kept (live.act .close) := by
  refine h.act trivial rfl fun _ isOpen _ => ?_
  have isOpen : live.history.isClosed = false := isOpen
  have idle : live.history.fanout.pending = none := idle
  simp [Fanout.History.perform, isOpen, idle]

/-- Whoever retired the session detaches all. Undisturbed, that is after the end. -/
theorem closed (h : Covered kept live) (isRetired : live.isRetired = true) :
    Covered kept (live.act .close) := by
  refine h.act trivial rfl fun undisturbed isOpen _ => ?_
  have running : live.pump ≠ .finished := by
    intro finished
    rw [(h.calm.finished finished).1] at isOpen
    cases isOpen
  obtain ⟨-, notRetired, -⟩ := (h.calm.pumping undisturbed).2 running
  rw [isRetired] at notRetired
  cases notRetired

/-- The pump gives up after a disturbance. -/
theorem leave (h : Covered kept live) (disturbed : live.isDisturbed = true) :
    Covered kept live.leave := by
  have calm : Calm (live.history.perform (.dropReceiver 1)).toLedger .left live.isDisturbed
      live.isCancelled live.isRetired live.outbound.isOpen := by
    rw [disturbed]
    exact ⟨by simp, by simp, by simp⟩
  cases found : live.session.watcher with
  | none =>
      simp only [LiveSession.leave, found]
      refine ⟨h.attended, ?_, h.onRecord, calm.pumping, ?_, ?_⟩
      · simp only [found]
        exact h.pumped.gone rfl
      · simp [disturbed]
      · simp
  | some id =>
      have own : id = 1 := h.pumped.own found
      subst own
      have left : live.leave =
          { live.act (.dropReceiver 1) with
            session := { (live.act (.dropReceiver 1)).session with watcher := none }
            pump := .left } := by
        simp only [LiveSession.leave, RunningSession.unwatch, found]
        rfl
      have attended : (live.history.perform (.dropReceiver 1)).Attended :=
        h.attended.perform Nat.one_ne_zero
      have received : ((live.history.perform (.dropReceiver 1)).accounts 1).received =
          (live.ledger.accounts 1).received := by
        simp only [Fanout.History.perform, Fanout.History.note_same]
        rfl
      rw [left]
      exact ⟨attended, h.pumped.gone received,
        h.onRecord.perform live.history (.dropReceiver 1) rfl, calm⟩

/-- The recorder takes a piece of output. -/
theorem recorded (keeps : store.Keeps kept) (h : Covered kept live) {recorder : Recorder}
    (found : live.session.recorder = some (recorder, 0)) {output : Output} {fanout : Fanout}
    (taken : live.session.pty.fanout.receive 0 = (.item output, fanout)) (atMs : Nat) :
    Covered kept
      { live.act (.receive 0) with
        session := { (live.act (.receive 0)).session with
          recorder := some ((recorder.receive store atMs output live.store).1, 0) }
        store := (recorder.receive store atMs output live.store).2 } := by
  have item : (live.history.fanout.receive 0).1 = .item output := congrArg Prod.fst taken
  have short : output.data.length ≤ 4096 := h.attended.short output (h.attended.heard_of_item item)
  have attended : (live.history.perform (.receive 0)).Attended := h.attended.perform trivial
  have watcher : (live.history.perform (.receive 0)).accounts 1 = live.ledger.accounts 1 := by
    rw [Fanout.History.accounts_receive item, Fanout.History.note_other _ Nat.one_ne_zero]
    rfl
  have received : ((live.history.perform (.receive 0)).accounts 0).received =
      (live.ledger.accounts 0).received ++ [output] := by
    rw [Fanout.History.accounts_receive item, Fanout.History.note_same]
    rfl
  refine ⟨attended, ?_, ⟨?_, ?_⟩, ?_⟩
  · have pumped := h.pumped
    rw [← watcher] at pumped
    exact pumped
  · rintro _ _ ⟨⟩
    obtain ⟨-, chunks, frames, written, holds, data⟩ := h.onRecord.holds found
    obtain ⟨frames, written, holds⟩ :=
      holds.receive keeps atMs output (Log.fits_of_length_le short)
    refine ⟨rfl, _, frames, written, holds, ?_⟩
    simp only [LiveSession.act, received, List.map_append, data, List.map_cons, List.map_nil]
  · intro stats finished
    obtain ⟨noRecorder, -⟩ := h.onRecord.finished finished
    rw [found] at noRecorder
    cases noRecorder
  · refine h.calm.perform live.history (.receive 0) (by rw [watcher]; rfl) ?_
    intro _ isOpen closed
    obtain ⟨same, -⟩ := Fanout.History.isClosed_perform live.history
      (show Fanout.Action.receive 0 ≠ .close by simp)
    rw [same] at closed
    simp [show live.history.isClosed = true from closed] at isOpen

theorem ticked (keeps : store.Keeps kept) (h : Covered kept live) {recorder : Recorder}
    (found : live.session.recorder = some (recorder, 0)) :
    Covered kept
      { live with
        session := { live.session with
          recorder := some ((recorder.flush store live.store).2.1, 0) }
        store := (recorder.flush store live.store).2.2 } := by
  refine ⟨h.attended, h.pumped, ⟨?_, ?_⟩, h.calm⟩
  · rintro _ _ ⟨⟩
    obtain ⟨-, chunks, frames, written, holds, data⟩ := h.onRecord.holds found
    exact ⟨rfl, chunks, frames, _, holds.flush keeps, data⟩
  · intro stats finished
    obtain ⟨noRecorder, -⟩ := h.onRecord.finished finished
    rw [found] at noRecorder
    cases noRecorder

/-- The recorder sees the end with everything in hand, so that what it seals is everything. -/
theorem recordingFinished (keeps : store.Keeps kept) (h : Covered kept live) {recorder : Recorder}
    (found : live.session.recorder = some (recorder, 0))
    (ended : (live.session.pty.fanout.receive 0).1 = .ended) :
    Covered kept
      { live with
        session := { live.session with recorder := none }
        store := (recorder.finish store live.store).2
        stats := some (recorder.finish store live.store).1 } := by
  refine ⟨h.attended, h.pumped, ⟨?_, ?_⟩, h.calm⟩
  · intro recorder' n none_
    cases none_
  · rintro _ ⟨⟩
    refine ⟨rfl, fun isSealed => ?_⟩
    obtain ⟨closed, all⟩ := h.attended.recorded_of_ended ended
    obtain ⟨-, chunks, frames, written, holds, data⟩ := h.onRecord.holds found
    refine ⟨closed, frames.flatten, chunks, ?_, Log.decode_flatten (Log.frames_of_mapM holds.encoded),
      data.trans (congrArg _ all)⟩
    cases flushed : (recorder.flushUpTo store Recorder.finalAttempts live.store).1 with
    | true =>
        obtain ⟨-, stored⟩ := holds.finish_of_flushed keeps flushed
        rwa [isSealed] at stored
    | false =>
        obtain ⟨isOpen, -⟩ := holds.finish_of_refused keeps flushed
        rw [isSealed] at isOpen
        cases isOpen

theorem logged (h : Covered kept live) {message : Message}
    (other : isOwnOutput live.id message = false) (sent : List Message) :
    Covered kept
      { live with
        outbound := { live.outbound with sent }
        log := live.log ++ [message] } :=
  ⟨h.attended, h.pumped.sent_other other, h.onRecord, h.calm⟩

/-- Nobody but a disturber closes the channel while the pump runs. -/
theorem disturbed_of_closed (h : Covered kept live) (running : live.pump ≠ .finished)
    (closed : live.outbound.isOpen = false) : live.isDisturbed = true := by
  by_contra undisturbed
  obtain ⟨-, -, isOpen⟩ := (h.calm.pumping (by simpa using undisturbed)).2 running
  rw [closed] at isOpen
  cases isOpen

/-- The pump takes a piece of output. -/
theorem taken (h : Covered kept live) (waiting : live.pump = .waiting) {output : Output}
    (item : (live.session.pty.fanout.receive 1).1 = .item output) :
    Covered kept { live.act (.receive 1) with pump := .sending output } := by
  have item : (live.history.fanout.receive 1).1 = .item output := item
  have attended : (live.history.perform (.receive 1)).Attended := h.attended.perform trivial
  have recorder : (live.history.perform (.receive 1)).accounts 0 = live.ledger.accounts 0 := by
    rw [Fanout.History.accounts_receive item, Fanout.History.note_other _ Nat.zero_ne_one]
    rfl
  have watcher : (live.history.perform (.receive 1)).accounts 1 =
      { live.ledger.accounts 1 with
        received := (live.ledger.accounts 1).received ++ [output] } := by
    rw [Fanout.History.accounts_receive item, Fanout.History.note_same]
    rfl
  obtain ⟨isClosed, isClean⟩ := Fanout.History.isClosed_perform live.history
    (show Fanout.Action.receive 1 ≠ .close by simp)
  refine ⟨attended, ?_, ?_, ?_, ?_, ?_⟩
  · have pumped := h.pumped.taken waiting output
    rw [← watcher] at pumped
    exact pumped
  · exact h.onRecord.perform live.history (.receive 1) (by rw [recorder]; rfl)
  · intro undisturbed
    refine ⟨by simp, fun _ => (h.calm.pumping undisturbed).2 (by simp [waiting])⟩
  · intro undisturbed closed
    exact isClean.trans (h.calm.clean undisturbed (isClosed.symm.trans closed))
  · intro finished
    cases finished

/-- The pump sees the end with everything sent, if the end was clean. -/
theorem watched (h : Covered kept live) (waiting : live.pump = .waiting)
    (ended : (live.session.pty.fanout.receive 1).1 = .ended) :
    Covered kept { live with pump := .finished } := by
  have stays : live.pump ≠ .left := by simp [waiting]
  obtain ⟨closed, all⟩ := h.attended.watched_of_ended (h.pumped.receives stays).2 ended
  refine ⟨h.attended, h.pumped.turned stays (by rw [waiting]; rfl) rfl, h.onRecord, ?_, ?_, ?_⟩
  · intro _
    exact ⟨by simp, fun running => absurd rfl running⟩
  · exact h.calm.clean
  · intro _
    exact ⟨closed, fun undisturbed => all (h.calm.clean undisturbed closed)⟩

/-- The start is announced, or nobody hears of it. -/
theorem announced (h : Covered kept live) (announcing : live.pump = .announcing) :
    Covered kept
      (match live.send (Connection.startedReply live.id) with
      | some live => { live with pump := .waiting }
      | none => live.leave) := by
  have running : live.pump ≠ .finished := by simp [announcing]
  cases isOpen : live.outbound.isOpen with
  | true =>
      rw [send_of_open isOpen]
      have other : isOwnOutput live.id (Connection.startedReply live.id) = false :=
        isOwnOutput_of_not (Connection.isOutput_startedReply live.id) live.id
      have logged := h.logged other
        (live.outbound.sent ++ [Connection.startedReply live.id])
      refine ⟨h.attended, ?_, h.onRecord, h.calm.turned running ?_ ?_⟩
      · exact logged.pumped.turned (by simp [announcing]) (by simp only [announcing]; rfl) rfl
      · simp
      · simp
  | false =>
      rw [send_of_closed isOpen]
      exact h.leave (h.disturbed_of_closed running isOpen)

/-- The pump sends what it has in hand, or nobody takes it. -/
theorem sent (h : Covered kept live) {output : Output} (sending : live.pump = .sending output) :
    Covered kept
      (match live.send (Connection.outputMessage live.id output) with
      | some live => { live with pump := .waiting }
      | none => live.leave) := by
  have running : live.pump ≠ .finished := by simp [sending]
  cases isOpen : live.outbound.isOpen with
  | true =>
      rw [send_of_open isOpen]
      refine ⟨h.attended, h.pumped.sent sending, h.onRecord,
        h.calm.turned running ?_ ?_⟩
      · simp
      · simp
  | false =>
      rw [send_of_closed isOpen]
      exact h.leave (h.disturbed_of_closed running isOpen)

/-- The session is taken out of its slot, after the end or after a disturbance. -/
theorem retired (h : Covered kept live)
    (why : live.isDisturbed = false → live.pump = .finished) : Covered kept live.retire :=
  ⟨h.attended, h.pumped, h.onRecord, fun undisturbed =>
    ⟨(h.calm.pumping undisturbed).1, fun running => absurd (why undisturbed) running⟩,
    h.calm.clean, h.calm.finished⟩

theorem disturb (h : Covered kept live) : Covered kept live.disturb :=
  ⟨h.attended, h.pumped, h.onRecord, h.calm.disturbed _ _ _⟩

/-! ### Steps of the reader -/

theorem step_publish (h : Covered kept live) (output : Output) :
    Covered kept (live.step store kept (.publish output)) := by
  simp only [LiveSession.step]
  split
  next => exact h
  next short =>
    exact h.publisher (Nat.le_of_not_lt short) (by simp)
      (Fanout.History.accounts_publish live.history output)

theorem step_endOutput (h : Covered kept live) : Covered kept (live.step store kept .endOutput) := by
  simp only [LiveSession.step]
  split
  next => exact h
  next idle =>
    have ended := h.ended (by simpa using idle)
    exact ⟨ended.attended, ended.pumped, ended.onRecord, ended.calm⟩

/-! ### Steps of the recorder -/

theorem step_record (keeps : store.Keeps kept) (h : Covered kept live) (atMs : Nat) :
    Covered kept (live.step store kept (.record atMs)) := by
  simp only [LiveSession.step]
  split
  next => exact h
  next recorder id found =>
    obtain rfl : id = 0 := (h.onRecord.holds found).1
    split
    next output fanout taken => exact h.recorded keeps found taken atMs
    next => exact h

theorem step_tick (keeps : store.Keeps kept) (h : Covered kept live) :
    Covered kept (live.step store kept .tick) := by
  simp only [LiveSession.step]
  split
  next => exact h
  next recorder id found =>
    obtain rfl : id = 0 := (h.onRecord.holds found).1
    exact h.ticked keeps found

theorem step_finishRecording (keeps : store.Keeps kept) (h : Covered kept live) :
    Covered kept (live.step store kept .finishRecording) := by
  simp only [LiveSession.step]
  split
  next => exact h
  next recorder id found =>
    obtain rfl : id = 0 := (h.onRecord.holds found).1
    split
    next ended =>
      have finished := h.recordingFinished keeps found ended
      simpa only [RunningSession.finishRecording, found] using finished
    next => exact h

/-! ### Steps of the pump -/

theorem step_take (h : Covered kept live) : Covered kept (live.step store kept .take) := by
  simp only [LiveSession.step]
  split
  next id waiting watched =>
    obtain rfl : id = 1 := h.pumped.own watched
    split
    next output fanout item => exact h.taken waiting (congrArg Prod.fst item)
    next fanout ended => exact h.watched waiting (congrArg Prod.fst ended)
    next => exact h
  next => exact h

theorem step_reap (h : Covered kept live) : Covered kept (live.step store kept .reap) := by
  simp only [LiveSession.step]
  split
  next goes =>
    simp only [Bool.and_eq_true, decide_eq_true_eq] at goes
    exact h.retired fun _ => goes.1.1
  next => exact h

theorem step_leave (h : Covered kept live) : Covered kept (live.step store kept .leave) := by
  simp only [LiveSession.step]
  split
  next goes =>
    simp only [Bool.and_eq_true, decide_eq_true_eq] at goes
    apply h.leave
    by_contra undisturbed
    obtain ⟨notCancelled, -⟩ := (h.calm.pumping (by simpa using undisturbed)).2 goes.2
    rw [goes.1] at notCancelled
    cases notCancelled
  next => exact h

/-! ### Steps that retire the session -/

theorem step_stop (h : Covered kept live) : Covered kept (live.step store kept .stop) := by
  simp only [LiveSession.step]
  split
  next => exact h
  next =>
    refine h.disturb.retired fun undisturbed => ?_
    simp only [LiveSession.disturb, Bool.or_eq_false_iff, decide_eq_false_iff_not,
      not_not] at undisturbed
    exact undisturbed.2

theorem step_stopAtShutdown (h : Covered kept live) :
    Covered kept (live.step store kept .stopAtShutdown) := by
  simp only [LiveSession.step]
  split
  next goes =>
    simp only [Bool.and_eq_true, Bool.or_eq_true, decide_eq_true_eq] at goes
    refine h.retired fun undisturbed => ?_
    obtain finished | left := goes.1.2
    · exact finished
    · exact absurd left (h.calm.pumping undisturbed).1
  next => exact h

theorem step_close (h : Covered kept live) : Covered kept (live.step store kept .close) := by
  simp only [LiveSession.step]
  split
  next isRetired =>
    have closed := h.closed isRetired
    exact ⟨closed.attended, closed.pumped, closed.onRecord, closed.calm⟩
  next => exact h

/-! ### Any step -/

theorem step_sendOther (h : Covered kept live) (message : Message) :
    Covered kept (live.step store kept (.sendOther message)) := by
  simp only [LiveSession.step]
  split
  next => exact h
  next other =>
    cases isOpen : live.outbound.isOpen with
    | true =>
        rw [send_of_open isOpen]
        exact h.logged (by simpa using other) _
    | false =>
        rw [send_of_closed isOpen]
        exact h

theorem step (keeps : store.Keeps kept) (h : Covered kept live) (action : Action π σ) :
    Covered kept (live.step store kept action) := by
  cases action with
  | work => exact ⟨h.attended, h.pumped, h.onRecord, h.calm⟩
  | publish output => exact h.step_publish output
  | resume => exact h.publisher trivial (by simp) rfl
  | resumeLate => exact h.publisher trivial (by simp) rfl
  | reorder ids => exact h.publisher trivial (by simp) rfl
  | endOutput => exact h.step_endOutput
  | record atMs => exact h.step_record keeps atMs
  | tick => exact h.step_tick keeps
  | finishRecording => exact h.step_finishRecording keeps
  | announce =>
      simp only [LiveSession.step]
      split
      next announcing => exact h.announced announcing
      next => exact h
  | take => exact h.step_take
  | send =>
      simp only [LiveSession.step]
      split
      next output sending => exact h.sent sending
      next => exact h
  | reap => exact h.step_reap
  | stop => exact h.step_stop
  | shutdown => exact ⟨h.attended, h.pumped, h.onRecord, h.calm.disturbed _ _ _⟩
  | leave => exact h.step_leave
  | stopAtShutdown => exact h.step_stopAtShutdown
  | close => exact h.step_close
  | hangUp => exact ⟨h.attended, h.pumped, h.onRecord, h.calm.disturbed _ _ _⟩
  | sendOther message => exact h.step_sendOther message
  | takeSent => exact ⟨h.attended, h.pumped, h.onRecord, h.calm⟩
  | useStore s =>
      simp only [LiveSession.step]
      split
      next same => exact ⟨h.attended, h.pumped, h.onRecord.transfer same, h.calm⟩
      next => exact h

theorem run (keeps : store.Keeps kept) (h : Covered kept live) (actions : List (Action π σ)) :
    Covered kept (live.run store kept actions) := by
  induction actions generalizing live with
  | nil => exact h
  | cons action rest ih => exact ih (h.step keeps action)

/-- A session that has just been started is covered. -/
theorem start (keeps : store.Keeps kept) {pty : PtySession π} (fresh : pty.fanout = .new)
    (settings : RecorderSettings) (outbound : Outbound) (s : σ) :
    Covered kept (LiveSession.start store settings pty outbound s) := by
  obtain ⟨id, process, isRunning, isReading, isDone, cols, rows, fanout⟩ := pty
  cases (fresh : fanout = .new)
  refine ⟨Fanout.History.attended_of_attached, ?_, ⟨?_, ?_⟩, ?_⟩
  · exact ⟨fun found => (Option.some.inj found).symm, fun _ => ⟨rfl, rfl⟩, List.prefix_refl _,
      fun _ => rfl⟩
  · intro recorder n found
    cases created : Recorder.start store id settings s with
    | mk recorder? s' =>
        simp only [LiveSession.start, RunningSession.start, created, Option.map_eq_some_iff,
          Prod.mk.injEq] at found
        obtain ⟨recorder', rfl, rfl, rfl⟩ := found
        refine ⟨rfl, [], [], 0, ?_, rfl⟩
        have holds := Recorder.start_holds keeps created
        simp only [LiveSession.start, RunningSession.start, created]
        exact holds
  · intro stats none_
    cases none_
  · refine ⟨fun undisturbed => ⟨by simp [LiveSession.start], fun _ => ⟨rfl, rfl, ?_⟩⟩, ?_, ?_⟩
    · simpa [LiveSession.start] using undisturbed
    · intro _ closed
      cases closed
    · intro finished
      cases finished

end Covered

/-- Whatever happens in whatever order, what was sent of the output of a session whose recording is
    sealed is a first part of what playback loads. If the pump has finished and nothing disturbed it
    before, it is all of it. -/
theorem run_covered (keeps : store.Keeps kept) {archive : σ → Archive}
    (reads : ∀ {key bytes s}, kept key s = some ⟨bytes, true⟩ → (archive s).read key = .ok bytes)
    {host : Host π} {id : String} {spec : ShellSpec} {pty : PtySession π}
    (started : PtySession.start host id spec = .ok pty) (settings : RecorderSettings)
    (outbound : Outbound) (s : σ) (actions : List (Action π σ)) {stats : RecorderStats}
    (finished : ((start store settings pty outbound s).run store kept actions).stats = some stats)
    (isSealed : stats.isSealed = true) :
    let live := start store settings pty outbound s
    let after := live.run store kept actions
    ∃ chunks, Playback.load (archive after.store) id = .ok chunks ∧
      shown id after.log <+: chunks.flatMap (·.data) ∧
      (after.pump = .finished → Undisturbed store kept live actions →
        shown id after.log = chunks.flatMap (·.data)) := by
  intro live after
  obtain ⟨named, fresh⟩ := PtySession.start_fresh started
  have covered : Covered kept after :=
    (Covered.start keeps fresh settings outbound s).run keeps actions
  have own : after.id = id := (id_run live actions).trans named
  obtain ⟨-, content⟩ := covered.onRecord.finished finished
  obtain ⟨-, bytes, chunks, stored, decoded, data⟩ := content isSealed
  rw [own] at stored
  have loaded : Playback.load (archive after.store) id = .ok chunks :=
    Playback.load_eq (reads stored) decoded
  have recorded : chunks.flatMap (·.data) = after.ledger.heard.flatMap (·.data) := by
    rw [List.flatMap_def, List.flatMap_def, data]
  have inOrder := covered.pumped.inOrder
  rw [own] at inOrder
  refine ⟨chunks, loaded, ?_, fun pumped undisturbed => ?_⟩
  -- Both queues have got first parts of what was heard, and the recorder has got all of it.
  · obtain ⟨rest, heard⟩ := covered.attended.watched_prefix
    have watched : (after.ledger.accounts 1).received.flatMap (·.data) <+:
        after.ledger.heard.flatMap (·.data) := by
      refine ⟨rest.flatMap (·.data), ?_⟩
      rw [← List.flatMap_append]
      exact congrArg (List.flatMap _) heard
    rw [recorded]
    exact inOrder.trans watched
  -- Nothing is in hand after the pump has finished, so what was sent is all that was watched.
  · have isOpen : outbound.isOpen = true := undisturbed.1
    have calm : after.isDisturbed = false := by
      rw [isDisturbed_run live actions undisturbed.2]
      exact congrArg Bool.not isOpen
    have whole := covered.pumped.whole (by simp [pumped])
    rw [own, pumped, (covered.calm.finished pumped).2 calm] at whole
    rw [recorded, ← whole]
    exact (List.append_nil _).symm

/-- The shell puts out two pieces and ends, and both are seen and played back. -/
theorem run_covered_two_pieces :
    let host : Host Unit :=
      { launch := fun _ => .ok ()
        write := fun _ process => (.ok (), process)
        resize := fun _ _ process => (.ok (), process)
        read := fun process => ([], process)
        readToEnd? := fun process => some ([], process)
        hasEnded := fun _ => true
        exitCode? := fun _ => some 0
        kill := fun process => (.ok 0, process)
        killGroup := fun process => process }
    let actions : List (Action Unit MemoryStore) :=
      [.announce, .publish ⟨[104, 105], .enabled⟩, .record 0, .tick, .take, .send,
        .publish ⟨[33], .disabled⟩, .endOutput, .take, .record 7, .send, .finishRecording, .take,
        .reap, .close]
    let pty : PtySession Unit := ⟨"session", (), true, false, false, 80, 24, .new⟩
    let after := (start MemoryStore.recording .default pty .new .empty).run MemoryStore.recording
      (fun key s => s.recordings.get? key) actions
    PtySession.start host "session" .default = .ok pty ∧
      ∃ chunks, Playback.load after.store.archive "session" = .ok chunks ∧
        shown "session" after.log = chunks.flatMap (·.data) ∧
        shown "session" after.log = [104, 105, 33] := by
  intro host actions pty after
  have started : PtySession.start host "session" .default = .ok pty := rfl
  have anySealed : after.stats.any (·.isSealed) = true := by decide +kernel
  obtain ⟨stats, finished, isSealed⟩ := (Option.any_eq_true _ _).mp anySealed
  obtain ⟨chunks, loaded, -, all⟩ :=
    run_covered MemoryStore.keeps MemoryStore.read_of_kept started .default .new .empty actions
      finished isSealed
  have undisturbed : Undisturbed MemoryStore.recording (fun key s => s.recordings.get? key)
      (start MemoryStore.recording .default pty .new .empty) actions :=
    undisturbed_of_quiet rfl (by decide)
  exact ⟨started, chunks, loaded, all (by decide +kernel) undisturbed, by decide +kernel⟩

end LiveSession

end TerminalAgent
