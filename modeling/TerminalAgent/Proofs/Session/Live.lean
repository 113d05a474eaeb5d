import TerminalAgent.Proofs.Recording.Recorder
import TerminalAgent.Proofs.Session.Fanout
import TerminalAgent.Router.Basic

/-! # A session whose tasks take turns

A session is served by a reader, a recorder and a pump of live output, while requests, the end of the
connection and other sessions come in between. `LiveSession.step` is one step of one of them, so that a
list of actions is one way in which the steps can be interleaved. A step that cannot be taken changes
nothing.
-/

namespace TerminalAgent

/-- A shell starts under its own id, and nobody has subscribed yet. -/
theorem PtySession.start_fresh {π : Type} {host : Host π} {id : String} {spec : ShellSpec}
    {pty : PtySession π} (started : PtySession.start host id spec = .ok pty) :
    pty.id = id ∧ pty.fanout = .new := by
  unfold PtySession.start at started
  split at started
  next => cases started
  next =>
    cases started
    exact ⟨rfl, rfl⟩

/-- How far the pump of live output has come. -/
inductive Pump where
  /-- The session was not announced yet. -/
  | announcing
  | waiting
  /-- About to send a piece of output. -/
  | sending (output : Output)
  /-- It has seen the end of the output. -/
  | finished
  /-- It has given up: it was cancelled, or nobody takes messages. -/
  | left
  deriving Repr, DecidableEq

/-- A session that is served, with what its tasks share with others. -/
structure LiveSession (π σ : Type) where
  session : RunningSession π
  ledger : Fanout.Ledger
  store : σ
  outbound : Outbound
  /-- All messages that were sent since the session was started, oldest first. -/
  log : List Message
  pump : Pump
  /-- What the recorder has done, once it is finished. -/
  stats : Option RecorderStats
  /-- Whether the connection ends. -/
  isCancelled : Bool
  /-- Whether someone has taken the session out of its slot, to finish it. -/
  isRetired : Bool
  /-- Whether a request, the end of the connection or a closed channel came before the pump had
      finished. -/
  isDisturbed : Bool

namespace LiveSession

variable {π σ : Type} (store : RecordingStore σ) (kept : String → σ → Option Recording)

/-- A session that has just been started and is recorded. -/
def start (settings : RecorderSettings) (pty : PtySession π) (outbound : Outbound) (s : σ) :
    LiveSession π σ :=
  let (session, s) := RunningSession.start store (some settings) pty s
  { session
    ledger := (Fanout.History.run
      [.subscribe none, .subscribe (some Fanout.liveCapacity)]).toLedger
    store := s
    outbound
    log := []
    pump := .announcing
    stats := none
    isCancelled := false
    isRetired := false
    isDisturbed := !outbound.isOpen }

def id (live : LiveSession π σ) : String := live.session.pty.id

/-- The fan-out with what has happened to it. -/
def history (live : LiveSession π σ) : Fanout.History where
  toLedger := live.ledger
  fanout := live.session.pty.fanout

/-- Something happens to the fan-out. -/
def act (action : Fanout.Action) (live : LiveSession π σ) : LiveSession π σ :=
  let history := live.history.perform action
  { live with
    session := { live.session with pty := { live.session.pty with fanout := history.fanout } }
    ledger := history.toLedger }

/-- The pump gives up, and its receiver is gone. -/
def leave (live : LiveSession π σ) : LiveSession π σ :=
  match live.session.watcher with
  | none => { live with pump := .left }
  | some id =>
      { live with
        session := live.session.unwatch
        ledger := (live.history.perform (.dropReceiver id)).toLedger
        pump := .left }

/-- Sends a message, if the channel is open. -/
def send (message : Message) (live : LiveSession π σ) : Option (LiveSession π σ) :=
  match live.outbound.send message with
  | (.ok (), outbound) => some { live with outbound, log := live.log ++ [message] }
  | (.error _, _) => none

/-- Something else than the end of the output may end the pump. -/
def disturb (live : LiveSession π σ) : LiveSession π σ :=
  { live with isDisturbed := live.isDisturbed || live.pump ≠ .finished }

/-- Someone takes the session out of its slot. -/
def retire (live : LiveSession π σ) : LiveSession π σ :=
  { live with
    session := { live.session with pty := { live.session.pty with isRunning := false } }
    isRetired := true }

/-- Whether a message carries output of the session. -/
def isOwnOutput (id : String) (message : Message) : Bool :=
  Connection.isOutput message && message.sessionId? = some id

theorem isOwnOutput_of_not {message : Message} (h : Connection.isOutput message = false)
    (id : String) : isOwnOutput id message = false := by
  rw [isOwnOutput, h, Bool.false_and]

/-- What may happen while a session is served. -/
inductive Action (π σ : Type) where
  /-- The shell goes on, and its terminal may change. -/
  | work (process : π) (cols rows : UInt16)
  /-- The reader publishes what it has read, unless it still waits for room. -/
  | publish (output : Output)
  /-- The reader that waits goes on by one queue, if it can. -/
  | resume
  | resumeLate
  | reorder (ids : List Nat)
  /-- The reader comes to the end of the output. -/
  | endOutput
  /-- The recorder takes a piece of output. -/
  | record (atMs : Nat)
  | tick
  /-- The recorder sees the end of the output and finishes. -/
  | finishRecording
  /-- The start of the session is announced, and the pump begins. -/
  | announce
  /-- The pump takes a piece of output, or sees the end. -/
  | take
  /-- The pump sends what it has taken. -/
  | send
  /-- The pump retires the session after the end of the output. -/
  | reap
  /-- A request stops the session. -/
  | stop
  /-- The connection ends: its pumps are cancelled. -/
  | shutdown
  /-- The pump sees that it is cancelled. -/
  | leave
  /-- The session is stopped once the pump is gone. -/
  | stopAtShutdown
  /-- Whoever retired the session has ended the shell and detaches all subscribers. -/
  | close
  /-- Nobody takes messages any more. -/
  | hangUp
  /-- Something else is sent. -/
  | sendOther (message : Message)
  /-- What was sent is taken from the channel. -/
  | takeSent
  /-- Others use the store. -/
  | useStore (s : σ)

def step (live : LiveSession π σ) : Action π σ → LiveSession π σ
  | .work process cols rows =>
      { live with
        session := { live.session with pty := { live.session.pty with process, cols, rows } } }
  | .publish output =>
      if 4096 < output.data.length then live else live.act (.publish output)
  | .resume => live.act .resume
  | .resumeLate => live.act .resumeLate
  | .reorder ids => live.act (.reorder ids)
  | .endOutput =>
      if live.session.pty.fanout.pending.isSome then live
      else
        { live with
          session := { live.session with pty := live.session.pty.finishReading }
          ledger := (live.history.perform .close).toLedger }
  | .record atMs =>
      match live.session.recorder with
      | none => live
      | some (recorder, id) =>
          match live.session.pty.fanout.receive id with
          | (.item output, _) =>
              let (recorder, s) := recorder.receive store atMs output live.store
              let live := live.act (.receive id)
              { live with
                session := { live.session with recorder := some (recorder, id) }, store := s }
          | _ => live
  | .tick =>
      match live.session.recorder with
      | none => live
      | some (recorder, id) =>
          let (recorder, s) := (recorder.flush store live.store).2
          { live with
            session := { live.session with recorder := some (recorder, id) }, store := s }
  | .finishRecording =>
      match live.session.recorder with
      | none => live
      | some (recorder, id) =>
          if (live.session.pty.fanout.receive id).1 = .ended then
            let (session, s) := live.session.finishRecording store live.store
            { live with session, store := s, stats := some (recorder.finish store live.store).1 }
          else live
  | .announce =>
      if live.pump = .announcing then
        match live.send (Connection.startedReply live.id) with
        | some live => { live with pump := .waiting }
        | none => live.leave
      else live
  | .take =>
      match live.pump, live.session.watcher with
      | .waiting, some id =>
          match live.session.pty.fanout.receive id with
          | (.item output, _) => { live.act (.receive id) with pump := .sending output }
          | (.ended, _) => { live with pump := .finished }
          | (.nothing, _) => live
      | _, _ => live
  | .send =>
      match live.pump with
      | .sending output =>
          match live.send (Connection.outputMessage live.id output) with
          | some live => { live with pump := .waiting }
          | none => live.leave
      | _ => live
  | .reap =>
      if live.pump = .finished && !live.isRetired && !live.session.pty.isRunning then live.retire
      else live
  | .stop => if live.isRetired then live else live.disturb.retire
  | .shutdown => { live.disturb with isCancelled := true }
  | .leave => if live.isCancelled && live.pump ≠ .finished then live.leave else live
  | .stopAtShutdown =>
      if live.isCancelled && (live.pump = .finished || live.pump = .left) && !live.isRetired then
        live.retire
      else live
  | .close =>
      if live.isRetired then
        { live with
          session := { live.session with pty := live.session.pty.close }
          ledger := (live.history.perform .close).toLedger }
      else live
  | .hangUp => { live.disturb with outbound := live.outbound.hangUp }
  | .sendOther message =>
      if isOwnOutput live.id message then live else (live.send message).getD live
  | .takeSent => { live with outbound := { live.outbound with sent := [] } }
  | .useStore s => if kept live.id s = kept live.id live.store then { live with store := s } else live

/-- A session after these actions. -/
def run (live : LiveSession π σ) (actions : List (Action π σ)) : LiveSession π σ :=
  actions.foldl (step store kept) live

/-! ## What is not touched -/

/-- Whether an action is a request to stop, the end of the connection or the end of the channel. -/
def Action.disturbs : Action π σ → Bool
  | .stop | .shutdown | .hangUp => true
  | _ => false

/-- The channel is open, and nothing disturbs the pump before it has finished. -/
def Undisturbed (live : LiveSession π σ) (actions : List (Action π σ)) : Prop :=
  live.outbound.isOpen = true ∧ ∀ before action after, actions = before ++ action :: after →
    action.disturbs = true → (live.run store kept before).pump = .finished

variable {store kept}

theorem undisturbed_of_quiet {live : LiveSession π σ} {actions : List (Action π σ)}
    (isOpen : live.outbound.isOpen = true)
    (quiet : ∀ action ∈ actions, action.disturbs = false) :
    Undisturbed store kept live actions := by
  refine ⟨isOpen, fun before action after split disturbs => ?_⟩
  have member : action ∈ actions := by simp [split]
  rw [quiet action member] at disturbs
  cases disturbs

theorem send_of_open {live : LiveSession π σ} (isOpen : live.outbound.isOpen = true)
    (message : Message) :
    live.send message = some
      { live with
        outbound := { live.outbound with sent := live.outbound.sent ++ [message] }
        log := live.log ++ [message] } := by
  simp only [send, Outbound.send, isOpen, if_true, pure, Except.pure]

theorem send_of_closed {live : LiveSession π σ} (closed : live.outbound.isOpen = false)
    (message : Message) : live.send message = none := by
  simp only [send, Outbound.send, closed, Bool.false_eq_true, if_false, throw, throwThe,
    MonadExceptOf.throw]

theorem run_append (live : LiveSession π σ) (actions more : List (Action π σ)) :
    live.run store kept (actions ++ more) = (live.run store kept actions).run store kept more :=
  List.foldl_append ..

/-- What is no output is always sent, if the channel is open. -/
theorem step_sendOther {message : Message} (other : Connection.isOutput message = false)
    (live : LiveSession π σ) :
    live.step store kept (.sendOther message) =
      { live with
        outbound := (live.outbound.send message).2
        log := if live.outbound.isOpen then live.log ++ [message] else live.log } := by
  simp only [step, isOwnOutput_of_not other, Bool.false_eq_true, if_false]
  cases isOpen : live.outbound.isOpen with
  | true =>
      rw [send_of_open isOpen]
      simp [Outbound.send, isOpen]
  | false =>
      rw [send_of_closed isOpen]
      simp [Outbound.send, isOpen]

theorem send_frame {live live' : LiveSession π σ} {message : Message}
    (sent : live.send message = some live') :
    live'.id = live.id ∧ live'.isDisturbed = live.isDisturbed := by
  cases isOpen : live.outbound.isOpen with
  | true =>
      rw [send_of_open isOpen] at sent
      cases sent
      exact ⟨rfl, rfl⟩
  | false =>
      rw [send_of_closed isOpen] at sent
      cases sent

theorem leave_eq (live : LiveSession π σ) : ∃ ledger,
    live.leave = { live with session := live.session.unwatch, ledger, pump := .left } := by
  cases found : live.session.watcher with
  | none =>
      refine ⟨live.ledger, ?_⟩
      simp only [leave, RunningSession.unwatch, found]
  | some id =>
      refine ⟨(live.history.perform (.dropReceiver id)).toLedger, ?_⟩
      simp only [leave, RunningSession.unwatch, found]

theorem leave_frame (live : LiveSession π σ) :
    live.leave.id = live.id ∧ live.leave.isDisturbed = live.isDisturbed := by
  unfold leave
  split
  next => exact ⟨rfl, rfl⟩
  next id found => exact ⟨by simp only [LiveSession.id, RunningSession.unwatch, found], rfl⟩

theorem step_frame (live : LiveSession π σ) (action : Action π σ) :
    (live.step store kept action).id = live.id ∧
      ((action.disturbs = true → live.pump = .finished) →
        (live.step store kept action).isDisturbed = live.isDisturbed) := by
  cases action with
  | publish | endOutput | reap | stopAtShutdown | close | useStore | tick =>
      simp only [step]
      split <;> exact ⟨rfl, fun _ => rfl⟩
  | work | resume | resumeLate | reorder | takeSent => exact ⟨rfl, fun _ => rfl⟩
  | record =>
      simp only [step]
      split
      next => exact ⟨rfl, fun _ => rfl⟩
      next => split <;> exact ⟨rfl, fun _ => rfl⟩
  | finishRecording =>
      simp only [step]
      split
      next => exact ⟨rfl, fun _ => rfl⟩
      next found =>
        split
        next => exact ⟨by simp [LiveSession.id, RunningSession.finishRecording, found], fun _ => rfl⟩
        next => exact ⟨rfl, fun _ => rfl⟩
  | announce =>
      simp only [step]
      split
      next =>
        split
        next sent =>
          obtain ⟨id, isDisturbed⟩ := send_frame sent
          exact ⟨id, fun _ => isDisturbed⟩
        next => exact ⟨(leave_frame live).1, fun _ => (leave_frame live).2⟩
      next => exact ⟨rfl, fun _ => rfl⟩
  | take =>
      simp only [step]
      split
      next => split <;> exact ⟨rfl, fun _ => rfl⟩
      next => exact ⟨rfl, fun _ => rfl⟩
  | send =>
      simp only [step]
      split
      next =>
        split
        next sent =>
          obtain ⟨id, isDisturbed⟩ := send_frame sent
          exact ⟨id, fun _ => isDisturbed⟩
        next => exact ⟨(leave_frame live).1, fun _ => (leave_frame live).2⟩
      next => exact ⟨rfl, fun _ => rfl⟩
  | leave =>
      simp only [step]
      split
      next => exact ⟨(leave_frame live).1, fun _ => (leave_frame live).2⟩
      next => exact ⟨rfl, fun _ => rfl⟩
  | stop =>
      simp only [step]
      split
      next => exact ⟨rfl, fun _ => rfl⟩
      next => exact ⟨rfl, fun quiet => by simp [retire, disturb, quiet rfl]⟩
  | shutdown | hangUp => exact ⟨rfl, fun quiet => by simp [step, disturb, quiet rfl]⟩
  | sendOther message =>
      simp only [step]
      split
      next => exact ⟨rfl, fun _ => rfl⟩
      next =>
        cases sent : live.send message with
        | none => exact ⟨rfl, fun _ => rfl⟩
        | some live' =>
            obtain ⟨id, isDisturbed⟩ := send_frame sent
            exact ⟨id, fun _ => isDisturbed⟩

theorem id_run (live : LiveSession π σ) (actions : List (Action π σ)) :
    (live.run store kept actions).id = live.id := by
  induction actions generalizing live with
  | nil => rfl
  | cons action rest ih => exact (ih _).trans (step_frame live action).1

theorem isDisturbed_run (live : LiveSession π σ) (actions : List (Action π σ))
    (quiet : ∀ before action after, actions = before ++ action :: after →
      action.disturbs = true → (live.run store kept before).pump = .finished) :
    (live.run store kept actions).isDisturbed = live.isDisturbed := by
  induction actions generalizing live with
  | nil => rfl
  | cons action rest ih =>
      have first : (live.step store kept action).isDisturbed = live.isDisturbed :=
        (step_frame live action).2 (quiet [] action rest rfl)
      have later := ih (live.step store kept action) fun before next after split =>
        quiet (action :: before) next after (by rw [split, List.cons_append])
      exact later.trans first

end LiveSession

end TerminalAgent
