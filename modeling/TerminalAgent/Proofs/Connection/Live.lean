import TerminalAgent.Proofs.Connection.Supervisor
import TerminalAgent.Proofs.Router.Ending

/-! # A supervisor whose connections go on

The loop of a supervisor asks, dials, serves and sleeps, while its owner starts it, cancels it and waits
for its end, and while its connections go on by themselves. Only the first call to shut down that finds a
loop waits for it; any other returns at once. One action is one step of one of them. A step that cannot be
taken changes nothing.
-/

namespace TerminalAgent

/-- What a supervisor does that others notice. -/
inductive Happening where
  /-- It asks for the local dependency. -/
  | asked
  | answered (isReady : Bool)
  /-- It begins to connect. -/
  | dialled
  | connected
  | refused
  /-- It stops connecting because it was cancelled. -/
  | abandoned
  /-- A connection is over. -/
  | released
  deriving Repr, DecidableEq

structure LiveService (π σ : Type) where
  supervisor : Supervisor
  /-- What sessions are started with. -/
  shell : ShellSpec
  /-- How sessions are recorded, if they are. -/
  recording : Option RecorderSettings
  /-- The connections so far, the newest first. The newest one is served while the supervisor serves. -/
  connections : List (LiveConnection π σ)
  /-- Whether the loop has begun. -/
  isStarted : Bool
  isCancelled : Bool
  /-- Whether the question or the attempt of this phase is under way. -/
  isBusy : Bool
  /-- Whether a call to shut down has taken it on to wait for the loop. -/
  isAwaited : Bool
  /-- Whether that call has returned. -/
  isJoined : Bool
  /-- Whether any call to shut down has returned. -/
  hasReturned : Bool
  /-- What has happened, oldest first. -/
  trace : List Happening

namespace LiveService

variable {π σ : Type} (store : RecordingStore σ)

def new (settings : SupervisorSettings) (shell : ShellSpec) (recording : Option RecorderSettings) :
    LiveService π σ where
  supervisor := .new settings
  shell := shell
  recording := recording
  connections := []
  isStarted := false
  isCancelled := false
  isBusy := false
  isAwaited := false
  isJoined := false
  hasReturned := false
  trace := []

def note (service : LiveService π σ) (happening : Happening) : LiveService π σ :=
  { service with trace := service.trace ++ [happening] }

/-- The question or the attempt of this phase begins. -/
def engage (service : LiveService π σ) : LiveService π σ :=
  { service with isBusy := true }

/-- The supervisor is told what happened. -/
def follow (service : LiveService π σ) (event : SupervisorEvent) : LiveService π σ :=
  { service with supervisor := service.supervisor.step event, isBusy := false }

/-- A connection is made. -/
def begin (service : LiveService π σ) (s : σ) : LiveService π σ :=
  { service with connections := .new service.shell service.recording s :: service.connections }

/-- What the loop may do next. -/
inductive Turn (σ : Type) where
  | ask
  | answer (isReady : Bool)
  /-- The time to sleep is over. -/
  | wake
  | dial
  | connect (s : σ)
  | refuse
  /-- It sees that it was cancelled, where it is not serving. -/
  | notice
  /-- The connection that was served is over. -/
  | leave

def turn (service : LiveService π σ) : Turn σ → LiveService π σ
  | .ask =>
      match service.supervisor.phase, service.isBusy with
      | .checking _, false => service.engage.note .asked
      | _, _ => service
  | .answer isReady =>
      match service.supervisor.phase, service.isBusy with
      | .checking _, true => (service.follow (.checked isReady)).note (.answered isReady)
      | _, _ => service
  | .wake =>
      match service.supervisor.phase with
      | .waiting _ _ | .backingOff _ => service.follow .slept
      | _ => service
  | .dial =>
      match service.supervisor.phase, service.isBusy with
      | .connecting, false => service.engage.note .dialled
      | _, _ => service
  | .connect s =>
      match service.supervisor.phase, service.isBusy with
      | .connecting, true => ((service.follow .connected).begin s).note .connected
      | _, _ => service
  | .refuse =>
      match service.supervisor.phase, service.isBusy with
      | .connecting, true => (service.follow .refused).note .refused
      | _, _ => service
  | .notice =>
      if service.isCancelled then
        match service.supervisor.phase, service.isBusy with
        | .serving, _ | .ended _, _ => service
        | .connecting, true => (service.follow .cancelled).note .abandoned
        | _, _ => service.follow .cancelled
      else service
  | .leave =>
      match service.supervisor.phase, service.connections with
      | .serving, connection :: _ =>
          if connection.routing = .complete then
            (service.follow (if service.isCancelled then .cancelled else .lost)).note .released
          else service
      | _, _ => service

/-- What may happen to a supervisor and its connections. -/
inductive Action (π σ : Type) where
  | start
  /-- The loop is told to end. -/
  | cancel
  /-- A call to shut down tells the loop to end, and waits for it unless another call does. -/
  | shutdown
  /-- The call returns that waits for the loop. -/
  | join
  | loop (turn : Turn σ)
  /-- The connection goes on that is the nth when counted from the newest one. -/
  | connection (n : Nat) (action : LiveConnection.Action π σ)

def step (service : LiveService π σ) : Action π σ → LiveService π σ
  | .start => { service with isStarted := true }
  | .cancel => { service with isCancelled := true }
  | .shutdown =>
      let service := { service with isCancelled := true }
      if service.isStarted && !service.isAwaited then { service with isAwaited := true }
      else { service with hasReturned := true }
  | .join =>
      if service.isAwaited && service.supervisor.result?.isSome then
        { service with isJoined := true, hasReturned := true }
      else service
  | .loop turn => if service.isStarted then service.turn turn else service
  | .connection n action =>
      { service with connections := service.connections.modify n fun live => live.step store action }

/-- A supervisor and its connections after these actions. -/
def run (service : LiveService π σ) (actions : List (Action π σ)) : LiveService π σ :=
  actions.foldl (step store) service

/-! ## What the loop does -/

/-- What can become of a supervisor by one turn of its loop. -/
inductive Turns (service : LiveService π σ) : LiveService π σ → Prop
  | stays : Turns service service
  | asked {waits : Backoff} (phase : service.supervisor.phase = .checking waits)
      (idle : service.isBusy = false) : Turns service (service.engage.note .asked)
  | answered {waits : Backoff} (phase : service.supervisor.phase = .checking waits)
      (busy : service.isBusy = true) (isReady : Bool) :
      Turns service ((service.follow (.checked isReady)).note (.answered isReady))
  | woken (phase : (∃ waits delay, service.supervisor.phase = .waiting waits delay) ∨
      ∃ delay, service.supervisor.phase = .backingOff delay) :
      Turns service (service.follow .slept)
  | dialled (phase : service.supervisor.phase = .connecting) (idle : service.isBusy = false) :
      Turns service (service.engage.note .dialled)
  | connected (phase : service.supervisor.phase = .connecting) (busy : service.isBusy = true) (s : σ) :
      Turns service (((service.follow .connected).begin s).note .connected)
  | refused (phase : service.supervisor.phase = .connecting) (busy : service.isBusy = true) :
      Turns service ((service.follow .refused).note .refused)
  | abandoned (phase : service.supervisor.phase = .connecting) (busy : service.isBusy = true) :
      Turns service ((service.follow .cancelled).note .abandoned)
  | noticed (notServing : service.supervisor.phase ≠ .serving)
      (goesOn : service.supervisor.result? = none)
      (notDialling : service.supervisor.phase = .connecting → service.isBusy = false) :
      Turns service (service.follow .cancelled)
  | released (phase : service.supervisor.phase = .serving)
      (complete : ∀ live ∈ service.connections.head?, live.routing = .complete)
      {event : SupervisorEvent} (why : event = .cancelled ∨ event = .lost) :
      Turns service ((service.follow event).note .released)

theorem turn_turns (service : LiveService π σ) (turn : Turn σ) : Turns service (service.turn turn) := by
  cases turn with
  | ask =>
      simp only [LiveService.turn]
      split
      next phase idle => exact .asked phase idle
      next => exact .stays
  | answer isReady =>
      simp only [LiveService.turn]
      split
      next phase busy => exact .answered phase busy isReady
      next => exact .stays
  | wake =>
      simp only [LiveService.turn]
      split
      next phase => exact .woken (.inl ⟨_, _, phase⟩)
      next phase => exact .woken (.inr ⟨_, phase⟩)
      next => exact .stays
  | dial =>
      simp only [LiveService.turn]
      split
      next phase idle => exact .dialled phase idle
      next => exact .stays
  | connect s =>
      simp only [LiveService.turn]
      split
      next phase busy => exact .connected phase busy s
      next => exact .stays
  | refuse =>
      simp only [LiveService.turn]
      split
      next phase busy => exact .refused phase busy
      next => exact .stays
  | notice =>
      simp only [LiveService.turn]
      split
      next =>
        split
        next => exact .stays
        next => exact .stays
        next phase busy => exact .abandoned phase busy
        next notServing notEnded notDialling =>
          refine .noticed (fun phase => notServing phase) ?_ fun phase => ?_
          · unfold Supervisor.result?
            split
            next phase => exact absurd phase (notEnded _)
            next => rfl
          · exact Bool.eq_false_iff.mpr (notDialling phase)
      next => exact .stays
  | leave =>
      simp only [LiveService.turn]
      split
      next connection _ phase connections =>
        split
        next complete =>
          refine .released phase ?_ ?_
          · rw [connections]
            rintro _ ⟨⟩
            exact complete
          · split
            next => exact .inl rfl
            next => exact .inr rfl
        next => exact .stays
      next => exact .stays

end LiveService

end TerminalAgent
