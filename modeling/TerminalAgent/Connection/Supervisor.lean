import TerminalAgent.Connection.Backoff

/-!
# Staying connected

A supervisor waits until what the agent needs on its own machine is there, connects, serves the
connection until it is lost, and waits before it tries again. It is a state machine: `step` says what
follows from what happened. Whoever runs it asks, connects, serves and sleeps as the phase says, and
tells it the outcome.
-/

namespace TerminalAgent

/-- How things stand with the connection to the server. -/
inductive ConnectionState where
  /-- Not connected, and not trying right now. -/
  | disconnected
  | connecting
  | connected
  /-- Given up for good. -/
  | failed
  deriving Repr, DecidableEq

inductive SupervisorError where
  | alreadyRunning
  /-- There may be no attempt after this many. -/
  | attemptsExhausted (attempts : Nat)
  deriving Repr, DecidableEq

namespace SupervisorError

def message : SupervisorError → String
  | alreadyRunning => "supervisor already started"
  | attemptsExhausted attempts => s!"gave up after {attempts} failed connection attempts"

end SupervisorError

structure SupervisorSettings where
  backoff : BackoffPolicy
  /-- The longest wait between two questions for the local dependency. -/
  dependencyPoll : Duration
  deriving Repr, DecidableEq

namespace SupervisorSettings

/-- How the waits between questions for the local dependency grow. There is no last question. -/
def dependencyPolicy (settings : SupervisorSettings) : BackoffPolicy :=
  { settings.backoff with
    initial := min settings.backoff.initial settings.dependencyPoll
    max := settings.dependencyPoll
    maxAttempts := none }

end SupervisorSettings

/-- What the supervisor is doing. -/
inductive SupervisorPhase where
  /-- Asks whether the local dependency is there. `waits` gives the wait if it is not. -/
  | checking (waits : Backoff)
  /-- Sleeps before it asks again. -/
  | waiting (waits : Backoff) (delay : Duration)
  | connecting
  | serving
  /-- Sleeps before the next attempt. -/
  | backingOff (delay : Duration)
  | ended (result : Except SupervisorError Unit)

/-- What may happen to a supervisor. -/
inductive SupervisorEvent where
  /-- The question for the local dependency is answered. -/
  | checked (isReady : Bool)
  /-- The time to sleep is over. -/
  | slept
  | connected
  /-- The attempt to connect has failed. -/
  | refused
  /-- The connection that is served is gone. -/
  | lost
  | cancelled
  deriving Repr, DecidableEq

structure Supervisor where
  settings : SupervisorSettings
  phase : SupervisorPhase
  backoff : Backoff
  /-- The states it has been in, the newest first. -/
  history : List ConnectionState

namespace Supervisor

/-- The phase in which a round begins. -/
def firstPhase (settings : SupervisorSettings) : SupervisorPhase :=
  .checking (.new settings.dependencyPolicy)

def new (settings : SupervisorSettings) : Supervisor where
  settings := settings
  phase := firstPhase settings
  backoff := .new settings.backoff
  history := [.disconnected]

def state (supervisor : Supervisor) : ConnectionState :=
  supervisor.history.headD .disconnected

/-- Takes on a state; taking on the state it is in changes nothing. -/
def enter (supervisor : Supervisor) (state : ConnectionState) : Supervisor :=
  if supervisor.state = state then supervisor
  else { supervisor with history := state :: supervisor.history }

def within (supervisor : Supervisor) (phase : SupervisorPhase) : Supervisor :=
  { supervisor with phase }

/-- Ends an attempt or a connection: waits for the next attempt, or gives up. -/
def retry (supervisor : Supervisor) : Supervisor :=
  let supervisor := supervisor.enter .disconnected
  match supervisor.backoff.next with
  | (some delay, backoff) => { supervisor with backoff }.within (.backingOff delay)
  | (none, backoff) =>
      ({ supervisor with backoff }.enter .failed).within
        (.ended (.error (.attemptsExhausted backoff.attempts)))

/-- What follows from an event. Events that do not fit the phase change nothing. -/
def step (supervisor : Supervisor) (event : SupervisorEvent) : Supervisor :=
  match supervisor.phase, event with
  | .ended _, _ => supervisor
  | _, .cancelled => (supervisor.enter .disconnected).within (.ended (.ok ()))
  | .checking _, .checked true => (supervisor.enter .connecting).within .connecting
  | .checking waits, .checked false =>
      let (delay, waits) := waits.next
      supervisor.within (.waiting waits (delay.getD supervisor.settings.dependencyPoll))
  | .waiting waits _, .slept => supervisor.within (.checking waits)
  | .connecting, .connected =>
      ({ supervisor with backoff := supervisor.backoff.reset }.enter .connected).within .serving
  | .connecting, .refused => supervisor.retry
  | .serving, .lost => supervisor.retry
  | .backingOff _, .slept => supervisor.within (firstPhase supervisor.settings)
  | _, _ => supervisor

/-- What follows from events one after the other. -/
def run (supervisor : Supervisor) (events : List SupervisorEvent) : Supervisor :=
  events.foldl step supervisor

/-- How it ended, if it has. -/
def result? (supervisor : Supervisor) : Option (Except SupervisorError Unit) :=
  match supervisor.phase with
  | .ended result => some result
  | _ => none

/-- Follows it on a machine where each question for the local dependency is answered with `isReady` and
    each attempt to connect fails, for at most `fuel` events. -/
def runRefused (isReady : Bool) : (fuel : Nat) → Supervisor → Supervisor
  | 0, supervisor => supervisor
  | fuel + 1, supervisor =>
      match supervisor.phase with
      | .checking _ => runRefused isReady fuel (supervisor.step (.checked isReady))
      | .waiting _ _ | .backingOff _ => runRefused isReady fuel (supervisor.step .slept)
      | .connecting => runRefused isReady fuel (supervisor.step .refused)
      | .serving | .ended _ => supervisor

end Supervisor

end TerminalAgent
