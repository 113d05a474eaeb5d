import TerminalAgent.Connection.Supervisor

/-! # What one event does to a supervisor

An event either fits the phase and leads to the next one, or it changes nothing.
-/

namespace TerminalAgent

namespace Backoff

@[simp] theorem attempts_new (policy : BackoffPolicy) : (new policy).attempts = 0 := rfl

@[simp] theorem policy_new (policy : BackoffPolicy) : (new policy).policy = policy := rfl

@[simp] theorem attempts_reset (backoff : Backoff) : backoff.reset.attempts = 0 := rfl

@[simp] theorem policy_reset (backoff : Backoff) : backoff.reset.policy = backoff.policy := rfl

@[simp] theorem attempts_next (backoff : Backoff) :
    backoff.next.2.attempts = backoff.attempts + 1 := by
  simp only [next]
  split <;> rfl

@[simp] theorem policy_next (backoff : Backoff) : backoff.next.2.policy = backoff.policy := by
  simp only [next]
  split <;> rfl

/-- There is no next attempt once the limit is reached. -/
theorem next_eq_none {backoff : Backoff} :
    backoff.next.1 = none ↔
      ∃ limit, backoff.policy.maxAttempts = some limit ∧ limit ≤ backoff.attempts + 1 := by
  simp only [next]
  split
  next reached => simpa [Option.any_eq_true] using reached
  next goesOn => simpa [Option.any_eq_true] using goesOn

end Backoff

namespace Supervisor

variable (supervisor : Supervisor) (state : ConnectionState) (phase : SupervisorPhase)

@[simp] theorem phase_within : (supervisor.within phase).phase = phase := rfl

@[simp] theorem backoff_within : (supervisor.within phase).backoff = supervisor.backoff := rfl

@[simp] theorem history_within : (supervisor.within phase).history = supervisor.history := rfl

@[simp] theorem state_within : (supervisor.within phase).state = supervisor.state := rfl

@[simp] theorem backoff_enter : (supervisor.enter state).backoff = supervisor.backoff := by
  unfold enter
  split <;> rfl

@[simp] theorem state_enter : (supervisor.enter state).state = state := by
  unfold enter
  split
  next same => exact same
  next => rfl

/-- What follows from the end of an attempt or of a connection. -/
theorem retry_cases :
    (∃ delay, supervisor.backoff.next.1 = some delay ∧
      supervisor.retry =
        { supervisor.enter .disconnected with
          backoff := supervisor.backoff.next.2 }.within (.backingOff delay)) ∨
    (supervisor.backoff.next.1 = none ∧
      supervisor.retry =
        ({ supervisor.enter .disconnected with backoff := supervisor.backoff.next.2 }.enter
          .failed).within
          (.ended (.error (.attemptsExhausted supervisor.backoff.next.2.attempts)))) := by
  unfold retry
  simp only [backoff_enter]
  cases found : supervisor.backoff.next with
  | mk delay backoff =>
      cases delay with
      | none => exact .inr ⟨rfl, rfl⟩
      | some delay => exact .inl ⟨delay, rfl, rfl⟩

end Supervisor

/-- Whether an event can happen in a phase. -/
def SupervisorPhase.admits : SupervisorPhase → SupervisorEvent → Bool
  | .ended _, _ => false
  | _, .cancelled => true
  | .checking _, .checked _ => true
  | .waiting _ _, .slept => true
  | .connecting, .connected => true
  | .connecting, .refused => true
  | .serving, .lost => true
  | .backingOff _, .slept => true
  | _, _ => false

namespace Supervisor

variable (supervisor : Supervisor)

/-- What an event leads to. -/
inductive Leads (supervisor : Supervisor) : SupervisorEvent → Supervisor → Prop where
  | nowhere {event} (unfit : supervisor.phase.admits event = false) :
      Leads supervisor event supervisor
  | cancelled (goesOn : supervisor.result? = none) :
      Leads supervisor .cancelled ((supervisor.enter .disconnected).within (.ended (.ok ())))
  | ready {waits} (phase : supervisor.phase = .checking waits) :
      Leads supervisor (.checked true) ((supervisor.enter .connecting).within .connecting)
  | unready {waits} (phase : supervisor.phase = .checking waits) (delay : Duration) :
      Leads supervisor (.checked false) (supervisor.within (.waiting waits.next.2 delay))
  | awake {waits delay} (phase : supervisor.phase = .waiting waits delay) :
      Leads supervisor .slept (supervisor.within (.checking waits))
  | connected (phase : supervisor.phase = .connecting) :
      Leads supervisor .connected
        (({ supervisor with backoff := supervisor.backoff.reset }.enter .connected).within .serving)
  | refused (phase : supervisor.phase = .connecting) : Leads supervisor .refused supervisor.retry
  | lost (phase : supervisor.phase = .serving) : Leads supervisor .lost supervisor.retry
  | again {delay} (phase : supervisor.phase = .backingOff delay) :
      Leads supervisor .slept (supervisor.within (firstPhase supervisor.settings))

theorem step_leads (event : SupervisorEvent) :
    Leads supervisor event (supervisor.step event) := by
  have nowhere (unfit : supervisor.phase.admits event = false)
      (same : supervisor.step event = supervisor) :
      Leads supervisor event (supervisor.step event) := same.symm ▸ .nowhere unfit
  cases event with
  | cancelled =>
      cases phase : supervisor.phase with
      | ended => exact nowhere (by rw [phase]; rfl) (by simp only [step, phase])
      | checking | waiting | connecting | serving | backingOff =>
          simp only [step, phase]
          exact .cancelled (by simp only [result?, phase])
  | checked isReady =>
      cases phase : supervisor.phase with
      | checking waits =>
          cases isReady with
          | true => simp only [step, phase]; exact .ready phase
          | false => simp only [step, phase]; exact .unready phase _
      | ended | waiting | connecting | serving | backingOff =>
          exact nowhere (by rw [phase]; rfl) (by simp only [step, phase])
  | slept =>
      cases phase : supervisor.phase with
      | waiting => simp only [step, phase]; exact .awake phase
      | backingOff => simp only [step, phase]; exact .again phase
      | ended | checking | connecting | serving =>
          exact nowhere (by rw [phase]; rfl) (by simp only [step, phase])
  | connected =>
      cases phase : supervisor.phase with
      | connecting => simpa only [step, phase] using Leads.connected phase
      | ended | checking | waiting | serving | backingOff =>
          exact nowhere (by rw [phase]; rfl) (by simp only [step, phase])
  | refused =>
      cases phase : supervisor.phase with
      | connecting => simp only [step, phase]; exact .refused phase
      | ended | checking | waiting | serving | backingOff =>
          exact nowhere (by rw [phase]; rfl) (by simp only [step, phase])
  | lost =>
      cases phase : supervisor.phase with
      | serving => simp only [step, phase]; exact .lost phase
      | ended | checking | waiting | connecting | backingOff =>
          exact nowhere (by rw [phase]; rfl) (by simp only [step, phase])

end Supervisor

end TerminalAgent
