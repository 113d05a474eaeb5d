import Mathlib.Data.List.Induction
import TerminalAgent.Proofs.Connection.Supervisor

/-! # When a supervisor gives up

A supervisor counts what has gone wrong since a connection was last made: each attempt that was refused,
and the loss of that connection as well. It gives up when the count comes to the limit, so after a loss
one refusal less is enough than at the start.
-/

namespace TerminalAgent

/-- What has become of an attempt to connect, or of a connection. -/
inductive ConnectionOutcome where
  | established
  | refused
  | lost
  deriving Repr, DecidableEq

namespace ConnectionOutcome

/-- So much has gone wrong since the start or since a connection was last made. -/
def Failed (count : Nat) (outcomes : List ConnectionOutcome) : Prop :=
  outcomes = .replicate count refused ∨
    ∃ earlier refusals, count = refusals + 1 ∧
      outcomes = earlier ++ established :: lost :: .replicate refusals refused

/-- What has gone wrong since a connection was last made. -/
def failures (outcomes : List ConnectionOutcome) : Nat :=
  (outcomes.reverse.takeWhile (· ≠ established)).length

section
variable (outcomes : List ConnectionOutcome)

theorem failures_append {outcome : ConnectionOutcome} (fails : outcome ≠ established) :
    failures (outcomes ++ [outcome]) = failures outcomes + 1 := by
  simp [failures, fails]

theorem failures_established : failures (outcomes ++ [established]) = 0 := by
  simp [failures]

theorem failures_refusals (refusals : Nat) :
    failures (outcomes ++ .replicate refusals refused) = failures outcomes + refusals := by
  induction refusals with
  | zero => simp
  | succ refusals ih =>
      rw [List.replicate_succ', ← List.append_assoc, failures_append _ (by decide), ih]
      rfl

end

namespace Failed

variable {count : Nat} {outcomes : List ConnectionOutcome}

theorem failures_eq (h : Failed count outcomes) : failures outcomes = count := by
  obtain rfl | ⟨earlier, refusals, rfl, rfl⟩ := h
  · have none : failures [] = 0 := rfl
    rw [← List.nil_append (.replicate _ _), failures_refusals, none, Nat.zero_add]
  · have split : earlier ++ established :: lost :: List.replicate refusals refused =
        earlier ++ [established] ++ [lost] ++ .replicate refusals refused := by simp
    rw [split, failures_refusals, failures_append _ (by decide), failures_established]
    omega

theorem refuse (h : Failed count outcomes) : Failed (count + 1) (outcomes ++ [refused]) := by
  obtain rfl | ⟨earlier, refusals, rfl, rfl⟩ := h
  · exact .inl List.replicate_succ'.symm
  · refine .inr ⟨earlier, refusals + 1, rfl, ?_⟩
    rw [List.replicate_succ', List.append_assoc]
    rfl

theorem lose (outcomes : List ConnectionOutcome) :
    Failed 1 (outcomes ++ [established] ++ [lost]) :=
  .inr ⟨outcomes, 0, rfl, by simp⟩

end Failed

end ConnectionOutcome

namespace Supervisor

open ConnectionOutcome

/-- What an event says of a connection, if it fits the phase. -/
def outcome? : SupervisorPhase → SupervisorEvent → Option ConnectionOutcome
  | .connecting, .connected => some .established
  | .connecting, .refused => some .refused
  | .serving, .lost => some .lost
  | _, _ => none

theorem outcome?_of_unfit {phase : SupervisorPhase} {event : SupervisorEvent}
    (unfit : phase.admits event = false) : outcome? phase event = none := by
  unfold outcome?
  split
  next => cases unfit
  next => cases unfit
  next => cases unfit
  next => rfl

/-- What becomes of attempts and connections while these events happen. -/
def outcomes (supervisor : Supervisor) : List SupervisorEvent → List ConnectionOutcome
  | [] => []
  | event :: rest =>
      (outcome? supervisor.phase event).toList ++ (supervisor.step event).outcomes rest

theorem outcomes_append (supervisor : Supervisor) (events : List SupervisorEvent)
    (event : SupervisorEvent) :
    supervisor.outcomes (events ++ [event]) = supervisor.outcomes events ++
      (outcome? (supervisor.run events).phase event).toList := by
  induction events generalizing supervisor with
  | nil => simp [outcomes, run]
  | cons first rest ih =>
      rw [List.cons_append, outcomes, ih, outcomes, List.append_assoc]
      rfl

theorem run_append (supervisor : Supervisor) (events : List SupervisorEvent)
    (event : SupervisorEvent) :
    supervisor.run (events ++ [event]) = (supervisor.run events).step event := by
  simp [run]

/-- How phase and count go with what has happened, if the limit is `n`. -/
structure Counts (n : Nat) (supervisor : Supervisor) (outcomes : List ConnectionOutcome) : Prop where
  limit : supervisor.backoff.policy.maxAttempts = some n
  count : supervisor.backoff.attempts = failures outcomes
  serving : supervisor.phase = .serving → ∃ earlier, outcomes = earlier ++ [.established]
  trying : supervisor.phase ≠ .serving → supervisor.result? = none →
    Failed (failures outcomes) outcomes
  below : supervisor.result? ≠ some (.error (.attemptsExhausted n)) → failures outcomes < n
  ended : ∀ {k}, supervisor.result? = some (.error (.attemptsExhausted k)) →
    k = n ∧ Failed n outcomes ∧ supervisor.state = .failed

namespace Counts

variable {n : Nat} {supervisor : Supervisor} {outcomes : List ConnectionOutcome}

/-- One more failure leads to a wait, or at the limit to the end. -/
theorem retry (h : Counts n supervisor outcomes) {outcome : ConnectionOutcome}
    (fails : outcome ≠ .established) (goesOn : supervisor.result? = none)
    (failed : Failed (failures outcomes + 1) (outcomes ++ [outcome])) :
    Counts n supervisor.retry (outcomes ++ [outcome]) := by
  have below : failures outcomes < n := h.below (by simp [goesOn])
  have counted := failures_append outcomes fails
  obtain ⟨delay, some_, same⟩ | ⟨none_, same⟩ := supervisor.retry_cases
  · have notYet : ¬n ≤ failures outcomes + 1 := by
      intro reached
      have stops := Backoff.next_eq_none.mpr ⟨n, h.limit, h.count ▸ reached⟩
      rw [stops] at some_
      cases some_
    rw [same]
    constructor
    case limit => exact (congrArg _ (Backoff.policy_next _)).trans h.limit
    case count => exact (Backoff.attempts_next _).trans (by rw [counted, h.count])
    case serving => intro serves; cases serves
    case trying => exact fun _ _ => counted ▸ failed
    case below => intro _; omega
    case ended => intro _ ended; cases ended
  · obtain ⟨limit, isLimit, reached⟩ := Backoff.next_eq_none.mp none_
    cases h.limit.symm.trans isLimit
    have full : failures outcomes + 1 = n := by
      rw [h.count] at reached
      omega
    have attempts : supervisor.backoff.next.2.attempts = n := by
      rw [Backoff.attempts_next, h.count, full]
    rw [same, attempts]
    constructor
    case limit =>
      rw [backoff_within, backoff_enter]
      exact (congrArg _ (Backoff.policy_next _)).trans h.limit
    case count =>
      rw [backoff_within, backoff_enter, counted, full]
      exact attempts
    case serving => intro serves; cases serves
    case trying => intro _ goesOn; cases goesOn
    case below => exact fun goesOn => absurd rfl goesOn
    case ended =>
      intro k ended
      cases ended
      exact ⟨rfl, full ▸ failed, state_enter _ _⟩

/-- The supervisor goes from one phase to another without an outcome. -/
theorem turned (h : Counts n supervisor outcomes) (goesOn : supervisor.result? = none)
    (trying : supervisor.phase ≠ .serving) {supervisor' : Supervisor}
    (backoff : supervisor'.backoff = supervisor.backoff)
    (trying' : supervisor'.phase ≠ .serving) (goesOn' : supervisor'.result? = none) :
    Counts n supervisor' outcomes where
  limit := backoff ▸ h.limit
  count := backoff ▸ h.count
  serving serves := absurd serves trying'
  trying _ _ := h.trying trying goesOn
  below _ := h.below (by simp [goesOn])
  ended ended := by simp [goesOn'] at ended

theorem step (h : Counts n supervisor outcomes) (positive : 0 < n) (event : SupervisorEvent) :
    Counts n (supervisor.step event) (outcomes ++ (outcome? supervisor.phase event).toList) := by
  have leads := supervisor.step_leads event
  generalize supervisor.step event = supervisor' at leads
  cases leads with
  | nowhere unfit =>
      rw [outcome?_of_unfit unfit, Option.toList_none, List.append_nil]
      exact h
  | cancelled goesOn =>
      have noOutcome : outcome? supervisor.phase .cancelled = none := by
        cases supervisor.phase <;> rfl
      rw [noOutcome, Option.toList_none, List.append_nil]
      constructor
      case limit => simpa using h.limit
      case count => simpa using h.count
      case serving => intro serves; cases serves
      case trying => intro _ goesOn; cases goesOn
      case below => exact fun _ => h.below (by simp [goesOn])
      case ended => intro _ ended; cases ended
  | connected phase =>
      simp only [phase, outcome?, Option.toList_some]
      have none_ := failures_established outcomes
      constructor
      case limit => simpa using h.limit
      case count => simp [none_]
      case serving => exact fun _ => ⟨outcomes, rfl⟩
      case trying => exact fun notServing => absurd rfl notServing
      case below => exact fun _ => none_ ▸ positive
      case ended => intro _ ended; cases ended
  | refused phase =>
      have goesOn : supervisor.result? = none := by simp only [result?, phase]
      simp only [phase, outcome?, Option.toList_some]
      exact h.retry (by decide) goesOn (h.trying (by simp [phase]) goesOn).refuse
  | lost phase =>
      have goesOn : supervisor.result? = none := by simp only [result?, phase]
      simp only [phase, outcome?, Option.toList_some]
      obtain ⟨earlier, rfl⟩ := h.serving phase
      refine h.retry (by decide) goesOn ?_
      rw [failures_established]
      exact .lose earlier
  | ready phase | unready phase | awake phase | again phase =>
      simp only [phase, outcome?, Option.toList_none, List.append_nil]
      refine h.turned ?_ ?_ ?_ ?_ ?_ <;> simp [result?, phase, firstPhase]

theorem start {settings : SupervisorSettings} (limit : settings.backoff.maxAttempts = some n)
    (positive : 0 < n) : Counts n (Supervisor.new settings) [] where
  limit := limit
  count := rfl
  serving serves := by cases serves
  trying _ _ := .inl rfl
  below _ := positive
  ended ended := by cases ended

theorem run {settings : SupervisorSettings} (limit : settings.backoff.maxAttempts = some n)
    (positive : 0 < n) (events : List SupervisorEvent) :
    Counts n ((Supervisor.new settings).run events)
      ((Supervisor.new settings).outcomes events) := by
  induction events using List.reverseRecOn with
  | nil => exact start limit positive
  | append_singleton events event ih =>
      rw [run_append, outcomes_append]
      exact ih.step positive event

end Counts

/-- A supervisor has given up exactly when the last outcomes are as many refusals as the limit says,
    with no connection before them, or a connection, its loss and one refusal less. -/
theorem run_exhausted_iff {settings : SupervisorSettings} {n : Nat}
    (limit : settings.backoff.maxAttempts = some n) (positive : 0 < n)
    (events : List SupervisorEvent) (k : Nat) :
    let supervisor := (new settings).run events
    (supervisor.result? = some (.error (.attemptsExhausted k)) ∧ supervisor.state = .failed) ↔
      k = n ∧ Failed n ((new settings).outcomes events) := by
  intro supervisor
  have counts := Counts.run limit positive events
  constructor
  · rintro ⟨ended, -⟩
    obtain ⟨same, failed, -⟩ := counts.ended ended
    exact ⟨same, failed⟩
  · rintro ⟨rfl, failed⟩
    have ended : supervisor.result? = some (.error (.attemptsExhausted k)) := by
      by_contra goesOn
      exact absurd failed.failures_eq (Nat.ne_of_lt (counts.below goesOn))
    exact ⟨ended, (counts.ended ended).2.2⟩

/-- With a limit of two, the loss of a connection and one refusal are enough. -/
theorem run_exhausted_iff_after_loss :
    let settings : SupervisorSettings :=
      ⟨{ BackoffPolicy.default with maxAttempts := some 2 }, .ofMillis 500⟩
    let events : List SupervisorEvent :=
      [.checked true, .connected, .lost, .slept, .checked true, .refused]
    settings.backoff.maxAttempts = some 2 ∧ 0 < 2 ∧
      ((new settings).run events).result? = some (.error (.attemptsExhausted 2)) ∧
      ((new settings).run events).state = .failed := by
  intro settings events
  have outcomes : (new settings).outcomes events = [.established, .lost, .refused] := by decide
  have failed : Failed 2 ((new settings).outcomes events) := .inr ⟨[], 1, rfl, outcomes⟩
  obtain ⟨ended, state⟩ := (run_exhausted_iff (n := 2) rfl (by decide) events 2).mpr ⟨rfl, failed⟩
  exact ⟨rfl, by decide, ended, state⟩

/-- With a limit of one, a supervisor gives up when it loses a connection: no attempt has failed. -/
theorem exhausted_without_refusal :
    let settings : SupervisorSettings :=
      ⟨{ BackoffPolicy.default with maxAttempts := some 1 }, .ofMillis 500⟩
    let events : List SupervisorEvent := [.checked true, .connected, .lost]
    ((new settings).run events).result? = some (.error (.attemptsExhausted 1)) ∧
      ((new settings).run events).state = .failed ∧
      ConnectionOutcome.refused ∉ (new settings).outcomes events := by
  intro settings events
  exact ⟨rfl, rfl, by decide⟩

end Supervisor

end TerminalAgent
