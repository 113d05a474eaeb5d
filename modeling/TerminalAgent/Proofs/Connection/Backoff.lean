import Mathlib.Data.List.Induction
import Mathlib.Logic.Function.Iterate
import TerminalAgent.Proofs.Config.Checks
import TerminalAgent.Proofs.Connection.Supervisor

/-! # Waiting times between attempts

The waiting times of a series are the iterates of one function, whatever the factor is by which they
grow: none is above the limit, and a reset begins them anew. The count of attempts tells which of them
comes next, and it fits its bits as long as there are fewer calls than it can count.
-/

namespace TerminalAgent

namespace Binary64

/-- A number that equals zero is zero without its sign. -/
theorem abs_of_numEq_zero {x : Binary64} (equal : x.numEq (.zero false) = true) : x.abs = .zero false := by
  have zeroFinite : (zero false).isFinite = true := by decide
  obtain ⟨below, above⟩ : x.le (.zero false) = true ∧ (zero false).le x = true := by
    simpa [numEq] using equal
  obtain ⟨-, least, most⟩ := between_of_le zeroFinite zeroFinite above below
  have exactly : x.signedScaled = 0 := Int.le_antisymm most least
  have scaled : x.scaled = 0 := by
    unfold signedScaled at exactly
    split at exactly <;> omega
  have significand : x.significand = 0 :=
    (Nat.mul_eq_zero.mp scaled).resolve_right (Nat.pos_iff_ne_zero.mp (Nat.pow_pos (by decide)))
  have magnitude : x.bits.toNat % signBit = 0 := by
    unfold Binary64.significand at significand
    split at significand
    next lowest =>
      simp only [exponentField, fractionField, leadingBit, maxExponent] at lowest significand
      simp only [signBit]
      omega
    next => simp only [leadingBit] at significand; omega
  simp only [abs, zero, ofFields, magnitude, Nat.zero_mod]

end Binary64

theorem Duration.min_eq_left {a b : Duration} (h : a ≤ b) : min a b = a := if_pos h

namespace BackoffCall

/-- The attempts since the last reset. -/
def attempts (calls : List BackoffCall) : Nat :=
  (calls.reverse.takeWhile (· = .attempt)).length

theorem attempts_attempt (calls : List BackoffCall) :
    attempts (calls ++ [.attempt]) = attempts calls + 1 := by
  simp [attempts]

theorem attempts_reset (calls : List BackoffCall) : attempts (calls ++ [.reset]) = 0 := by
  simp [attempts]

theorem attempts_le_length (calls : List BackoffCall) : attempts calls ≤ calls.length := by
  have part := (List.takeWhile_prefix (· = attempt) (l := calls.reverse)).length_le
  rwa [List.length_reverse] at part

end BackoffCall

namespace Backoff

variable {policy : BackoffPolicy} {draw : Binary64 → Binary64} {backoff : Backoff}

theorem delay_of_still (still : policy.jitter.numEq (.zero false) = true) (base : Duration) :
    delay policy draw base = base := by
  have absent : policy.spread? = none := by
    simp [BackoffPolicy.spread?, Binary64.abs_of_numEq_zero still]
  simp only [delay, absent]

/-- The waiting times of a series, from the first one on. -/
def nth (policy : BackoffPolicy) (n : Nat) : Duration :=
  (grow policy)^[n] (min policy.initial policy.max)

theorem nth_zero (policy : BackoffPolicy) : nth policy 0 = min policy.initial policy.max := rfl

theorem nth_succ (policy : BackoffPolicy) (n : Nat) : nth policy (n + 1) = grow policy (nth policy n) :=
  Function.iterate_succ_apply' ..

theorem nth_le (policy : BackoffPolicy) (n : Nat) : nth policy n ≤ policy.max := by
  cases n with
  | zero => exact Duration.min_le_right ..
  | succ n =>
      rw [nth_succ]
      exact Duration.min_le_right ..

/-- There is a next attempt after so many. -/
def GoesOn (policy : BackoffPolicy) (count : Nat) : Prop :=
  ∀ limit, policy.maxAttempts = some limit → count < limit

theorem GoesOn.before {count : Nat} (h : GoesOn policy (count + 1)) : GoesOn policy count :=
  fun limit isLimit => Nat.lt_of_succ_lt (h limit isLimit)

/-- Where a series stands after so many attempts. Once the limit is reached, the next waiting time does
    not matter until the series begins anew. -/
structure Stands (policy : BackoffPolicy) (count : Nat) (backoff : Backoff) : Prop where
  settings : backoff.policy = policy
  attempts : backoff.attempts = count
  current : GoesOn policy count → min backoff.current policy.max = nth policy count

namespace Stands

variable {count : Nat}

theorem start (policy : BackoffPolicy) : Stands policy 0 (.new policy) := ⟨rfl, rfl, fun _ => rfl⟩

theorem reset (h : Stands policy count backoff) : Stands policy 0 backoff.reset where
  settings := h.settings
  attempts := rfl
  current _ := by
    obtain ⟨rfl, -, -⟩ := h
    rfl

theorem stops (h : Stands policy count backoff) :
    backoff.next.1 = none ↔ ∃ limit, policy.maxAttempts = some limit ∧ limit ≤ count + 1 := by
  rw [next_eq_none, h.settings, h.attempts]

/-- The waiting time after one attempt more. -/
theorem answer (h : Stands policy count backoff) {base : Duration} (answered : backoff.next.1 = some base) :
    base = nth policy count ∧ backoff.next.2.current = nth policy (count + 1) := by
  have goesOn : GoesOn policy (count + 1) := by
    intro limit isLimit
    by_contra reached
    rw [h.stops.mpr ⟨limit, isLimit, Nat.le_of_not_lt reached⟩] at answered
    cases answered
  have current := h.current goesOn.before
  obtain ⟨rfl, -, -⟩ := h
  simp only [Backoff.next] at answered ⊢
  split at answered
  next => cases answered
  next notReached =>
    cases answered
    rw [if_neg notReached]
    exact ⟨current, (nth_succ backoff.policy count).symm ▸ congrArg (grow backoff.policy) current⟩

theorem next (h : Stands policy count backoff) : Stands policy (count + 1) backoff.next.2 where
  settings := (policy_next backoff).trans h.settings
  attempts := (attempts_next backoff).trans (congrArg (· + 1) h.attempts)
  current goesOn := by
    cases answered : backoff.next.1 with
    | none =>
        obtain ⟨limit, isLimit, reached⟩ := h.stops.mp answered
        exact absurd (goesOn limit isLimit) (Nat.not_lt.mpr reached)
    | some base =>
        rw [(h.answer answered).2]
        exact Duration.min_eq_left (nth_le policy (count + 1))

/-- An attempt that can still be counted gives the waiting time of its number, unless the limit is
    reached. -/
theorem attempt? (h : Stands policy count backoff) (still : policy.jitter.numEq (.zero false) = true)
    (countable : count + 1 < attemptsBound) :
    backoff.attempt? draw = some (backoff.next.1, backoff.next.2) := by
  have same : backoff.next.1.map (delay backoff.policy draw) = backoff.next.1 := by
    rw [h.settings]
    cases backoff.next.1 with
    | none => rfl
    | some base => exact congrArg some (delay_of_still still base)
  rw [Backoff.attempt?, h.attempts, if_pos countable, ← same]

end Stands

theorem run?_append (backoff : Backoff) (calls : List BackoffCall) (call : BackoffCall) :
    backoff.run? draw (calls ++ [call]) = (backoff.run? draw calls).bind (call? draw · call) := by
  simp [run?, List.foldlM_append]

/-- A series of calls that can be counted goes through, and stands where its attempts since the last
    reset say. -/
theorem run?_stands (still : policy.jitter.numEq (.zero false) = true) (draw : Binary64 → Binary64)
    {calls : List BackoffCall} (few : calls.length < attemptsBound) :
    ∃ backoff, (new policy).run? draw calls = some backoff ∧
      Stands policy (BackoffCall.attempts calls) backoff := by
  induction calls using List.reverseRecOn with
  | nil => exact ⟨new policy, rfl, .start policy⟩
  | append_singleton calls call ih =>
      rw [List.length_append, List.length_singleton] at few
      obtain ⟨backoff, ran, stands⟩ := ih (Nat.lt_of_succ_lt few)
      have counted := BackoffCall.attempts_le_length calls
      cases call with
      | attempt =>
          refine ⟨backoff.next.2, ?_, ?_⟩
          · rw [run?_append, ran, Option.bind_some, call?, stands.attempt? still (by omega)]
            rfl
          · rw [BackoffCall.attempts_attempt]
            exact stands.next
      | reset =>
          refine ⟨backoff.reset, ?_, ?_⟩
          · rw [run?_append, ran]
            rfl
          · rw [BackoffCall.attempts_reset]
            exact stands.reset

/-- With no deviation and any factor, fewer calls than can be counted go through and are counted. Each
    attempt among them is answered by a waiting time of at most the limit, the first of a series by the
    initial one, unless there may be no further attempt. -/
theorem run?_capped (still : policy.jitter.numEq (.zero false) = true) (draw : Binary64 → Binary64)
    {calls : List BackoffCall} (few : calls.length < attemptsBound) :
    (∃ backoff, (new policy).run? draw calls = some backoff ∧
      backoff.attempts = BackoffCall.attempts calls) ∧
    ∀ earlier later, calls = earlier ++ .attempt :: later →
      ∃ backoff answer after, (new policy).run? draw earlier = some backoff ∧
        backoff.attempt? draw = some (answer, after) ∧
        (answer = none ↔
          ∃ limit, policy.maxAttempts = some limit ∧ limit ≤ BackoffCall.attempts earlier + 1) ∧
        ∀ time, answer = some time → time ≤ policy.max ∧
          (BackoffCall.attempts earlier = 0 → time = min policy.initial policy.max) := by
  constructor
  · obtain ⟨backoff, ran, stands⟩ := run?_stands still draw few
    exact ⟨backoff, ran, stands.attempts⟩
  · rintro earlier later rfl
    rw [List.length_append, List.length_cons] at few
    have counted := BackoffCall.attempts_le_length earlier
    have fewer : earlier.length < attemptsBound := by omega
    obtain ⟨backoff, ran, stands⟩ := run?_stands still draw fewer
    refine ⟨backoff, _, _, ran, stands.attempt? still (by omega), stands.stops, ?_⟩
    intro time answered
    obtain ⟨rfl, -⟩ := stands.answer answered
    refine ⟨nth_le policy _, fun first => ?_⟩
    rw [first, nth_zero]

/-- A policy whose waiting times grow by no number at all, with a deviation of minus zero. -/
def numberless : BackoffPolicy where
  initial := .ofMillis 700
  max := .ofMillis 500
  multiplier := .nan
  jitter := .zero true
  maxAttempts := some 3

/-- After a reset there are two waiting times before the limit is reached again. -/
theorem run?_capped_numberless :
    let earlier : List BackoffCall := [.attempt, .attempt, .reset]
    let calls : List BackoffCall := earlier ++ [.attempt, .attempt, .attempt]
    numberless.jitter.numEq (.zero false) = true ∧ calls.length < attemptsBound ∧
      (∃ backoff, (new numberless).run? id calls = some backoff ∧ backoff.attempts = 3) ∧
      (∃ backoff after, (new numberless).run? id earlier = some backoff ∧
        backoff.attempt? id = some (some (.ofMillis 500), after)) ∧
      ∃ backoff after, (new numberless).run? id (earlier ++ [.attempt, .attempt]) = some backoff ∧
        backoff.attempt? id = some (none, after) := by
  intro earlier calls
  have still : numberless.jitter.numEq (.zero false) = true := by decide
  have few : calls.length < attemptsBound := by decide
  obtain ⟨counted, answered⟩ := run?_capped still id few
  obtain ⟨backoff, answer, after, ran, tried, stops, waits⟩ := answered earlier [.attempt, .attempt] rfl
  obtain ⟨backoff', answer', after', ran', tried', stops', -⟩ :=
    answered (earlier ++ [.attempt, .attempt]) [] rfl
  refine ⟨still, few, counted, ⟨backoff, after, ran, ?_⟩, backoff', after', ran', ?_⟩
  · cases answer with
    | none =>
        obtain ⟨limit, isLimit, reached⟩ := stops.mp rfl
        cases isLimit
        exact absurd reached (by decide)
    | some time =>
        rw [tried, (waits time rfl).2 rfl]
        rfl
  · rw [tried', stops'.mpr ⟨3, rfl, by decide⟩]

end Backoff

end TerminalAgent
