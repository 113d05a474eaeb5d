import Mathlib.Data.List.Basic

/-! # Computations that may fail

What it takes for a computation put together from others to succeed.
-/

namespace TerminalAgent

variable {ε ε' α β σ : Type}

theorem bind_eq_ok {first : Except ε α} {next : α → Except ε β} {b : β} :
    first >>= next = .ok b ↔ ∃ a, first = .ok a ∧ next a = .ok b := by
  cases first with
  | error fault =>
      constructor
      · rintro ⟨⟩
      · rintro ⟨a, ⟨⟩, -⟩
  | ok a =>
      constructor
      · intro made
        exact ⟨a, rfl, made⟩
      · rintro ⟨_, ⟨⟩, made⟩
        exact made

theorem map_eq_ok {outcome : Except ε α} {f : α → β} {b : β} :
    outcome.map f = .ok b ↔ ∃ a, outcome = .ok a ∧ f a = b := by
  cases outcome <;> simp [Except.map]

theorem mapError_eq_ok {outcome : Except ε α} {f : ε → ε'} {a : α} :
    outcome.mapError f = .ok a ↔ outcome = .ok a := by
  cases outcome <;> simp [Except.mapError]

theorem refused_eq_ok {c : Prop} [Decidable c] {fault : ε} {outcome : Except ε α} {a : α} :
    (if c then .error fault else outcome) = .ok a ↔ ¬ c ∧ outcome = .ok a := by
  split <;> simp [*]

theorem passed_eq_ok {c : Prop} [Decidable c] {fault : ε} {outcome : Except ε α} {a : α} :
    (if c then outcome else .error fault) = .ok a ↔ c ∧ outcome = .ok a := by
  split <;> simp [*]

/-- What each step keeps is kept by all of them in turn. -/
theorem foldlM_keeps {P : σ → Prop} {take : σ → α → Except ε σ} {items : List α} {start after : σ}
    (keeps : ∀ item ∈ items, ∀ {before after}, P before → take before item = .ok after → P after)
    (holds : P start) (taken : items.foldlM take start = .ok after) : P after := by
  induction items generalizing start with
  | nil =>
      cases taken
      exact holds
  | cons item items ih =>
      obtain ⟨between, first, others⟩ := bind_eq_ok.mp taken
      have kept : P between := keeps item List.mem_cons_self holds first
      exact ih (fun item member => keeps item (List.mem_cons_of_mem _ member)) kept others

end TerminalAgent
