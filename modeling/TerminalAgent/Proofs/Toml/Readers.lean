import TerminalAgent.Toml.Reader

/-! # What readers do in turn

How a reader put together from others goes on, by what its first part makes of the text.
-/

namespace TerminalAgent.Toml

/-! ## Runs of characters -/

theorem takeWhile_append_of_head {p : Char → Bool} {front rest : List Char}
    (all : ∀ c ∈ front, p c = true) (ends : ∀ c ∈ rest.head?, p c = false) :
    (front ++ rest).takeWhile p = front ∧ (front ++ rest).dropWhile p = rest := by
  rw [List.takeWhile_append_of_pos all, List.dropWhile_append_of_pos all]
  cases rest with
  | nil => exact ⟨List.append_nil _, rfl⟩
  | cons c rest =>
      have other : ¬ p c = true := by simp [ends c rfl]
      rw [List.takeWhile_cons_of_neg other, List.dropWhile_cons_of_neg other, List.append_nil]
      exact ⟨rfl, rfl⟩

theorem dropWhile_of_head {p : Char → Bool} {text : List Char} (h : ∀ c ∈ text.head?, p c = false) :
    text.dropWhile p = text :=
  (takeWhile_append_of_head (List.forall_mem_nil _) h).2

/-! ## Parts of a reader -/

namespace Reader

variable {α β : Type} {reader : Reader α} {text rest : Place} {a : α} {fault : Fault}

theorem bind_read (h : reader text = .read a rest) (next : α → Reader β) :
    (reader >>= next) text = next a rest := by
  simp only [bind, h]

theorem bind_missed (h : reader text = .missed fault) (next : α → Reader β) :
    (reader >>= next) text = .missed fault := by
  simp only [bind, h]

theorem orElse_read (h : reader text = .read a rest) (second : Reader α) :
    reader.orElse second text = .read a rest := by
  simp only [orElse, h]

theorem orElse_missed (h : reader text = .missed fault) (second : Reader α) :
    reader.orElse second text = second text := by
  simp only [orElse, h]

theorem optional_missed (h : reader text = .missed fault) :
    optional reader text = .read none text := by
  simp only [optional, h]

theorem final_read (h : reader text = .read a rest) : reader.final text = .read a rest := by
  simp only [final, h, Outcome.final]

theorem labelled_read (h : reader text = .read a rest) (label : String) :
    reader.labelled label text = .read a rest := by
  simp only [labelled, h, Outcome.labelled, Outcome.mapFault]

theorem expecting_read (h : reader text = .read a rest) (what : String) :
    reader.expecting what text = .read a rest := by
  simp only [expecting, h, Outcome.expecting, Outcome.mapFault]

theorem checked_read (h : reader text = .read a rest) {check : α → Except Cause β} {b : β}
    (passed : check a = .ok b) : reader.checked check text = .read b rest := by
  simp only [checked, h, passed]

theorem labelled_missed (h : reader text = .missed fault) (label : String) :
    ∃ fault, reader.labelled label text = .missed fault := by
  simp only [labelled, h, Outcome.labelled, Outcome.mapFault]
  exact ⟨_, rfl⟩

theorem satisfy_read {wanted : Char → Bool} {c : Char} (h : wanted c = true) (rest : Place) :
    satisfy wanted (c :: rest) = .read c rest := by
  rw [satisfy, if_pos h]

theorem satisfy_missed {wanted : Char → Bool} (h : ∀ c ∈ text.head?, wanted c = false) :
    ∃ fault, satisfy wanted text = .missed fault := by
  cases text with
  | nil => exact ⟨_, rfl⟩
  | cons c text =>
      have differs : ¬ wanted c = true := by rw [h c rfl]; exact Bool.false_ne_true
      exact ⟨_, if_neg differs⟩

theorem char_read (c : Char) (rest : Place) : char c (c :: rest) = .read c rest :=
  satisfy_read (beq_self_eq_true c) rest

theorem char_missed {c : Char} (h : text.head? ≠ some c) : ∃ fault, char c text = .missed fault := by
  refine satisfy_missed fun d here => beq_eq_false_iff_ne.mpr ?_
  rintro rfl
  exact h here

theorem place_read (text : Place) : place text = .read text text := rfl

theorem literal_read (s : String) (rest : Place) : literal s (s.toList ++ rest) = .read () rest := by
  have front : s.toList.isPrefixOf (s.toList ++ rest) = true :=
    List.isPrefixOf_iff_prefix.mpr (List.prefix_append ..)
  rw [literal, if_pos front, ← String.length_toList, List.drop_left]

theorem literal_missed {s : String} (h : ¬ s.toList <+: text) :
    ∃ fault, literal s text = .missed fault :=
  ⟨_, if_neg fun front => h (List.isPrefixOf_iff_prefix.mp front)⟩

end Reader

end TerminalAgent.Toml
