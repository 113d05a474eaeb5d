import Mathlib.Data.List.Lex
import Mathlib.Tactic.SplitIfs
import TerminalAgent.Proofs.Text.Characters

/-! # The order of texts is the order of their bytes

UTF-8 keeps order: of two characters the one with the greater number has the greater bytes, and the
bytes of neither begin those of the other. So texts may be compared by characters or by bytes.
-/

namespace TerminalAgent.Utf8

/-- Whatever follows the bytes of a character, those of a greater one are greater. -/
theorem encodeChar_lt {a b : Char} (less : a < b) (s t : Bytes) :
    String.utf8EncodeChar a ++ s < String.utf8EncodeChar b ++ t := by
  have number : a.val.toNat < b.val.toNat := less
  have bound : b.val.toNat < 0x110000 := by
    have valid := b.valid
    simp only [UInt32.isValidChar, Nat.isValidChar] at valid
    omega
  -- The later bytes hold six bits each, so both numbers are taken apart six bits at a time.
  have sixBits (n : Nat) : n / 4096 = n / 64 / 64 ∧ n / 262144 = n / 64 / 64 / 64 := by omega
  unfold String.utf8EncodeChar
  generalize a.val.toNat = x at number
  generalize b.val.toNat = y at number bound
  dsimp only
  split_ifs
  all_goals
    simp only [List.cons_append, List.nil_append, List.cons_lt_cons_iff, UInt8.lt_iff_toNat_lt,
      ← UInt8.toNat_inj, UInt8.toNat_ofNat', (sixBits _).1, (sixBits _).2]
    omega

theorem flatMap_encodeChar_lt {s t : List Char} (less : s < t) :
    s.flatMap String.utf8EncodeChar < t.flatMap String.utf8EncodeChar := by
  induction s generalizing t with
  | nil =>
      cases t with
      | nil => exact absurd less (List.lt_irrefl _)
      | cons c t =>
          have first : String.utf8EncodeChar c ≠ [] := String.utf8EncodeChar_ne_nil
          cases bytes : String.utf8EncodeChar c with
          | nil => exact absurd bytes first
          | cons b bytes' =>
              rw [List.flatMap_nil, List.flatMap_cons, bytes]
              exact List.nil_lt_cons ..
  | cons a s ih =>
      cases t with
      | nil => exact absurd less (List.not_lt_nil _)
      | cons b t =>
          rw [List.flatMap_cons, List.flatMap_cons]
          rcases List.cons_lt_cons_iff.mp less with lower | ⟨rfl, later⟩
          · exact encodeChar_lt lower _ _
          · exact List.Lex.append_left _ (ih later) _

/-- Texts are in the order of their bytes. -/
theorem encode_lt_encode {a b : String} : encode a < encode b ↔ a < b := by
  have keeps {a b : String} (less : a < b) : encode a < encode b := by
    rw [encode_eq_flatMap, encode_eq_flatMap]
    exact flatMap_encodeChar_lt (String.lt_iff.mp less)
  constructor
  · intro less
    by_contra not
    rcases Std.le_iff_lt_or_eq.mp (String.not_lt.mp not) with other | rfl
    · exact List.lt_asymm less (keeps other)
    · exact List.lt_irrefl _ less
  · exact keeps

end TerminalAgent.Utf8
