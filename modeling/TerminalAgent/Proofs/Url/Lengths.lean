import TerminalAgent.Proofs.Url.Parts

/-! # How long the parts of a path are

Every part of the path of a URL comes from a stretch of the text, in which an escape makes three bytes of
one. So no part is more than three times as long as the text.
-/

namespace TerminalAgent

theorem Utf8.length_encode (s : String) : (encode s).length = s.utf8ByteSize := by
  simp [encode]

namespace Url

open String (utf8Len)

/-! ## Escapes -/

theorem utf8Size_hexDigit {n : Nat} (h : n < 16) : (hexDigit n).utf8Size = 1 := by
  have all : ∀ n < 16, (hexDigit n).utf8Size = 1 := by decide
  exact all n h

theorem utf8Len_escapeByte (b : UInt8) : utf8Len (escapeByte b) = 3 := by
  have byte := b.toNat_lt
  have high : (hexDigit (b.toNat / 16)).utf8Size = 1 := utf8Size_hexDigit (by omega)
  have low : (hexDigit (b.toNat % 16)).utf8Size = 1 := utf8Size_hexDigit (by omega)
  have percent : Char.utf8Size '%' = 1 := by decide
  simp [escapeByte, high, low, percent]

theorem utf8Len_escapeBytes (bytes : Bytes) :
    utf8Len (bytes.flatMap escapeByte) = 3 * bytes.length := by
  induction bytes with
  | nil => rfl
  | cons b rest ih =>
      rw [List.flatMap_cons, String.utf8Len_append, ih, utf8Len_escapeByte, List.length_cons]
      omega

theorem utf8ByteSize_escape_le (mustEscape : Char → Bool) (s : List Char) :
    (escape mustEscape (String.ofList s)).utf8ByteSize ≤ 3 * utf8Len s := by
  simp only [escape, String.utf8ByteSize_ofList, String.toList_ofList]
  induction s with
  | nil => simp
  | cons c rest ih =>
      rw [List.flatMap_cons, String.utf8Len_append, String.utf8Len_cons]
      have first : utf8Len (if mustEscape c then (Utf8.encode c.toString).flatMap escapeByte else [c]) ≤
          3 * c.utf8Size := by
        split
        next =>
          rw [utf8Len_escapeBytes, Utf8.length_encode, ← String.utf8Len_toList]
          simp [Char.toString]
        next =>
          simp only [String.utf8Len_cons, String.utf8Len_nil]
          omega
      omega

/-! ## Parts -/

/-- No part is more than three times as long as the text. -/
theorem partLaw_length (n : Nat) : PartLaw (3 * utf8Len · ≤ n) (·.utf8ByteSize ≤ n) where
  stretch sub text := by
    have := String.utf8Len_le_of_sublist sub
    omega
  -- The colon behind a drive letter is no longer than the bar that stands for it.
  drive _ text := text
  empty := Nat.zero_le n
  escaped _ text := Nat.le_trans (utf8ByteSize_escape_le _ _) text

end Url

end TerminalAgent
