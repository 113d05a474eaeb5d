import TerminalAgent.Text.Utf8

/-! # Characters and their bytes

A text is written character by character. The characters of ASCII are single bytes below 128, and the
others are made of bytes from 128 up.
-/

namespace TerminalAgent

theorem append_ne_empty {front : String} (some_ : front ≠ "") (back : String) : front ++ back ≠ "" :=
  fun empty => some_ (String.append_eq_empty_iff.mp empty).1

/-- What is known of all numbers below a bound is known of the characters that they stand for. -/
theorem of_forall_ofNat {P : Char → Prop} {bound : Nat} (all : ∀ n < bound, P (Char.ofNat n)) {c : Char}
    (below : c.toNat < bound) : P c := by
  have known := all c.toNat below
  rwa [Char.ofNat_toNat] at known

namespace Utf8

theorem encode_eq_flatMap (s : String) : encode s = s.toList.flatMap String.utf8EncodeChar := by
  have bytes : s.toByteArray = s.toList.utf8Encode := by
    rw [← String.toByteArray_ofList, String.ofList_toList]
  rw [encode, String.toUTF8_eq_toByteArray, bytes, List.utf8Encode, List.data_toByteArray]

theorem encode_append (s t : String) : encode (s ++ t) = encode s ++ encode t := by
  simp [encode_eq_flatMap]

theorem encode_intercalate (separator : String) (parts : List String) :
    encode (separator.intercalate parts) = (encode separator).intercalate (parts.map encode) := by
  induction parts with
  | nil => simp [encode_eq_flatMap]
  | cons part parts ih =>
      cases parts with
      | nil => simp
      | cons next parts =>
          rw [String.intercalate_cons_cons, encode_append, encode_append, ih]
          simp

theorem encodeChar_ascii {c : Char} (ascii : c.toNat < 0x80) :
    String.utf8EncodeChar c = [UInt8.ofNat c.toNat] := by
  have small : c.val.toNat ≤ 127 := Nat.le_of_lt_succ ascii
  unfold String.utf8EncodeChar
  dsimp only
  rw [if_pos small]
  rfl

theorem encode_ascii {s : String} (ascii : ∀ c ∈ s.toList, c.toNat < 0x80) :
    encode s = s.toList.map fun c => UInt8.ofNat c.toNat := by
  rw [encode_eq_flatMap]
  generalize s.toList = chars at ascii ⊢
  induction chars with
  | nil => rfl
  | cons c chars ih =>
      obtain ⟨first, others⟩ := List.forall_mem_cons.mp ascii
      rw [List.flatMap_cons, encodeChar_ascii first, ih others]
      rfl

theorem le_of_mem_encodeChar {c : Char} (foreign : 0x80 ≤ c.toNat) {b : UInt8}
    (member : b ∈ String.utf8EncodeChar c) : 0x80 ≤ b.toNat := by
  have large : ¬ c.val.toNat ≤ 127 := Nat.not_le_of_lt foreign
  have high (n k : Nat) (small : n + k < 0x100) (from128 : 0x80 ≤ k) : 0x80 ≤ (UInt8.ofNat (n + k)).toNat := by
    rw [UInt8.toNat_ofNat_of_lt' small]
    omega
  unfold String.utf8EncodeChar at member
  dsimp only at member
  rw [if_neg large] at member
  split at member
  next =>
    simp only [List.mem_cons, List.not_mem_nil, or_false] at member
    rcases member with rfl | rfl <;> exact high _ _ (by omega) (by omega)
  next =>
    split at member
    next =>
      simp only [List.mem_cons, List.not_mem_nil, or_false] at member
      rcases member with rfl | rfl | rfl <;> exact high _ _ (by omega) (by omega)
    next =>
      simp only [List.mem_cons, List.not_mem_nil, or_false] at member
      rcases member with rfl | rfl | rfl | rfl <;> exact high _ _ (by omega) (by omega)

/-- A byte below 128 is a character of the text. -/
theorem mem_of_mem_encode {s : String} {b : UInt8} (small : b.toNat < 0x80) (member : b ∈ encode s) :
    Char.ofNat b.toNat ∈ s.toList := by
  rw [encode_eq_flatMap] at member
  obtain ⟨c, there, among⟩ := List.mem_flatMap.mp member
  by_cases ascii : c.toNat < 0x80
  · rw [encodeChar_ascii ascii, List.mem_singleton] at among
    have same : b.toNat = c.toNat := by
      rw [among, UInt8.toNat_ofNat_of_lt' (Nat.lt_trans ascii (by decide))]
    rwa [same, Char.ofNat_toNat]
  · have := le_of_mem_encodeChar (Nat.le_of_not_lt ascii) among
    omega

/-- ASCII text is read as it stands. -/
theorem decodeLossy_ascii {s : String} (ascii : ∀ c ∈ s.toList, c.toNat < 0x80) :
    decodeLossy (encode s) = s := by
  have further (chars : List Char) (ascii : ∀ c ∈ chars, c.toNat < 0x80) (read : String) :
      decodeLossy.lossyFrom chars.length (chars.map fun c => UInt8.ofNat c.toNat) read =
        read ++ String.ofList chars := by
    induction chars generalizing read with
    | nil => simp [decodeLossy.lossyFrom]
    | cons c chars ih =>
        obtain ⟨first, others⟩ := List.forall_mem_cons.mp ascii
        have byte : (UInt8.ofNat c.toNat).toNat = c.toNat :=
          UInt8.toNat_ofNat_of_lt' (Nat.lt_trans first (by decide))
        have whole (rest : Bytes) : front (UInt8.ofNat c.toNat) rest = .char 1 := by
          have small : UInt8.ofNat c.toNat < 0x80 := by
            rw [UInt8.lt_iff_toNat_lt, byte]
            exact first
          unfold front
          rw [if_pos small]
        have alone : decode? [UInt8.ofNat c.toNat] = some (String.singleton c) := by
          rw [← encodeChar_ascii first, ← decode?_encode]
          simp [encode_eq_flatMap]
        have step : String.ofList (c :: chars) = String.singleton c ++ String.ofList chars := by
          rw [← String.toList_inj]
          simp
        simp only [List.map_cons, List.length_cons, decodeLossy.lossyFrom, whole]
        simp only [List.take_succ_cons, List.take_zero, alone, Option.getD_some, Nat.sub_self, List.drop_zero]
        rw [ih others, step, String.append_assoc]
  have read := further s.toList ascii ""
  rw [decodeLossy, encode_ascii ascii, List.length_map, read, String.ofList_toList, String.empty_append]

end Utf8

end TerminalAgent
