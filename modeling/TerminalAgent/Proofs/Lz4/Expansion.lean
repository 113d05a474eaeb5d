import TerminalAgent.Proofs.Lz4.Growth

/-! # How far blocks expand

A byte that extends a length stands for up to 255 bytes, and no byte of a block stands for more. So a
block expands to 255 times its length at most, and blocks that repeat one byte come close to it.
-/

namespace TerminalAgent.Lz4

variable {capacity length : Nat} {input rest : Bytes} {output longer : Array UInt8}

/-! ## One sequence -/

theorem readExtension_le {sum n : Nat} (read : readExtension sum input = .ok (n, rest)) :
    n + 255 * rest.length ≤ sum + 255 * input.length ∧ rest.length ≤ input.length := by
  induction input generalizing sum with
  | nil => cases read
  | cons b input ih =>
      have byte := b.toNat_lt
      simp only [readExtension] at read
      rw [List.length_cons]
      split at read
      next =>
        obtain ⟨bound, shorter⟩ := ih read
        omega
      next =>
        cases read
        omega

theorem readLength_le {nibble n : Nat} (read : readLength nibble input = .ok (n, rest)) :
    n + 255 * rest.length ≤ nibble + 255 * input.length ∧ rest.length ≤ input.length := by
  unfold readLength at read
  split at read
  next full =>
    subst full
    exact readExtension_le read
  next =>
    cases read
    exact ⟨Nat.le_refl _, Nat.le_refl _⟩

/-- Literals are bytes of the block. -/
theorem takeLiterals_le {token : UInt8}
    (taken : takeLiterals capacity token input output = .ok (rest, longer)) :
    longer.size + 255 * rest.length ≤ output.size + 255 * input.length := by
  obtain ⟨⟨length, after⟩, read, copied⟩ := bind_eq_ok.mp taken
  obtain ⟨-, shorter⟩ := readLength_le read
  dsimp only at copied
  unfold expandLiterals at copied
  split at copied
  next => cases copied
  next literals behind found =>
    obtain ⟨rfl, size⟩ := Bytes.split?_eq_some found
    split at copied
    next => cases copied
    next =>
      cases copied
      have grown : (output ++ literals).size = output.size + literals.length := by
        rw [← Array.length_toList, Array.toList_appendList, List.length_append, Array.length_toList]
      rw [List.length_append] at shorter
      rw [grown]
      omega

/-- A match stands for what its length says, of which the token tells a little. -/
theorem takeMatch_le {distance : Nat} {token : UInt8}
    (taken : takeMatch capacity distance token input output = .ok (rest, longer)) :
    longer.size + 255 * rest.length ≤ output.size + (minMatch + 15) + 255 * input.length := by
  obtain ⟨⟨length, after⟩, read, made⟩ := bind_eq_ok.mp taken
  obtain ⟨further, copied, same⟩ := bind_eq_ok.mp made
  cases same
  obtain ⟨bound, -⟩ := readLength_le read
  have size := (expandMatch_grows copied).2
  have nibble : token.toNat % 16 < 16 := Nat.mod_lt _ (by decide)
  omega

/-! ## Blocks -/

theorem Expands.size_le {block : Bytes} {result : Array UInt8}
    (expanded : Expands capacity block output result) :
    result.size ≤ output.size + 255 * block.length := by
  induction expanded with
  | last taken =>
      have literals := takeLiterals_le taken
      simp only [List.length_nil, List.length_cons] at literals ⊢
      omega
  | more taken pasted _ ih =>
      have literals := takeLiterals_le taken
      have again := takeMatch_le pasted
      -- The token and the two bytes of the distance make up for the match.
      simp only [List.length_cons, minMatch] at literals again ⊢
      omega

theorem length_le_of_decompress {block bytes : Bytes} (expanded : decompress capacity block = .ok bytes) :
    bytes.length ≤ 255 * block.length := by
  obtain ⟨result, expands, rfl⟩ := expands_of_decompress expanded
  have bound := expands.size_le
  rwa [Array.size_empty, Nat.zero_add, ← Array.length_toList] at bound

theorem length_le_of_decompressSized {bytes : Bytes} (expanded : decompressSized input = .ok bytes) :
    bytes.length ≤ 255 * (input.length - 4) := by
  unfold decompressSized at expanded
  split at expanded
  next => cases expanded
  next size block found =>
    obtain ⟨rfl, word⟩ := Bytes.split?_eq_some found
    rw [List.length_append, word, Nat.add_sub_cancel_left]
    exact length_le_of_decompress expanded

/-! ## Repeated bytes -/

/-- A zero byte, a match that repeats it, and five more zero bytes. -/
def zeros (n : Nat) (last : UInt8) : Bytes :=
  0x1F :: 0 :: 1 :: 0 :: (List.replicate n 255 ++ last :: [0x50, 0, 0, 0, 0, 0])

theorem length_zeros (n : Nat) (last : UInt8) : (zeros n last).length = n + 11 := by
  simp only [zeros, List.length_append, List.length_cons, List.length_nil, List.length_replicate]

theorem decompress_zeros {n : Nat} {last : UInt8} (short : last ≠ 255)
    (room : 25 + 255 * n + last.toNat ≤ capacity) :
    ∃ bytes, decompress capacity (zeros n last) = .ok bytes ∧
      bytes.length = 25 + 255 * n + last.toNat := by
  let length := 15 + 255 * n + last.toNat
  let lengths : Bytes := List.replicate n 255 ++ last :: [0x50, 0, 0, 0, 0, 0]
  let made := copyMatch 1 (minMatch + length) #[0]
  have size : made.size = 20 + 255 * n + last.toNat := by
    rw [(copyMatch_grows 1 _ _).2]
    simp only [length, minMatch, List.size_toArray, List.length_cons, List.length_nil]
    omega
  have zero : takeLiterals capacity 0x1F (0 :: 1 :: 0 :: lengths) #[] =
      .ok (1 :: 0 :: lengths, #[0]) := by
    refine expandLiterals_front [0] ?_
    simp only [Array.size_empty, List.length_cons, List.length_nil]
    omega
  have repeated : takeMatch capacity (Bytes.ofLittleEndian [1, 0]) 0x1F lengths #[0] =
      .ok ([0x50, 0, 0, 0, 0, 0], made) := by
    have inside : ¬ capacity < (#[0] : Array UInt8).size + (minMatch + length) := by
      simp only [length, minMatch, List.size_toArray, List.length_cons, List.length_nil]
      omega
    refine bind_eq_ok.mpr ⟨_, readExtension_replicate 15 n last short _, ?_⟩
    refine bind_eq_ok.mpr ⟨made, ?_, rfl⟩
    simp only [expandMatch]
    rw [if_neg inside]
    rfl
  let five : Bytes := [0, 0, 0, 0, 0]
  have ended : takeLiterals capacity 0x50 five made = .ok ([], made ++ five) := by
    refine expandLiterals_front five ?_
    simp only [five, size, List.length_cons, List.length_nil]
    omega
  refine ⟨(made ++ five).toList, ?_, ?_⟩
  · rw [decompress, length_zeros, zeros, expand_more zero (by decide) repeated, expand_last ended]
    rfl
  · rw [Array.toList_appendList, List.length_append, Array.length_toList, size]
    simp only [five, List.length_cons, List.length_nil]
    omega

end TerminalAgent.Lz4
