import TerminalAgent.Proofs.Frame.RoundTrip

/-! # Longer blocks

The last sequence of a block has no match. Where the block goes on, the same sequence has one, and no
match is empty, so a longer block expands to more bytes or not at all. Hence a compressed payload is
not had back from a block that was cut, or from one that is read on into what follows it.
-/

namespace TerminalAgent

namespace Lz4

/-! ## One sequence -/

section Sequence

variable {capacity length : Nat} {input rest : Bytes} {output longer : Array UInt8}

theorem readExtension_append {sum n : Nat} (read : readExtension sum input = .ok (n, rest))
    (more : Bytes) : readExtension sum (input ++ more) = .ok (n, rest ++ more) := by
  induction input generalizing sum with
  | nil => cases read
  | cons b input ih =>
      simp only [List.cons_append, readExtension] at read ⊢
      split at read
      next full =>
        rw [if_pos full]
        exact ih read
      next last =>
        rw [if_neg last]
        cases read
        rfl

theorem readLength_append {nibble n : Nat} (read : readLength nibble input = .ok (n, rest))
    (more : Bytes) : readLength nibble (input ++ more) = .ok (n, rest ++ more) := by
  unfold readLength at read ⊢
  split at read
  next full =>
    rw [if_pos full]
    exact readExtension_append read more
  next short =>
    rw [if_neg short]
    cases read
    rfl

theorem expandLiterals_append
    (copied : expandLiterals capacity length input output = .ok (rest, longer)) (more : Bytes) :
    expandLiterals capacity length (input ++ more) output = .ok (rest ++ more, longer) := by
  unfold expandLiterals at copied ⊢
  split at copied
  next => cases copied
  next literals after found =>
    rw [Bytes.split?_more found more]
    split at copied
    next => cases copied
    next room =>
      cases copied
      simp only [if_neg room]
      rfl

theorem expandLiterals_grows
    (copied : expandLiterals capacity length input output = .ok (rest, longer)) :
    output.toList <+: longer.toList ∧ longer.size ≤ capacity := by
  unfold expandLiterals at copied
  split at copied
  next => cases copied
  next literals after found =>
    split at copied
    next => cases copied
    next room =>
      cases copied
      obtain ⟨-, taken⟩ := Bytes.split?_eq_some found
      rw [← Array.length_toList, Array.toList_appendList, List.length_append, taken]
      exact ⟨List.prefix_append _ _, Nat.le_of_not_lt room⟩

theorem copyMatch_grows (distance n : Nat) (output : Array UInt8) :
    output.toList <+: (copyMatch distance n output).toList ∧
      (copyMatch distance n output).size = output.size + n := by
  induction n generalizing output with
  | zero => exact ⟨List.prefix_rfl, rfl⟩
  | succ n ih =>
      obtain ⟨grows, size⟩ := ih (output.push (output.getD (output.size - distance) 0))
      rw [Array.toList_push] at grows
      rw [Array.size_push] at size
      refine ⟨(List.prefix_append _ _).trans grows, ?_⟩
      rw [copyMatch, size]
      omega

theorem expandMatch_grows {distance : Nat}
    (copied : expandMatch capacity distance length output = .ok longer) :
    output.toList <+: longer.toList ∧ longer.size = output.size + length := by
  unfold expandMatch at copied
  split at copied
  next => cases copied
  split at copied
  next => cases copied
  next =>
    cases copied
    exact copyMatch_grows distance length output

theorem takeLiterals_append {token : UInt8}
    (taken : takeLiterals capacity token input output = .ok (rest, longer)) (more : Bytes) :
    takeLiterals capacity token (input ++ more) output = .ok (rest ++ more, longer) := by
  obtain ⟨⟨length, after⟩, read, copied⟩ := bind_eq_ok.mp taken
  exact bind_eq_ok.mpr
    ⟨(length, after ++ more), readLength_append read more, expandLiterals_append copied more⟩

theorem takeLiterals_grows {token : UInt8}
    (taken : takeLiterals capacity token input output = .ok (rest, longer)) :
    output.toList <+: longer.toList ∧ longer.size ≤ capacity := by
  obtain ⟨⟨length, after⟩, -, copied⟩ := bind_eq_ok.mp taken
  exact expandLiterals_grows copied

theorem takeMatch_append {distance : Nat} {token : UInt8}
    (taken : takeMatch capacity distance token input output = .ok (rest, longer)) (more : Bytes) :
    takeMatch capacity distance token (input ++ more) output = .ok (rest ++ more, longer) := by
  obtain ⟨⟨length, after⟩, read, made⟩ := bind_eq_ok.mp taken
  obtain ⟨further, copied, same⟩ := bind_eq_ok.mp made
  cases same
  exact bind_eq_ok.mpr ⟨_, readLength_append read more, bind_eq_ok.mpr ⟨_, copied, rfl⟩⟩

/-- Every match adds to the output. -/
theorem takeMatch_grows {distance : Nat} {token : UInt8}
    (taken : takeMatch capacity distance token input output = .ok (rest, longer)) :
    output.toList <+: longer.toList ∧ output.size < longer.size := by
  obtain ⟨⟨length, after⟩, -, made⟩ := bind_eq_ok.mp taken
  obtain ⟨further, copied, same⟩ := bind_eq_ok.mp made
  cases same
  obtain ⟨kept, size⟩ := expandMatch_grows copied
  have : 0 < minMatch := by decide
  exact ⟨kept, by omega⟩

end Sequence

/-! ## All sequences -/

/-- The block expands to the result behind the output made so far. -/
inductive Expands (capacity : Nat) : (block : Bytes) → (output result : Array UInt8) → Prop where
  | last {token input output result} :
      takeLiterals capacity token input output = .ok ([], result) →
      Expands capacity (token :: input) output result
  | more {token input low high lengths block output between further result} :
      takeLiterals capacity token input output = .ok (low :: high :: lengths, between) →
      takeMatch capacity (Bytes.ofLittleEndian [low, high]) token lengths between =
        .ok (block, further) →
      Expands capacity block further result →
      Expands capacity (token :: input) output result

theorem expands_of_expand {capacity fuel : Nat} {block : Bytes} {output result : Array UInt8}
    (expanded : expand capacity fuel block output = .ok result) :
    Expands capacity block output result := by
  induction fuel generalizing block output with
  | zero => cases block <;> cases expanded
  | succ fuel ih =>
      cases block with
      | nil => cases expanded
      | cons token input =>
          obtain ⟨⟨length, after⟩, read, expanded⟩ := bind_eq_ok.mp expanded
          obtain ⟨⟨rest, between⟩, copied, expanded⟩ := bind_eq_ok.mp expanded
          have taken : takeLiterals capacity token input output = .ok (rest, between) :=
            bind_eq_ok.mpr ⟨_, read, copied⟩
          match rest with
          | [] =>
              cases expanded
              exact .last taken
          | [low] => cases expanded
          | low :: high :: lengths =>
              simp only at expanded
              split at expanded
              next => cases expanded
              next =>
                obtain ⟨⟨size, block⟩, long, expanded⟩ := bind_eq_ok.mp expanded
                obtain ⟨further, pasted, expanded⟩ := bind_eq_ok.mp expanded
                have again : takeMatch capacity (Bytes.ofLittleEndian [low, high]) token lengths
                    between = .ok (block, further) :=
                  bind_eq_ok.mpr ⟨_, long, bind_eq_ok.mpr ⟨_, pasted, rfl⟩⟩
                exact .more taken again (ih expanded)

namespace Expands

variable {capacity : Nat} {block : Bytes} {output result : Array UInt8}

theorem grows (expanded : Expands capacity block output result) :
    output.toList <+: result.toList ∧ result.size ≤ capacity := by
  induction expanded with
  | last taken => exact takeLiterals_grows taken
  | more taken pasted _ ih =>
      have literals := (takeLiterals_grows taken).1
      have again := (takeMatch_grows pasted).1
      exact ⟨(literals.trans again).trans ih.1, ih.2⟩

/-- A block that goes on expands to what it did before, and more behind it. -/
theorem append {beyond : Bytes} {longer : Array UInt8}
    (expanded : Expands capacity block output result)
    (goesOn : Expands capacity (block ++ beyond) output longer) (more : beyond ≠ []) :
    result.toList <+: longer.toList ∧ result.size < longer.size := by
  -- Both read the same sequences up to the last one of the shorter block.
  induction expanded with
  | last taken =>
      have taken := takeLiterals_append taken beyond
      cases goesOn with
      | last again =>
          rw [List.append_eq, taken, Except.ok.injEq, Prod.mk.injEq] at again
          exact absurd again.1 more
      | more again pasted others =>
          rw [List.append_eq, taken, Except.ok.injEq, Prod.mk.injEq] at again
          obtain ⟨-, rfl⟩ := again
          obtain ⟨kept, grown⟩ := takeMatch_grows pasted
          have further := others.grows.1
          have := further.length_le
          rw [Array.length_toList, Array.length_toList] at this
          exact ⟨kept.trans further, by omega⟩
  | more taken pasted _ ih =>
      have taken := takeLiterals_append taken beyond
      have pasted := takeMatch_append pasted beyond
      cases goesOn with
      | last again =>
          rw [List.append_eq, taken] at again
          cases again
      | more again copied others =>
          rw [List.append_eq, taken, Except.ok.injEq, Prod.mk.injEq] at again
          obtain ⟨same, rfl⟩ := again
          cases same
          rw [List.append_eq, pasted, Except.ok.injEq, Prod.mk.injEq] at copied
          obtain ⟨rfl, rfl⟩ := copied
          exact ih others

end Expands

/-! ## Blocks -/

theorem expands_of_decompress {capacity : Nat} {block bytes : Bytes}
    (expanded : decompress capacity block = .ok bytes) :
    ∃ result, Expands capacity block #[] result ∧ result.toList = bytes := by
  unfold decompress at expanded
  cases made : expand capacity (block.length + 1) block #[] with
  | error fault =>
      rw [made] at expanded
      cases expanded
  | ok result =>
      rw [made] at expanded
      exact ⟨result, expands_of_expand made, Except.ok.inj expanded⟩

/-- A block that fills the capacity does not expand together with what follows it. -/
theorem decompress_append {bytes block beyond expanded : Bytes}
    (fills : decompress bytes.length block = .ok bytes) (more : beyond ≠ []) :
    decompress bytes.length (block ++ beyond) ≠ .ok expanded := by
  intro longer
  obtain ⟨result, whole, rfl⟩ := expands_of_decompress fills
  obtain ⟨further, goesOn, rfl⟩ := expands_of_decompress longer
  obtain ⟨-, grown⟩ := whole.append goesOn more
  have := goesOn.grows.2
  rw [Array.length_toList] at this
  omega

/-- What is left of a block that is cut expands to a proper part of the bytes, if at all. -/
theorem decompress_cut {capacity : Nat} {block beyond bytes part : Bytes}
    (whole : decompress capacity (block ++ beyond) = .ok bytes) (more : beyond ≠ [])
    (left : decompress capacity block = .ok part) : part <+: bytes ∧ part ≠ bytes := by
  obtain ⟨result, expanded, rfl⟩ := expands_of_decompress left
  obtain ⟨further, goesOn, rfl⟩ := expands_of_decompress whole
  obtain ⟨shorter, grown⟩ := expanded.append goesOn more
  refine ⟨shorter, fun same => ?_⟩
  rw [← Array.length_toList, same, Array.length_toList] at grown
  exact Nat.lt_irrefl _ grown

section Sized

variable {bytes : Bytes}

theorem decompressSized_append (word : bytes.length < 0x100000000) (block : Bytes) :
    decompressSized (Bytes.littleEndian 4 bytes.length ++ block) = decompress bytes.length block := by
  have split := Bytes.split?_append (Bytes.littleEndian 4 bytes.length) block
  rw [Bytes.length_littleEndian] at split
  simp only [decompressSized, split, Bytes.ofLittleEndian_littleEndian]
  rw [Nat.mod_eq_of_lt word]

theorem decompressSized_beyond {beyond expanded : Bytes} (word : bytes.length < 0x100000000)
    (more : beyond ≠ []) : decompressSized (compressSized bytes ++ beyond) ≠ .ok expanded := by
  rw [compressSized, List.append_assoc, decompressSized_append word]
  exact decompress_append (decompress_compress bytes) more

theorem decompressSized_cut {front expanded : Bytes} (word : bytes.length < 0x100000000)
    (part : front <+: compressSized bytes) (proper : front ≠ compressSized bytes)
    (left : decompressSized front = .ok expanded) : expanded <+: bytes ∧ expanded ≠ bytes := by
  obtain ⟨beyond, whole⟩ := part
  have more : beyond ≠ [] := by
    rintro rfl
    rw [List.append_nil] at whole
    exact proper whole
  cases found : Bytes.split? 4 front with
  | none =>
      simp only [decompressSized, found] at left
      cases left
  | some parts =>
      obtain ⟨size, block⟩ := parts
      obtain ⟨rfl, four⟩ := Bytes.split?_eq_some found
      rw [compressSized, List.append_assoc] at whole
      obtain ⟨rfl, rest⟩ := List.append_inj whole (by rw [four, Bytes.length_littleEndian])
      rw [decompressSized_append word] at left
      have same := decompress_compress bytes
      rw [← rest] at same
      exact decompress_cut same more left

end Sized

end Lz4

end TerminalAgent
