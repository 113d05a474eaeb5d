import TerminalAgent.Lz4.Compressor
import TerminalAgent.Proofs.Outcomes

/-! # Blocks expand to what was compressed

The search writes a match only where it has compared the bytes, so the sequences planned so far expand
to the input up to where the next literals begin. `Plans` says so; every match that is found carries
it on, and the last literals complete the input.
-/

namespace TerminalAgent.Lz4

/-! ## Lengths -/

theorem readExtension_replicate (sum n : Nat) (last : UInt8) (h : last ≠ 255) (rest : Bytes) :
    readExtension sum (List.replicate n 255 ++ last :: rest) =
      .ok (sum + 255 * n + last.toNat, rest) := by
  induction n generalizing sum with
  | zero =>
      simp only [List.replicate_zero, List.nil_append, readExtension, h, if_false]
      rfl
  | succ n ih =>
      simp only [List.replicate_succ, List.cons_append, readExtension, if_true, ih]
      congr 3
      omega

theorem readExtension_extension (sum n : Nat) (rest : Bytes) :
    readExtension sum (extension n ++ rest) = .ok (sum + n, rest) := by
  have small : n % 255 < 255 := Nat.mod_lt _ (by decide)
  have value : (UInt8.ofNat (n % 255)).toNat = n % 255 :=
    UInt8.toNat_ofNat_of_lt' (Nat.lt_trans small (by decide))
  have last : UInt8.ofNat (n % 255) ≠ 255 := by
    intro same
    rw [same] at value
    have : (255 : UInt8).toNat = 255 := rfl
    omega
  rw [extension, List.append_assoc, List.singleton_append,
    readExtension_replicate sum (n / 255) _ last, value]
  congr 2
  omega

theorem readLength_lengthTail (n : Nat) (rest : Bytes) :
    readLength (nibble n) (lengthTail n ++ rest) = .ok (n, rest) := by
  unfold readLength nibble lengthTail
  by_cases short : n < 15
  · have whole : min n 15 = n := by omega
    rw [if_pos short, whole, if_neg (by omega)]
    rfl
  · have full : min n 15 = 15 := by omega
    rw [if_neg short, full, if_pos rfl, readExtension_extension]
    congr 2
    omega

/-- The two lengths in a token. -/
theorem nibbles_token (literals length : Nat) :
    (UInt8.ofNat (16 * nibble literals + nibble length)).toNat / 16 = nibble literals ∧
      (UInt8.ofNat (16 * nibble literals + nibble length)).toNat % 16 = nibble length := by
  have first : nibble literals ≤ 15 := Nat.min_le_right _ _
  have second : nibble length ≤ 15 := Nat.min_le_right _ _
  rw [UInt8.toNat_ofNat_of_lt' (by simp only [UInt8.size]; omega)]
  omega

/-! ## One sequence -/

/-- The literals of the sequence that a token begins: what is left of the block, and the output. -/
def takeLiterals (capacity : Nat) (token : UInt8) (input : Bytes) (output : Array UInt8) :
    Except Fault (Bytes × Array UInt8) := do
  let (length, input) ← readLength (token.toNat / 16) input
  expandLiterals capacity length input output

/-- The match of that sequence, behind its distance. -/
def takeMatch (capacity distance : Nat) (token : UInt8) (input : Bytes) (output : Array UInt8) :
    Except Fault (Bytes × Array UInt8) := do
  let (length, input) ← readLength (token.toNat % 16) input
  let output ← expandMatch capacity distance (minMatch + length) output
  pure (input, output)

section
variable {capacity fuel : Nat} {token : UInt8} {input rest : Bytes} {output longer : Array UInt8}

theorem expand_last (taken : takeLiterals capacity token input output = .ok ([], longer)) :
    expand capacity (fuel + 1) (token :: input) output = .ok longer := by
  obtain ⟨⟨length, after⟩, read, copied⟩ := bind_eq_ok.mp taken
  exact bind_eq_ok.mpr ⟨_, read, bind_eq_ok.mpr ⟨_, copied, rfl⟩⟩

theorem expand_more {low high : UInt8} {lengths block : Bytes} {between : Array UInt8}
    (taken : takeLiterals capacity token input output = .ok (low :: high :: lengths, between))
    (back : Bytes.ofLittleEndian [low, high] ≠ 0)
    (pasted : takeMatch capacity (Bytes.ofLittleEndian [low, high]) token lengths between =
      .ok (block, longer)) :
    expand capacity (fuel + 1) (token :: input) output = expand capacity fuel block longer := by
  obtain ⟨⟨length, after⟩, read, copied⟩ := bind_eq_ok.mp taken
  obtain ⟨⟨size, behind⟩, long, made⟩ := bind_eq_ok.mp pasted
  obtain ⟨further, again, same⟩ := bind_eq_ok.mp made
  cases same
  dsimp only at copied again
  simp only [expand, read, copied, bind, Except.bind, if_neg back, long, again]

theorem expandLiterals_front (literals : Bytes) (room : output.size + literals.length ≤ capacity) :
    expandLiterals capacity literals.length (literals ++ rest) output =
      .ok (rest, output ++ literals) := by
  simp only [expandLiterals, Bytes.split?_append, if_neg (Nat.not_lt.mpr room)]
  rfl

theorem takeLiterals_front {literals : Bytes} (tells : token.toNat / 16 = nibble literals.length)
    (room : output.size + literals.length ≤ capacity) (rest : Bytes) :
    takeLiterals capacity token (lengthTail literals.length ++ (literals ++ rest)) output =
      .ok (rest, output ++ literals) := by
  refine bind_eq_ok.mpr ⟨(literals.length, literals ++ rest), ?_, expandLiterals_front literals room⟩
  rw [tells]
  exact readLength_lengthTail _ _

theorem takeMatch_front {distance length : Nat} (tells : token.toNat % 16 = nibble length)
    (room : output.size + (minMatch + length) ≤ capacity) (reaches : distance ≤ output.size)
    (rest : Bytes) : takeMatch capacity distance token (lengthTail length ++ rest) output =
      .ok (rest, copyMatch distance (minMatch + length) output) := by
  refine bind_eq_ok.mpr ⟨(length, rest), ?_, bind_eq_ok.mpr ⟨_, ?_, rfl⟩⟩
  · rw [tells]
    exact readLength_lengthTail _ _
  · rw [expandMatch, if_neg (Nat.not_lt.mpr room), if_neg (Nat.not_lt.mpr reaches)]
    rfl

/-- What the last sequence expands to. -/
theorem expand_encodeLast {literals : Bytes} (room : output.size + literals.length ≤ capacity) :
    expand capacity (fuel + 1) (encodeLast literals) output = .ok (output ++ literals) := by
  refine expand_last ?_
  have tells := (nibbles_token literals.length 0).1
  have taken := takeLiterals_front tells room []
  rwa [List.append_nil] at taken

/-- A match that a block can tell: it copies from the output at most as far back as two bytes say. -/
structure Sequence.Fits (s : Sequence) (capacity : Nat) (output : Array UInt8) : Prop where
  back : 0 < s.distance
  near : s.distance ≤ maxDistance
  reaches : s.distance ≤ output.size + s.literals.length
  long : minMatch ≤ s.length
  room : output.size + s.literals.length + s.length ≤ capacity

/-- What the sequence expands to. -/
theorem expand_encode {s : Sequence} (fits : s.Fits capacity output) :
    expand capacity (fuel + 1) (s.encode ++ rest) output =
      expand capacity fuel rest (copyMatch s.distance s.length (output ++ s.literals)) := by
  obtain ⟨back, near, reaches, long, room⟩ := fits
  have size : (output ++ s.literals).size = output.size + s.literals.length := by
    rw [← Array.length_toList, Array.toList_appendList, List.length_append, Array.length_toList]
  obtain ⟨low, high, word, same⟩ : ∃ low high, Bytes.littleEndian 2 s.distance = [low, high] ∧
      Bytes.ofLittleEndian [low, high] = s.distance := by
    refine ⟨_, _, rfl, (Bytes.ofLittleEndian_littleEndian 2 s.distance).trans ?_⟩
    exact Nat.mod_eq_of_lt (Nat.lt_of_le_of_lt near (by decide))
  have whole : minMatch + (s.length - minMatch) = s.length := Nat.add_sub_of_le long
  obtain ⟨tellsLiterals, tellsLength⟩ := nibbles_token s.literals.length (s.length - minMatch)
  have taken := takeLiterals_front tellsLiterals (Nat.le_trans (Nat.le_add_right _ _) room)
    (Bytes.littleEndian 2 s.distance ++ (lengthTail (s.length - minMatch) ++ rest))
  have room : (output ++ s.literals).size + (minMatch + (s.length - minMatch)) ≤ capacity := by
    rwa [size, whole]
  have reaches : s.distance ≤ (output ++ s.literals).size := by rwa [size]
  have pasted := takeMatch_front tellsLength room reaches rest
  rw [whole] at pasted
  simp only [Sequence.encode, List.cons_append, List.append_assoc, List.nil_append, word] at taken ⊢
  refine expand_more taken ?_ ?_
  · rw [same]
    exact Nat.ne_of_gt back
  · rwa [same]

end

/-! ## Matches -/

/-- The bytes from two places on are the same, `n` of them. -/
def Agree (input : ByteArray) (n i j : Nat) : Prop :=
  ∀ k < n, byteAt input (i + k) = byteAt input (j + k)

section
variable {input : ByteArray} {m n i j : Nat}

theorem agree_zero : Agree input 0 i j :=
  fun k inside => absurd inside (Nat.not_lt_zero k)

theorem agree_one (same : byteAt input i = byteAt input j) : Agree input 1 i j := by
  intro k inside
  obtain rfl : k = 0 := by omega
  exact same

theorem Agree.append (front : Agree input m i j) (behind : Agree input n (i + m) (j + m)) :
    Agree input (m + n) i j := by
  intro k inside
  by_cases early : k < m
  · exact front k early
  · have further := behind (k - m) (by omega)
    have first : i + m + (k - m) = i + k := by omega
    have second : j + m + (k - m) = j + k := by omega
    rwa [first, second] at further

theorem agree_of_wordAt (same : wordAt input i n = wordAt input j n) : Agree input n i j := by
  induction n generalizing i j with
  | zero => exact agree_zero
  | succ n ih =>
      simp only [wordAt] at same
      have first := (byteAt input i).toNat_lt
      have second := (byteAt input j).toNat_lt
      have here : byteAt input i = byteAt input j := UInt8.toNat_inj.mp (by omega)
      have others : Agree input n (i + 1) (j + 1) := ih (by omega)
      rw [Nat.add_comm n 1]
      exact (agree_one here).append others

theorem agreeBackward_le (input : ByteArray) (fuel i j : Nat) : agreeBackward input fuel i j ≤ fuel ∧
    agreeBackward input fuel i j ≤ i ∧ agreeBackward input fuel i j ≤ j ∧
      Agree input (agreeBackward input fuel i j) (i - agreeBackward input fuel i j)
        (j - agreeBackward input fuel i j) := by
  induction fuel generalizing i j with
  | zero => simp [agreeBackward, agree_zero]
  | succ fuel ih =>
      match i, j with
      | 0, _ => simp [agreeBackward, agree_zero]
      | _ + 1, 0 => simp [agreeBackward, agree_zero]
      | i + 1, j + 1 =>
          simp only [agreeBackward]
          split
          next same =>
            obtain ⟨room, first, second, agree⟩ := ih i j
            refine ⟨by omega, by omega, by omega, ?_⟩
            rw [Nat.add_sub_add_right, Nat.add_sub_add_right]
            refine agree.append (agree_one ?_)
            rwa [Nat.sub_add_cancel first, Nat.sub_add_cancel second]
          next => simp [agree_zero]

theorem agreeForward_eq (input : ByteArray) (fuel n i j : Nat) :
    ∃ more ≤ fuel, agreeForward input fuel n i j = n + more ∧ Agree input more i j := by
  induction fuel generalizing n i j with
  | zero => exact ⟨0, Nat.le_refl _, rfl, agree_zero⟩
  | succ fuel ih =>
      simp only [agreeForward]
      split
      next same =>
        obtain ⟨more, room, sum, agree⟩ := ih (n + 1) (i + 1) (j + 1)
        exact ⟨1 + more, by omega, by omega, (agree_one same).append agree⟩
      next => exact ⟨0, Nat.zero_le _, rfl, agree_zero⟩

end

/-- Where the input repeats itself, a match copies what comes next, even into the copy itself. -/
theorem copyMatch_repeats {bytes : Bytes} {distance n p : Nat} (back : 0 < distance)
    (reaches : distance ≤ p) (room : p + n ≤ bytes.length)
    (repeats : ∀ k < n, bytes.getD (p + k) 0 = bytes.getD (p - distance + k) 0) :
    copyMatch distance n (bytes.take p).toArray = (bytes.take (p + n)).toArray := by
  induction n generalizing p with
  | zero => rfl
  | succ n ih =>
      have inside : p < bytes.length := by omega
      have size : (bytes.take p).toArray.size = p := by
        rw [List.size_toArray, List.length_take, Nat.min_eq_left (Nat.le_of_lt inside)]
      have copied : (bytes.take p).toArray.getD (p - distance) 0 = bytes[p] := by
        have next := repeats 0 (by omega)
        simp only [Nat.add_zero, List.getD_eq_getElem?_getD, List.getElem?_eq_getElem inside,
          Option.getD_some] at next
        rw [next, Array.getD_eq_getD_getElem?, List.getElem?_toArray,
          List.getElem?_take_of_lt (by omega)]
      have longer : (bytes.take p).toArray.push bytes[p] = (bytes.take (p + 1)).toArray := by
        rw [List.push_toArray, List.take_append_getElem inside]
      rw [copyMatch, size, copied, longer, ih (by omega) (by omega)]
      · rw [Nat.add_assoc, Nat.add_comm 1]
      · intro k less
        have next := repeats (k + 1) (by omega)
        have first : p + (k + 1) = p + 1 + k := by omega
        have second : p - distance + (k + 1) = p + 1 - distance + k := by omega
        rwa [first, second] at next

/-! ## The search -/

/-- All places that the table remembers lie before a place. -/
def Before (table : Array Nat) (i : Nat) : Prop :=
  ∀ slot, table.getD slot 0 < i

theorem Before.set {table : Array Nat} {i place : Nat} (before : Before table i) (early : place < i)
    (slot : Nat) : Before (table.setIfInBounds slot place) i := by
  intro other
  have kept := before other
  simp only [Array.getD_eq_getD_getElem?, Array.getElem?_setIfInBounds] at kept ⊢
  split
  next =>
    split
    next => exact early
    next => exact Nat.zero_lt_of_lt early
  next => exact kept

theorem before_replicate (n : Nat) : Before (Array.replicate n 0) 1 := by
  intro slot
  rw [Array.getD_eq_getD_getElem?, Array.getElem?_replicate]
  split <;> exact Nat.zero_lt_one

/-- What a match is made of. -/
structure Found (input : ByteArray) (i found candidate : Nat) (table : Array Nat) : Prop where
  onward : i ≤ found
  room : found + matchLimit ≤ input.size
  earlier : candidate < found
  near : found - candidate ≤ maxDistance
  agree : Agree input minMatch found candidate
  before : Before table (found + 1)

theorem found_of_findMatch {input : ByteArray} {fuel tried i found candidate : Nat}
    {table after : Array Nat} (before : Before table i) (steps : 32 ≤ tried)
    (searched : findMatch input fuel tried i table = (after, some (found, candidate))) :
    Found input i found candidate after := by
  induction fuel generalizing tried i table with
  | zero => cases searched
  | succ fuel ih =>
      have remembers : Before (table.setIfInBounds (slotAt input i) i) (i + 1) :=
        Before.set (fun slot => Nat.lt_succ_of_lt (before slot)) (Nat.lt_succ_self i) _
      simp only [findMatch] at searched
      split at searched
      next => cases searched
      next room =>
        split at searched
        next same =>
          cases searched
          rw [Bool.and_eq_true, decide_eq_true_eq, decide_eq_true_eq] at same
          exact ⟨Nat.le_refl _, Nat.le_of_not_lt room, before _, same.1, agree_of_wordAt same.2,
            remembers⟩
        next =>
          have wider : i + 1 ≤ i + tried / 32 := by omega
          have before : Before _ (i + tried / 32) :=
            fun slot => Nat.lt_of_lt_of_le (remembers slot) wider
          have further := ih before (by omega) searched
          exact { further with onward := Nat.le_trans (Nat.le_add_right _ _) further.onward }

/-- The sequences planned so far expand to the input up to where the next literals begin. -/
structure Plans (bytes : Bytes) (s : Search) : Prop where
  inside : s.literalStart ≤ bytes.length
  /-- Each sequence takes one of the steps that the size of the block allows for. -/
  steps : s.planned.length ≤ s.planned.reverse.flatten.length
  expands : ∀ fuel rest,
    expand bytes.length (s.planned.length + fuel) (s.planned.reverse.flatten ++ rest) #[] =
      expand bytes.length fuel rest (bytes.take s.literalStart).toArray

theorem byteAt_eq_getD (bytes : Bytes) (i : Nat) : byteAt ⟨bytes.toArray⟩ i = bytes.getD i 0 := by
  unfold byteAt
  split
  next inside =>
    have inside : i < bytes.length := inside
    rw [List.getD_eq_getElem?_getD, List.getElem?_eq_getElem inside]
    rfl
  next outside =>
    have outside : bytes.length ≤ i := Nat.le_of_not_lt outside
    rw [List.getD_eq_getElem?_getD, List.getElem?_eq_none outside]
    rfl

/-- The literals between two places, behind what is in front of them. -/
theorem take_append_extract (bytes : Bytes) {i j : Nat} (forward : i ≤ j) :
    (bytes.take i).toArray ++ ((⟨bytes.toArray⟩ : ByteArray).extract i j).data.toList =
      (bytes.take j).toArray := by
  apply Array.ext'
  rw [Array.toList_appendList, ByteArray.data_extract, Array.toList_extract,
    List.extract_eq_take_drop, ← List.take_add, Nat.add_sub_of_le forward]

/-- Literals and a match, from where the output has got to in the input, take it further. -/
theorem expand_encode_extract {bytes : Bytes} {first start stop distance : Nat}
    (literals : first ≤ start) (back : 0 < distance) (near : distance ≤ maxDistance)
    (reaches : distance ≤ start) (long : start + minMatch ≤ stop) (room : stop ≤ bytes.length)
    (agree : Agree ⟨bytes.toArray⟩ (stop - start) start (start - distance)) (fuel : Nat)
    (rest : Bytes) :
    let s : Sequence :=
      ⟨((⟨bytes.toArray⟩ : ByteArray).extract first start).data.toList, distance, stop - start⟩
    expand bytes.length (fuel + 1) (s.encode ++ rest) (bytes.take first).toArray =
      expand bytes.length fuel rest (bytes.take stop).toArray := by
  intro s
  have copied := take_append_extract bytes literals
  have made : ((bytes.take first).toArray).size + s.literals.length = start := by
    have total : (bytes.take start).toArray.size = start := by
      rw [List.size_toArray, List.length_take, Nat.min_eq_left (by omega)]
    have size := congrArg Array.size copied
    rw [← Array.length_toList, Array.toList_appendList, List.length_append,
      Array.length_toList] at size
    exact size.trans total
  have whole : start + (stop - start) = stop := Nat.add_sub_of_le (by omega)
  have within : start + (stop - start) ≤ bytes.length := Nat.le_trans (Nat.le_of_eq whole) room
  have fits : s.Fits bytes.length (bytes.take first).toArray := by
    constructor
    case back => exact back
    case near => exact near
    case reaches => rwa [made]
    case long => exact Nat.le_sub_of_add_le' long
    case room =>
      rwa [made]
  rw [expand_encode fits, copied, copyMatch_repeats back reaches within]
  · rw [whole]
  · intro k inside
    have same := agree k inside
    rwa [byteAt_eq_getD, byteAt_eq_getD] at same

/-- One more block, which expands what comes next. -/
theorem Plans.cons {bytes block : Bytes} {s : Search} {stop : Nat} (plans : Plans bytes s)
    (nonempty : block ≠ []) (inside : stop ≤ bytes.length)
    (expands : ∀ fuel rest,
      expand bytes.length (fuel + 1) (block ++ rest) (bytes.take s.literalStart).toArray =
        expand bytes.length fuel rest (bytes.take stop).toArray) (table : Array Nat) :
    Plans bytes ⟨table, block :: s.planned, stop⟩ where
  inside := inside
  steps := by
    have more := List.length_pos_iff.mpr nonempty
    have := plans.steps
    simp only [List.reverse_cons, List.flatten_append, List.flatten_singleton, List.length_append,
      List.length_cons]
    omega
  expands fuel rest := by
    have steps : (block :: s.planned).length + fuel = s.planned.length + (fuel + 1) := by
      rw [List.length_cons, Nat.add_assoc, Nat.add_comm 1]
    have blocks : (block :: s.planned).reverse.flatten ++ rest =
        s.planned.reverse.flatten ++ (block ++ rest) := by
      rw [List.reverse_cons, List.flatten_append, List.flatten_singleton, List.append_assoc]
    rw [steps, blocks, plans.expands, expands]

/-- A match carries the plan on. -/
theorem Plans.plan {bytes : Bytes} {s : Search} {i found candidate : Nat} (plans : Plans bytes s)
    (behind : s.literalStart ≤ i) (made : Found ⟨bytes.toArray⟩ i found candidate s.table) :
    Plans bytes (s.plan ⟨bytes.toArray⟩ found candidate) ∧
      Before (s.plan ⟨bytes.toArray⟩ found candidate).table
        (s.plan ⟨bytes.toArray⟩ found candidate).literalStart := by
  obtain ⟨onward, room, earlier, near, agree, before⟩ := made
  have size : (⟨bytes.toArray⟩ : ByteArray).size = bytes.length := List.size_toArray
  obtain ⟨backRoom, -, backReach, backAgree⟩ :=
    agreeBackward_le ⟨bytes.toArray⟩ (found - s.literalStart) found candidate
  obtain ⟨forward, forwardRoom, sum, forwardAgree⟩ := agreeForward_eq ⟨bytes.toArray⟩
    (bytes.length - endOffset - (found + minMatch)) 0 (found + minMatch) (candidate + minMatch)
  simp only [Search.plan, size, sum, Nat.zero_add]
  generalize agreeBackward ⟨bytes.toArray⟩ (found - s.literalStart) found candidate = back at *
  rw [size] at room
  have repeated : Agree ⟨bytes.toArray⟩ (back + (minMatch + forward)) (found - back)
      (candidate - back) := by
    refine backAgree.append ?_
    rw [Nat.sub_add_cancel (by omega), Nat.sub_add_cancel backReach]
    exact agree.append forwardAgree
  have four : minMatch = 4 := rfl
  have stops : found + minMatch + forward ≤ bytes.length := by
    simp only [matchLimit, endOffset] at room forwardRoom
    omega
  have length : found + minMatch + forward - (found - back) = back + (minMatch + forward) := by omega
  have source : found - back - (found - candidate) = candidate - back := by omega
  refine ⟨plans.cons (by simp [Sequence.encode]) stops (fun fuel rest => ?_) _,
    Before.set (fun slot => ?_) (by omega) _⟩
  · exact expand_encode_extract (by omega) (by omega) near (by omega) (by omega) stops
      (by rwa [length, source]) fuel rest
  · have := before slot
    omega

theorem Plans.search {bytes : Bytes} {s : Search} {i : Nat} (fuel : Nat) (plans : Plans bytes s)
    (behind : s.literalStart ≤ i) (before : Before s.table i) :
    Plans bytes (search ⟨bytes.toArray⟩ fuel i s) := by
  induction fuel generalizing i s with
  | zero => exact plans
  | succ fuel ih =>
      simp only [Lz4.search]
      split
      next => exact ⟨plans.inside, plans.steps, plans.expands⟩
      next table found candidate searched =>
        have made := found_of_findMatch before (Nat.le_refl 32) searched
        obtain ⟨longer, before'⟩ := Plans.plan (s := { s with table })
          ⟨plans.inside, plans.steps, plans.expands⟩ behind made
        exact ih longer (Nat.le_refl _) before'

/-! ## Blocks -/

theorem plans_nothing (bytes : Bytes) (table : Array Nat) : Plans bytes ⟨table, [], 0⟩ where
  inside := Nat.zero_le _
  steps := Nat.le_refl _
  expands fuel rest := by rw [List.length_nil, Nat.zero_add]; rfl

theorem plans_search {bytes : Bytes} {table : Array Nat} (before : Before table 1) (fuel : Nat) :
    Plans bytes (search ⟨bytes.toArray⟩ fuel 1 ⟨table, [], 0⟩) :=
  (plans_nothing bytes table).search fuel (Nat.zero_le 1) before

/-- The literals that are left complete the input. -/
theorem Plans.decompress {bytes : Bytes} {s : Search} (plans : Plans bytes s) :
    decompress bytes.length (s.planned.reverse.flatten ++ encodeLast (bytes.drop s.literalStart)) =
      .ok bytes := by
  obtain ⟨inside, steps, expands⟩ := plans
  generalize s.planned.reverse.flatten = planned at steps expands ⊢
  have whole : (bytes.take s.literalStart).toArray ++ bytes.drop s.literalStart = bytes.toArray := by
    apply Array.ext'
    rw [Array.toList_appendList, List.take_append_drop]
  have room : (bytes.take s.literalStart).toArray.size + (bytes.drop s.literalStart).length ≤
      bytes.length := by
    refine Nat.le_of_eq ?_
    rw [List.size_toArray, ← List.length_append, List.take_append_drop]
  have enough : (planned ++ encodeLast (bytes.drop s.literalStart)).length + 1 = s.planned.length +
      ((planned ++ encodeLast (bytes.drop s.literalStart)).length - s.planned.length + 1) := by
    rw [List.length_append]
    omega
  rw [Lz4.decompress, enough, expands, expand_encodeLast room, whole]
  rfl

/-- What is compressed expands to what it was. -/
theorem decompress_compress (bytes : Bytes) :
    decompress bytes.length (compress bytes) = .ok bytes := by
  unfold compress
  simp only
  split
  next => exact (plans_nothing bytes #[]).decompress
  next =>
    have before := (before_replicate 4096).set Nat.zero_lt_one (slotAt ⟨bytes.toArray⟩ 0)
    exact (plans_search before _).decompress

theorem decompressSized_compressSized {bytes : Bytes} (h : bytes.length < 0x100000000) :
    decompressSized (compressSized bytes) = .ok bytes := by
  have split := Bytes.split?_append (Bytes.littleEndian 4 bytes.length) (compress bytes)
  rw [Bytes.length_littleEndian] at split
  simp only [decompressSized, compressSized, split, Bytes.ofLittleEndian_littleEndian]
  rw [Nat.mod_eq_of_lt h, decompress_compress]

end TerminalAgent.Lz4
