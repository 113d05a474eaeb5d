/-!
# Byte strings and fixed-width words

Bytes are lists, so that cutting, joining and comparing are the list operations. A word of `w` bytes
is written most significant byte first (`bigEndian`) or last (`littleEndian`); `ofBigEndian` and
`ofLittleEndian` read any number of bytes back.
-/

namespace TerminalAgent

/-- A byte string. -/
abbrev Bytes := List UInt8

namespace Bytes

/-- The `w` low bytes of `n`, least significant first. -/
def littleEndian : (w n : Nat) → Bytes
  | 0, _ => []
  | w + 1, n => UInt8.ofNat (n % 256) :: littleEndian w (n / 256)

/-- The number whose bytes are given least significant first. -/
def ofLittleEndian : Bytes → Nat
  | [] => 0
  | b :: rest => b.toNat + 256 * ofLittleEndian rest

/-- The `w` low bytes of `n`, most significant first. -/
def bigEndian (w n : Nat) : Bytes :=
  (littleEndian w n).reverse

/-- The number whose bytes are given most significant first. -/
def ofBigEndian (bytes : Bytes) : Nat :=
  ofLittleEndian bytes.reverse

@[simp] theorem length_littleEndian (w n : Nat) : (littleEndian w n).length = w := by
  induction w generalizing n with
  | zero => rfl
  | succ w ih => simp [littleEndian, ih]

@[simp] theorem length_bigEndian (w n : Nat) : (bigEndian w n).length = w := by
  simp [bigEndian]

theorem ofLittleEndian_littleEndian (w n : Nat) :
    ofLittleEndian (littleEndian w n) = n % Nat.pow 256 w := by
  induction w generalizing n with
  | zero => simp [littleEndian, ofLittleEndian, Nat.mod_one]
  | succ w ih =>
      simp only [littleEndian, ofLittleEndian, ih]
      rw [UInt8.toNat_ofNat_of_lt' (Nat.mod_lt _ (by decide))]
      simp only [Nat.pow_eq]
      rw [Nat.pow_succ', Nat.mod_mul]

theorem ofBigEndian_bigEndian (w n : Nat) : ofBigEndian (bigEndian w n) = n % Nat.pow 256 w := by
  simp [ofBigEndian, bigEndian, ofLittleEndian_littleEndian]

/-- The first `n` bytes and the rest, if there are that many. -/
def split? (n : Nat) (bytes : Bytes) : Option (Bytes × Bytes) :=
  let front := bytes.take n
  if front.length = n then some (front, bytes.drop n) else none

theorem split?_append (front rest : Bytes) : split? front.length (front ++ rest) = some (front, rest) := by
  simp [split?]

theorem split?_eq_some {n : Nat} {bytes front rest : Bytes} (h : split? n bytes = some (front, rest)) :
    bytes = front ++ rest ∧ front.length = n := by
  simp only [split?] at h
  split at h
  next hlen =>
      cases h
      exact ⟨(List.take_append_drop n bytes).symm, hlen⟩
  next => cases h

theorem split?_more {n : Nat} {bytes front rest : Bytes} (h : split? n bytes = some (front, rest))
    (more : Bytes) : split? n (bytes ++ more) = some (front, rest ++ more) := by
  obtain ⟨rfl, rfl⟩ := split?_eq_some h
  rw [List.append_assoc, split?_append]

end Bytes

end TerminalAgent
