import TerminalAgent.Lz4.Block

/-!
# Compressing into LZ4 blocks

The search walks over the input and remembers, in a table of 4096 slots, where it last saw the bytes
that hash to each slot. Where the remembered place holds the same four bytes it makes a match, as
long as the bytes agree; where it finds none for long it takes wider steps. A block is the sequences
of all matches, each with the literals in front of it, and a last sequence of literals.
-/

namespace TerminalAgent.Lz4

/-- A run of literals, then a match. -/
structure Sequence where
  literals : Bytes
  distance : Nat
  length : Nat
  deriving Repr, DecidableEq

/-- The bytes that extend a length beyond the four bits in the token. -/
def extension (n : Nat) : Bytes :=
  List.replicate (n / 255) 255 ++ [UInt8.ofNat (n % 255)]

/-- The four bits of a length in the token. -/
def nibble (n : Nat) : Nat := min n 15

/-- The bytes that extend a length, if any. -/
def lengthTail (n : Nat) : Bytes :=
  if n < 15 then [] else extension (n - 15)

/-- The token, the literals and the lengths of a sequence with a match. -/
def Sequence.encode (s : Sequence) : Bytes :=
  let literals := s.literals.length
  let length := s.length - minMatch
  UInt8.ofNat (16 * nibble literals + nibble length) :: lengthTail literals
    ++ s.literals ++ Bytes.littleEndian 2 s.distance ++ lengthTail length

/-- The last sequence of a block, which holds literals only. -/
def encodeLast (literals : Bytes) : Bytes :=
  UInt8.ofNat (16 * nibble literals.length) :: lengthTail literals.length ++ literals

/-! ## The search -/

/-- The last bytes of a block are literals. -/
def endOffset : Nat := 6

/-- No match begins so close to the end. -/
def matchLimit : Nat := 12

/-- The longest distance of a match. -/
def maxDistance : Nat := 65535

/-- Inputs at least this long are hashed over five bytes, shorter ones over four. -/
def longInput : Nat := 65535

/-- The state of the search. -/
structure Search where
  /-- The place at which each slot was last seen; a slot never seen counts as the first place. -/
  table : Array Nat
  /-- The bytes of the sequences planned so far, reversed in order of sequences. -/
  planned : List Bytes
  /-- Where the literals of the next sequence begin. -/
  literalStart : Nat

/-- Byte `i` of the input. -/
def byteAt (input : ByteArray) (i : Nat) : UInt8 :=
  if h : i < input.size then input[i] else 0

/-- The `w` bytes at a place as a number, least significant first. -/
def wordAt (input : ByteArray) (i : Nat) : Nat → Nat
  | 0 => 0
  | w + 1 => (byteAt input i).toNat + 256 * wordAt input (i + 1) w

/-- The slot of the bytes at a place. -/
def slotAt (input : ByteArray) (i : Nat) : Nat :=
  if input.size < longInput then
    (((wordAt input i 4).toUInt32 * 2654435761) >>> 20).toNat
  else
    ((((wordAt input i 5).toUInt64 <<< 24) * 889523592379) >>> 52).toNat

/-- How many bytes before two places agree, going back at most `fuel` bytes. -/
def agreeBackward (input : ByteArray) : (fuel i j : Nat) → Nat
  | fuel + 1, i + 1, j + 1 =>
      if byteAt input i = byteAt input j then agreeBackward input fuel i j + 1 else 0
  | _, _, _ => 0

/-- How many bytes from two places on agree, beyond `n` and for at most `fuel` bytes. -/
def agreeForward (input : ByteArray) : (fuel n i j : Nat) → Nat
  | 0, n, _, _ => n
  | fuel + 1, n, i, j =>
      if byteAt input i = byteAt input j then agreeForward input fuel (n + 1) (i + 1) (j + 1) else n

/-- Looks for the next place that matches an earlier one, from `i` on: the table afterwards, and the
    two places. The steps widen by one for every 32 places tried in vain. -/
def findMatch (input : ByteArray) :
    (fuel tried i : Nat) → Array Nat → Array Nat × Option (Nat × Nat)
  | 0, _, _, table => (table, none)
  | fuel + 1, tried, i, table =>
      if input.size < i + matchLimit then (table, none)
      else
        let slot := slotAt input i
        let candidate := table.getD slot 0
        let table := table.setIfInBounds slot i
        if i - candidate ≤ maxDistance && wordAt input i 4 = wordAt input candidate 4 then
          (table, some (i, candidate))
        else findMatch input fuel (tried + 1) (i + tried / 32) table

/-- Plans the sequence of a match, which is made as long as the bytes around the two places agree. -/
def Search.plan (input : ByteArray) (found candidate : Nat) (s : Search) : Search :=
  let back := agreeBackward input (found - s.literalStart) found candidate
  let forward := agreeForward input (input.size - endOffset - (found + minMatch)) 0
    (found + minMatch) (candidate + minMatch)
  let start := found - back
  let stop := found + minMatch + forward
  let literals := (input.extract s.literalStart start).data.toList
  let sequence : Sequence := ⟨literals, found - candidate, stop - start⟩
  { table := s.table.setIfInBounds (slotAt input (stop - 2)) (stop - 2)
    planned := sequence.encode :: s.planned
    literalStart := stop }

/-- Plans sequences from place `i` on until no further match is found. -/
def search (input : ByteArray) : (fuel i : Nat) → Search → Search
  | 0, _, s => s
  | fuel + 1, i, s =>
      match findMatch input input.size 32 i s.table with
      | (table, none) => { s with table }
      | (table, some (found, candidate)) =>
          let s := Search.plan input found candidate { s with table }
          search input fuel s.literalStart s

/-- The block that the search plans. Inputs without room for a match are literals. -/
def compress (bytes : Bytes) : Bytes :=
  let input : ByteArray := ⟨bytes.toArray⟩
  if input.size ≤ matchLimit then encodeLast bytes
  else
    let table := (Array.replicate 4096 0).setIfInBounds (slotAt input 0) 0
    let s := search input input.size 1 ⟨table, [], 0⟩
    s.planned.reverse.flatten ++ encodeLast (bytes.drop s.literalStart)

/-- A block behind the four bytes that tell the size of its expansion. -/
def compressSized (bytes : Bytes) : Bytes :=
  Bytes.littleEndian 4 bytes.length ++ compress bytes

end TerminalAgent.Lz4
