import TerminalAgent.Bytes

/-!
# LZ4 blocks

A block is a run of sequences. A sequence is a token byte, literal bytes that stand for themselves,
and a match: a distance back into the bytes already made and a length to copy from there, which may
run into the copy itself. The last sequence has no match. `decompress` expands a block into at most
`capacity` bytes.
-/

namespace TerminalAgent.Lz4

/-- Why a block cannot be expanded. -/
inductive Fault where
  /-- The block ends inside a sequence. -/
  | endOfBlock
  /-- A sequence announces more literals than the block has bytes left. -/
  | literalsOutOfBounds
  /-- A match copies from where it writes. -/
  | distanceZero
  /-- A match reaches back beyond the first byte. -/
  | distanceOutOfBounds
  /-- The expansion exceeds the capacity. -/
  | tooSmall (needed capacity : Nat)
  deriving Repr, DecidableEq

namespace Fault

def message : Fault → String
  | endOfBlock => "expected another byte, found none"
  | literalsOutOfBounds => "literal is out of bounds of the input"
  | distanceZero => "0 is not a valid match offset"
  | distanceOutOfBounds => "the offset to copy is not contained in the decompressed buffer"
  | tooSmall needed capacity =>
      s!"provided output is too small for the decompressed data, actual {capacity}, expected {needed}"

end Fault

/-- The length of the shortest match. -/
def minMatch : Nat := 4

/-- Adds up the bytes that extend a length: all that are 255 and the first that is not. -/
def readExtension : (sum : Nat) → Bytes → Except Fault (Nat × Bytes)
  | _, [] => throw .endOfBlock
  | sum, b :: rest =>
      if b = 255 then readExtension (sum + 255) rest else pure (sum + b.toNat, rest)

/-- A length whose four bits in the token are given. -/
def readLength (nibble : Nat) (input : Bytes) : Except Fault (Nat × Bytes) :=
  if nibble = 15 then readExtension 15 input else pure (nibble, input)

/-- Copies `n` bytes one by one, each from `distance` bytes before the end. -/
def copyMatch (distance : Nat) : Nat → Array UInt8 → Array UInt8
  | 0, output => output
  | n + 1, output => copyMatch distance n (output.push (output.getD (output.size - distance) 0))

/-- Copies a match to the end of the output. -/
def expandMatch (capacity distance length : Nat) (output : Array UInt8) :
    Except Fault (Array UInt8) :=
  if capacity < output.size + length then throw (.tooSmall (output.size + length) capacity)
  else if output.size < distance then throw .distanceOutOfBounds
  else pure (copyMatch distance length output)

/-- Copies the literals of a sequence to the end of the output. -/
def expandLiterals (capacity length : Nat) (input : Bytes) (output : Array UInt8) :
    Except Fault (Bytes × Array UInt8) :=
  match Bytes.split? length input with
  | none => throw .literalsOutOfBounds
  | some (literals, rest) =>
      if capacity < output.size + length then throw (.tooSmall (output.size + length) capacity)
      else pure (rest, output ++ literals)

/-- Expands the sequences of a block behind the output made so far. Every sequence takes a byte off
    the block, so `fuel` that is longer than the block does not run out. -/
def expand (capacity : Nat) : (fuel : Nat) → Bytes → Array UInt8 → Except Fault (Array UInt8)
  | _, [], _ => throw .endOfBlock
  | 0, _ :: _, _ => throw .endOfBlock
  | fuel + 1, token :: input, output => do
      let (literals, input) ← readLength (token.toNat / 16) input
      let (input, output) ← expandLiterals capacity literals input output
      match input with
      | [] => pure output
      | [_] => throw .endOfBlock
      | low :: high :: input =>
          let distance := Bytes.ofLittleEndian [low, high]
          if distance = 0 then throw .distanceZero
          let (length, input) ← readLength (token.toNat % 16) input
          let output ← expandMatch capacity distance (minMatch + length) output
          expand capacity fuel input output

/-- Expands a block into at most `capacity` bytes. -/
def decompress (capacity : Nat) (block : Bytes) : Except Fault Bytes :=
  (expand capacity (block.length + 1) block #[]).map Array.toList

/-- Expands a block behind the four bytes that tell the size of its expansion. -/
def decompressSized (input : Bytes) : Except Fault Bytes :=
  match Bytes.split? 4 input with
  | none => throw .endOfBlock
  | some (size, block) => decompress (Bytes.ofLittleEndian size) block

end TerminalAgent.Lz4
