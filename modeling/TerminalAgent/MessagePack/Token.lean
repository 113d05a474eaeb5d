import TerminalAgent.MessagePack.ReadError

/-!
# Tokens

A token is what one marker announces: a whole scalar, string or binary, or the head of a container.
`readMarker` and `readToken` take them off the front of the input, and `skip` passes over a whole
value, however deep, within the nesting limit.
-/

namespace TerminalAgent.MessagePack

/-- A step of reading: what was read and the rest of the input. -/
abbrev Reader := StateT Bytes (Except ReadError)

/-- The part of a value that its marker announces. -/
inductive Token where
  | nil
  | bool (b : Bool)
  /-- An integer in one of the forms without a sign. -/
  | unsigned (n : Nat)
  /-- An integer in one of the forms with a sign. -/
  | signed (i : Int)
  | float (x : Binary64)
  /-- The bytes of a string, which need not be text. -/
  | str (bytes : Bytes)
  | bin (bytes : Bytes)
  /-- The head of an array of that many elements. -/
  | array (length : Nat)
  /-- The head of a map of that many entries. -/
  | map (length : Nat)
  /-- The head of an extension of that many bytes, which follow its one byte type. -/
  | ext (length : Nat)
  deriving Repr, DecidableEq

namespace Token

/-- Whether the token only begins a value. -/
def isContainer : Token → Bool
  | array _ | map _ | ext _ => true
  | _ => false

/-- What an error calls the token. Strings that are not text count as bytes. -/
def found : Token → Found
  | nil => .nothing
  | bool b => .boolean b
  | unsigned n => .integer n
  | signed i => .integer i
  | float x => .float x
  | str bytes =>
      match Utf8.decode? bytes with
      | some s => .text s
      | none => .bytes
  | bin _ => .bytes
  | array _ => .sequence
  | map _ => .map
  | ext _ => .extension

/-- The error for a token that is not of the kind asked for. -/
def mismatch (t : Token) (expected : String) : ReadError :=
  match t with
  | str bytes =>
      match Utf8.decode bytes with
      | .ok s => .invalidType (.text s) expected
      | .error fault => .invalidText fault
  | t => .invalidType t.found expected

end Token

/-- Takes the marker off the input. -/
def readMarker : Reader Marker := fun input =>
  match input with
  | [] => throw .endAtMarker
  | b :: rest => pure (Marker.ofByte b, rest)

/-- Takes `n` bytes off the input, or fails with `fault`. -/
def readBytes (fault : ReadError) (n : Nat) : Reader Bytes := fun input =>
  match Bytes.split? n input with
  | some parts => pure parts
  | none => throw fault

/-- Takes a number of `w` bytes off the input. -/
def readUnsigned (w : Nat) : Reader Nat :=
  Bytes.ofBigEndian <$> readBytes .endInNumber w

/-- The number of `w` bytes in two's complement that `n` stands for. -/
def signedOf (w n : Nat) : Int :=
  if n < Nat.pow 2 (8 * w - 1) then n else n - Nat.pow 2 (8 * w)

/-- Takes what a marker announces off the input. -/
def readToken : Marker → Reader Token
  | .fixPos n => pure (.unsigned n)
  | .fixNeg n => pure (.signed (n - 32))
  | .null => pure .nil
  | .false => pure (.bool false)
  | .true => pure (.bool true)
  | .u8 => Token.unsigned <$> readUnsigned 1
  | .u16 => Token.unsigned <$> readUnsigned 2
  | .u32 => Token.unsigned <$> readUnsigned 4
  | .u64 => Token.unsigned <$> readUnsigned 8
  | .i8 => Token.signed <$> signedOf 1 <$> readUnsigned 1
  | .i16 => Token.signed <$> signedOf 2 <$> readUnsigned 2
  | .i32 => Token.signed <$> signedOf 4 <$> readUnsigned 4
  | .i64 => Token.signed <$> signedOf 8 <$> readUnsigned 8
  | .f32 => do return .float (Binary64.ofBinary32 (UInt32.ofNat (← readUnsigned 4)))
  | .f64 => do return .float ⟨UInt64.ofNat (← readUnsigned 8)⟩
  | .fixStr n => Token.str <$> readBytes .endInBytes n
  | .str8 => do Token.str <$> readBytes .endInBytes (← readUnsigned 1)
  | .str16 => do Token.str <$> readBytes .endInBytes (← readUnsigned 2)
  | .str32 => do Token.str <$> readBytes .endInBytes (← readUnsigned 4)
  | .bin8 => do Token.bin <$> readBytes .endInBytes (← readUnsigned 1)
  | .bin16 => do Token.bin <$> readBytes .endInBytes (← readUnsigned 2)
  | .bin32 => do Token.bin <$> readBytes .endInBytes (← readUnsigned 4)
  | .fixArray n => pure (.array n)
  | .array16 => Token.array <$> readUnsigned 2
  | .array32 => Token.array <$> readUnsigned 4
  | .fixMap n => pure (.map n)
  | .map16 => Token.map <$> readUnsigned 2
  | .map32 => Token.map <$> readUnsigned 4
  | .fixExt k => pure (.ext (Nat.pow 2 k))
  | .ext8 => Token.ext <$> readUnsigned 1
  | .ext16 => Token.ext <$> readUnsigned 2
  | .ext32 => Token.ext <$> readUnsigned 4
  | .reserved => throw (.wrongMarker .reserved)

/-- How many containers may lie inside one another. -/
def maxDepth : Nat := 1023

/-- The depth left inside a token, if it may be entered. -/
def enter (depth : Nat) (t : Token) : Reader Nat :=
  if t.isContainer then
    match depth with
    | 0 => throw .depthExceeded
    | depth + 1 => pure depth
  else pure depth

/-- Reads `n` times. -/
def times (reader : Reader Unit) : Nat → Reader Unit
  | 0 => pure ()
  | n + 1 => do
      reader
      times reader n

/-- Passes over the contents of a token, given how to pass over one element. -/
def skipContents (element : Reader Unit) : Token → Reader Unit
  | .array n => times element n
  | .map n => times element (2 * n)
  | .ext n => do
      let _ ← readUnsigned 1
      let _ ← readBytes .endInBytes n
  | _ => pure ()

/-- Passes over the value that a marker begins, with `depth` containers left to enter. -/
def skipFrom : Nat → Marker → Reader Unit
  | 0, marker => do
      let token ← readToken marker
      let _ ← enter 0 token
  | depth + 1, marker => do
      let token ← readToken marker
      skipContents (do skipFrom depth (← readMarker)) token

/-- Passes over one value. -/
def skip (depth : Nat) : Reader Unit := do
  skipFrom depth (← readMarker)

end TerminalAgent.MessagePack
