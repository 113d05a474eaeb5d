import TerminalAgent.MessagePack.Token

/-!
# Reading values of a known kind

A `Format` says how a value of one type is read: from the marker that begins it, or from a byte of a
binary that stands for a sequence of small integers. The formats of scalars are here; those of
records are built from them.
-/

namespace TerminalAgent.MessagePack

/-- How a value of type `α` is read. -/
structure Format (α : Type) where
  /-- Reads the value that a marker begins, with so many containers left to enter. -/
  fromMarker : (depth : Nat) → Marker → Reader α
  /-- Takes one byte of a binary as the value. -/
  fromByte : UInt8 → Except ReadError α

namespace Format

/-- Reads one value. -/
def read (format : Format α) (depth : Nat) : Reader α := do
  format.fromMarker depth (← readMarker)

/-- The format of a value that its token decides, the contents of containers being read by `f` too. -/
def ofToken (f : (inner : Nat) → Token → Reader α) (scalar : Token → Except ReadError α) :
    Format α where
  fromMarker depth marker := do
    let token ← readToken marker
    let inner ← enter depth token
    f inner token
  fromByte b := scalar (.unsigned b.toNat)

/-- The format of a scalar. -/
def scalar (f : Token → Except ReadError α) : Format α :=
  ofToken (fun _ token => f token) f

/-- Whether a marker begins a number, or one of the values that numbers are told apart from. -/
def isNumeric : Marker → Bool
  | .fixPos _ | .fixNeg _ | .null | .true | .false | .u8 | .u16 | .u32 | .u64 | .i8 | .i16 | .i32
  | .i64 | .f32 | .f64 => true
  | _ => false

/-- A natural number below `2 ^ width`, out of an integer of any form. -/
def naturalOfToken (width : Nat) (name : String) (token : Token) : Except ReadError Nat :=
  match token with
  | .unsigned n => if n < Nat.pow 2 width then pure n else throw (.invalidValue (.integer n) name)
  | .signed i =>
      if 0 ≤ i ∧ i < Nat.pow 2 width then pure i.toNat else throw (.invalidValue (.integer i) name)
  | token => throw (token.mismatch name)

/-- The format of a natural number below `2 ^ width`. A marker that begins no number is refused
    before its data is read. -/
def natural (width : Nat) (name : String) : Format Nat where
  fromMarker _ marker :=
    if isNumeric marker then do
      let token ← readToken marker
      naturalOfToken width name token
    else throw (.wrongMarker marker)
  fromByte b := naturalOfToken width name (.unsigned b.toNat)

def map (f : α → β) (format : Format α) : Format β where
  fromMarker depth marker := f <$> format.fromMarker depth marker
  fromByte b := f <$> format.fromByte b

/-- The format of a byte. -/
def uint8 : Format UInt8 := (natural 8 "u8").map UInt8.ofNat

def uint16 : Format UInt16 := (natural 16 "u16").map UInt16.ofNat

def uint64 : Format UInt64 := (natural 64 "u64").map UInt64.ofNat

/-- The text of a string, or of a binary that is text. -/
def textOfToken (token : Token) : Except ReadError String :=
  match token with
  | .str bytes =>
      match Utf8.decode bytes with
      | .ok s => pure s
      | .error fault => throw (.invalidText fault)
  | .bin bytes =>
      match Utf8.decode? bytes with
      | some s => pure s
      | none => throw (.invalidValue .bytes "a string")
  | token => throw (token.mismatch "a string")

/-- The format of text. -/
def text : Format String := scalar textOfToken

/-- Reads `n` values in a row, in front of those already read in reverse. -/
def readMany (format : Format α) (depth : Nat) : Nat → List α → Reader (List α)
  | 0, acc => pure acc.reverse
  | n + 1, acc => do
      let a ← format.read depth
      readMany format depth n (a :: acc)

/-- The format of a byte string: a binary, a string of any bytes, or an array of bytes. -/
def bytes : Format Bytes :=
  ofToken
    (fun inner token =>
      match token with
      | .bin bytes | .str bytes => pure bytes
      | .array n => readMany uint8 inner n []
      | token => throw (token.mismatch "byte array"))
    (fun token => throw (token.mismatch "byte array"))

/-- The format of a value that may be absent. -/
def optional (format : Format α) : Format (Option α) where
  fromMarker depth marker :=
    if marker = .null then pure none else some <$> format.fromMarker depth marker
  fromByte b := some <$> format.fromByte b

/-- Reads `n` entries of a map in a row, each one changing what was read before. -/
def readEntries (entry : σ → Reader σ) : Nat → σ → Reader σ
  | 0, acc => pure acc
  | n + 1, acc => do
      let acc ← entry acc
      readEntries entry n acc

/-- The names of a choice, by name in text or bytes or by position. -/
def choiceOfToken (names : List String) (token : Token) : Except ReadError Nat :=
  let byName (s : String) : Except ReadError Nat :=
    match names.findIdx? (· == s) with
    | some i => pure i
    | none => throw (.unknownVariant s names)
  match token with
  | .unsigned n =>
      if n < names.length then pure n
      else
        let count := names.length
        throw (.invalidValue (.integer n) s!"variant index 0 <= i < {count}")
  | .str bytes =>
      match Utf8.decode bytes with
      | .ok s => byName s
      | .error fault => throw (.invalidText fault)
  | .bin bytes => byName (Utf8.decodeLossy bytes)
  | token => throw (token.mismatch "variant identifier")

/-- The format of a choice among names: the name alone, or a map from the name to nothing. -/
def choice (type : String) (names : List String) : Format Nat where
  fromMarker depth marker :=
    let name : Format Nat := scalar (choiceOfToken names)
    match marker with
    | .fixMap _ | .map16 | .map32 => do
        match ← readToken marker with
        | .map 1 =>
            let i ← name.read depth
            match ← readMarker with
            | .null => pure i
            | other => throw (.wrongMarker other)
        | .map n => throw (.wrongLength n)
        | token => throw (token.mismatch "variant identifier")
    | marker => name.fromMarker depth marker
  fromByte b := throw ((Token.unsigned b.toNat).mismatch ("enum " ++ type))

end Format

end TerminalAgent.MessagePack
