import TerminalAgent.MessagePack.Format

/-!
# Records

A record is written as a map from field names to values or as an array of the values in order. It is
read into a draft, in which every field is optional; the draft is closed when the input for the
record ends. A map may hold its fields in any order and others besides; a field given twice is an
error. An array may end before fields that have a default.
-/

namespace TerminalAgent.MessagePack

/-- One field of a record whose draft is a `σ`. -/
structure Field (σ : Type) where
  name : String
  /-- Whether the draft has the field already. -/
  isSet : σ → Bool
  /-- Reads the field that a marker begins into the draft. -/
  fromMarker : (depth : Nat) → Marker → σ → Reader σ
  /-- Takes one byte of a binary as the field. -/
  fromByte : UInt8 → σ → Except ReadError σ
  /-- Whether an array may end before the field. -/
  mayEnd : Bool

/-- The field that `get` and `set` find in the draft. -/
def Field.of (name : String) (format : Format α) (get : σ → Option α) (set : α → σ → σ)
    (mayEnd : Bool) : Field σ where
  name := name
  isSet draft := (get draft).isSome
  fromMarker depth marker draft := do
    let a ← format.fromMarker depth marker
    pure (set a draft)
  fromByte b draft := do
    let a ← format.fromByte b
    pure (set a draft)
  mayEnd := mayEnd

/-- The shape of a record of type `α` with drafts of type `σ`. -/
structure Record (σ α : Type) where
  name : String
  fields : List (Field σ)
  /-- The draft without any field. -/
  start : σ
  /-- Closes a draft; a field that has no default must be there. -/
  close : σ → Except ReadError α

namespace Record

/-- What the record is called when something else stands in its place. -/
def expected (record : Record σ α) : String :=
  "struct " ++ record.name

/-- What the record is called when it is too short. -/
def expectedElements (record : Record σ α) : String :=
  let count := record.fields.length
  let noun := if count = 1 then "element" else "elements"
  s!"struct {record.name} with {count} {noun}"

/-- The field that a key names: by its name in text or bytes, or by its position. A key of these
    kinds that names no field is no error. -/
def fieldOfKey (record : Record σ α) (key : Token) : Except ReadError (Option (Field σ)) :=
  match key with
  | .unsigned n => pure record.fields[n]?
  | .str bytes | .bin bytes =>
      pure (record.fields.find? fun field => Utf8.encode field.name == bytes)
  | key => throw (key.mismatch "field identifier")

/-- Reads one entry of a map into the draft. -/
def readEntry (record : Record σ α) (depth : Nat) (draft : σ) : Reader σ := do
  let key : Format (Option (Field σ)) := Format.scalar record.fieldOfKey
  match ← key.read depth with
  | none =>
      skip depth
      pure draft
  | some field =>
      if field.isSet draft then throw (.duplicateField field.name)
      field.fromMarker depth (← readMarker) draft

/-- Reads the elements of an array of `left` elements into the fields, of which the first is number
    `index`. -/
def readElements (record : Record σ α) (depth : Nat) :
    (index left : Nat) → List (Field σ) → σ → Reader σ
  | _, 0, [], draft => pure draft
  | index, _ + 1, [], _ => throw (.wrongLength index)
  | index, 0, field :: fields, draft =>
      if field.mayEnd then readElements record depth index 0 fields draft
      else throw (.invalidLength index record.expectedElements)
  | index, left + 1, field :: fields, draft => do
      let draft ← field.fromMarker depth (← readMarker) draft
      readElements record depth (index + 1) left fields draft

/-- Takes the bytes of a binary as the fields, of which the first is number `index`. Bytes after the
    last field are ignored. -/
def fieldsOfBytes (record : Record σ α) :
    (index : Nat) → Bytes → List (Field σ) → σ → Except ReadError σ
  | _, _, [], draft => pure draft
  | index, [], field :: fields, draft =>
      if field.mayEnd then fieldsOfBytes record index [] fields draft
      else throw (.invalidLength index record.expectedElements)
  | index, b :: bytes, field :: fields, draft => do
      let draft ← field.fromByte b draft
      fieldsOfBytes record (index + 1) bytes fields draft

/-- Reads the record whose first token was read. -/
def readFields (record : Record σ α) (depth : Nat) (token : Token) : Reader α :=
  match token with
  | .map n => do
      let draft ← Format.readEntries (record.readEntry depth) n record.start
      record.close draft
  | .array n => do
      let draft ← record.readElements depth 0 n record.fields record.start
      record.close draft
  | .bin bytes => do
      let draft ← record.fieldsOfBytes 0 bytes record.fields record.start
      record.close draft
  | token => throw (token.mismatch record.expected)

/-- The format of the record. -/
def format (record : Record σ α) : Format α :=
  Format.ofToken record.readFields fun token => throw (token.mismatch record.expected)

/-- Reads one record from the front of the input and ignores what follows it. -/
def decode (record : Record σ α) (input : Bytes) : Except ReadError α :=
  (record.format.read maxDepth input).map Prod.fst

end Record

end TerminalAgent.MessagePack
