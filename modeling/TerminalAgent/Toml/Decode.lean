import TerminalAgent.Toml.Item
import TerminalAgent.SortedMap
import TerminalAgent.Text.Quoted

/-!
# Values of known types

A decoder takes an item of a tree for a value of its type or says what it found instead. The fault
stands at the innermost item that has a place in the text.
-/

namespace TerminalAgent.Toml

/-- Why an item is not what was wanted. -/
inductive Mismatch where
  | kind (found expected : String)
  | range (value : Int) (expected : String)
  deriving Repr, DecidableEq

namespace Mismatch

def message : Mismatch → String
  | kind found expected => s!"invalid type: {found}, expected {expected}"
  | range value expected => s!"invalid value: integer `{value}`, expected {expected}"

end Mismatch

/-- A mismatch and where it is. -/
structure Rejection where
  mismatch : Mismatch
  span : Option Span
  deriving Repr, DecidableEq

/-- What takes an item for a value. -/
abbrev Decoder (α : Type) := Item → Except Rejection α

namespace Item

/-- How an item is called when something else was wanted. -/
def describe : Item → String
  | .scalar (.text s) _ => "string " ++ Text.quoted s
  | .scalar (.integer i) _ => s!"integer `{i}`"
  | .scalar (.float x) _ => "floating point `" ++ x.pointed ++ "`"
  | .scalar (.boolean b) _ => "boolean `" ++ writeBool b ++ "`"
  | .scalar (.datetime _) _ => "map"
  | .array _ _ => "sequence"
  | .table _ _ _ => "map"
  | .tables _ => "sequence"

end Item

namespace Decoder

/-- Gives a rejection without a place the place of an item. -/
def located (span : Option Span) (result : Except Rejection α) : Except Rejection α :=
  result.mapError fun rejection => { rejection with span := rejection.span <|> span }

/-- Rejects an item that is of another kind. -/
def mismatch (item : Item) (expected : String) : Except Rejection α :=
  .error ⟨.kind item.describe expected, item.span?⟩

def textAs (expected : String) : Decoder String
  | .scalar (.text s) _ => .ok s
  | item => mismatch item expected

def text : Decoder String := textAs "a string"

def path : Decoder String := textAs "path string"

def boolean : Decoder Bool
  | .scalar (.boolean b) _ => .ok b
  | item => mismatch item "a boolean"

/-- A natural number below a bound. -/
def natural (bound : Nat) (expected : String) : Decoder Nat
  | .scalar (.integer i) span =>
      if 0 ≤ i ∧ i < bound then .ok i.toNat else .error ⟨.range i expected, some span⟩
  | item => mismatch item expected

def uint16 : Decoder UInt16 := fun item => (natural 0x10000 "u16" item).map UInt16.ofNat

def uint32 : Decoder UInt32 := fun item => (natural 0x100000000 "u32" item).map UInt32.ofNat

def uint64 : Decoder UInt64 := fun item => (natural 0x10000000000000000 "u64" item).map UInt64.ofNat

/-- A number of bytes. -/
def size : Decoder UInt64 := fun item => (natural 0x10000000000000000 "usize" item).map UInt64.ofNat

/-- A float, or an integer in its place. -/
def float : Decoder Binary64
  | .scalar (.float x) _ => .ok x
  | .scalar (.integer i) _ => .ok (.ofInt i)
  | item => mismatch item "f64"

/-- The key under which a date counts as a map. -/
def datetimeKey : String := "$__toml_private_datetime"

/-- Texts by name. -/
def textMap : Decoder (SortedMap String)
  | .table _ _ entries =>
      entries.foldlM
        (fun map entry => do
          let s ← located (entry.2.span? <|> some entry.1.span) (text entry.2)
          pure (map.insert entry.1.name s))
        ∅
  | .scalar (.datetime t) _ => .ok ((∅ : SortedMap String).insert datetimeKey t.text)
  | item => mismatch item "a map"

end Decoder

/-! ## Sections -/

/-- How a setting is written. -/
inductive Written where
  /-- It is left out. -/
  | absent
  /-- After its name, on one line or several. -/
  | value (text : String)
  /-- As a table of its own. -/
  | table (entries : SortedMap String)

/-- A named setting of a section. -/
structure Setting (σ : Type) where
  name : String
  read : Item → σ → Except Rejection σ
  write : σ → Written

namespace Setting

/-- The setting that reads and writes one part of a section. -/
def of (name : String) (decoder : Decoder α) (put : α → σ → σ) (write : σ → Written) : Setting σ where
  name := name
  read item values := (decoder item).map fun value => put value values
  write := write

end Setting

/-- A section: a table of settings that may all be missing. -/
structure SectionFormat (σ : Type) where
  name : String
  /-- What is said to be expected when something else comes. -/
  expected : String
  settings : List (Setting σ)

namespace SectionFormat

/-- Reads the settings of a section from the values of an array, in order. -/
def readValues : List (Setting σ) → List Item → σ → Except Rejection σ
  | setting :: settings, item :: items, values => do
      let values ← Decoder.located item.span? (setting.read item values)
      readValues settings items values
  | _, _, values => .ok values

/-- Reads the settings of a section over its defaults; unknown ones are passed over. -/
def read (format : SectionFormat σ) (start : σ) : Decoder σ
  | .table _ _ entries =>
      entries.foldlM
        (fun values entry =>
          match format.settings.find? fun setting => setting.name = entry.1.name with
          | some setting =>
              Decoder.located (entry.2.span? <|> some entry.1.span) (setting.read entry.2 values)
          | none => .ok values)
        start
  | .array items _ => readValues format.settings items start
  | .tables items => readValues format.settings items start
  | .scalar (.datetime _) _ => .ok start
  | item => Decoder.mismatch item format.expected

/-- A line with a setting. -/
def line (name text : String) : String :=
  writeKey name ++ " = " ++ text ++ "\n"

/-- The text of a section. Tables of its own follow its lines. -/
def write (format : SectionFormat σ) (values : σ) : String :=
  let lines := format.settings.filterMap fun setting =>
    match setting.write values with
    | .value text => some (line setting.name text)
    | _ => none
  let tables := format.settings.filterMap fun setting =>
    match setting.write values with
    | .table entries => some (
        s!"\n[{format.name}.{setting.name}]\n"
        ++ String.join (entries.entries.map fun entry => line entry.1 (writeText entry.2)))
    | _ => none
  s!"[{format.name}]\n" ++ String.join lines ++ String.join tables

end SectionFormat

end TerminalAgent.Toml
