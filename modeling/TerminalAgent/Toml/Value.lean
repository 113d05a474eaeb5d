import TerminalAgent.Toml.Item

/-!
# Reading keys and values

The first character of a value says what it is. Arrays and inline tables nest to a limited depth.
-/

namespace TerminalAgent.Toml

/-- Arrays and inline tables nest to less than this depth, and keys have fewer parts. -/
def depthLimit : Nat := 80

/-! ## Keys -/

/-- A part of a key. -/
def keyPart : Reader Key := fun text =>
  let name : Reader String :=
    match text with
    | '"' :: _ => Quoted.basic
    | '\'' :: _ => Quoted.literal
    | _ => do
        let first ← Reader.satisfy isKeyChar
        let more ← fun rest => .read (rest.takeWhile isKeyChar) (rest.dropWhile isKeyChar)
        pure (String.ofList (first :: more))
  match name text with
  | .read name rest => .read ⟨name, text, rest⟩ rest
  | .missed fault => .missed fault
  | .refused fault => .refused fault

/-- A part of a key with blanks around it. -/
def spacedKeyPart : Reader Key := do
  blanks
  let key ← keyPart
  blanks
  pure key

/-- A dotted key: the parts before the last one, and the last one. -/
def keyPath : Reader (List Key × Key) :=
  Reader.checked ((Reader.separated '.' spacedKeyPart).labelled "key") fun parts =>
    if depthLimit ≤ parts.length then .error .tooDeep
    else
      match parts.getLast? with
      | some last => .ok (parts.dropLast, last)
      | none => .error .tooDeep

/-- What follows a key before its value. -/
def keyMark : Reader Char :=
  ((Reader.char '=').expecting "`.`").expecting "`=`"

/-! ## Values -/

/-- A fault in what looks like the start of a text without quotes. -/
def asText (reader : Reader α) : Reader α :=
  ((reader.labelled "string").expecting "`\"`").expecting "`'`"

/-- A scalar, by its first character. -/
def scalarReader : Reader Scalar := fun text =>
  match text with
  | [] => Reader.miss text
  | c :: _ =>
    if c = '"' || c = '\'' then (Quoted.reader text).map .text
    else if c = '+' || c = '-' || c.isDigit then
      (Reader.orElse (fun text => (Datetime.reader text).map .datetime)
        (Reader.orElse (fun text => (Number.floatReader text).map .float)
          fun text => (Number.integerReader text).map .integer)) text
    else if c = '_' then
      ((Number.integerReader text).map .integer).expecting "leading digit"
    else if c = '.' then
      ((Number.floatReader text).map .float).expecting "leading digit"
    else if c = 't' then
      asText (fun text => ((Reader.literal "true").final text).map fun _ => .boolean true) text
    else if c = 'f' then
      asText (fun text => ((Reader.literal "false").final text).map fun _ => .boolean false) text
    else if c = 'i' then
      asText (fun text => ((Reader.literal "inf") text).map fun _ => .float (.infinity false)) text
    else if c = 'n' then
      asText (fun text => ((Reader.literal "nan") text).map fun _ => .float .nan) text
    else asText Reader.miss text

/-- A closing bracket. -/
def closing (c : Char) (label what : String) : Reader Char :=
  (((Reader.char c).final).labelled label).expecting what

/-- The values of an array after its bracket. -/
def arrayReader (value : Reader Item) : Reader (List Item) := do
  let element : Reader Item := do
    gaps
    let item ← value
    gaps
    pure item
  let items ← Reader.optional do
    let items ← Reader.separated ',' element
    let _ ← Reader.optional (Reader.char ',')
    pure items
  gaps
  let _ ← closing ']' "array" "`]`"
  pure (items.getD [])

/-- The entries between braces, after the first one. -/
def inlineReader (value : Reader Item) : Reader (List (Key × Item)) :=
  let entry : Reader ((List Key × Key) × Item) := do
    let key ← keyPath
    Reader.final do
      let _ ← keyMark
      blanks
      let item ← value
      blanks
      pure (key, item)
  let entries : Reader (List ((List Key × Key) × Item)) := do
    let entries ← Reader.optional (Reader.separated ',' entry)
    blanks
    pure (entries.getD [])
  do
    let table ← Reader.final <| Reader.checked entries fun entries =>
      entries.foldlM
        (fun table ((path, key), item) => table.addEntry .inline none path key item)
        (Table.new .inline none)
    let _ ← closing '\x7d' "inline table" "`\x7d`"
    pure table.entries

/-- Puts the span that was read around an item. -/
def spanned (make : α → Span → β) (reader : Reader α) : Reader β := fun text =>
  match reader text with
  | .read value rest => .read (make value ⟨text, rest⟩) rest
  | .missed fault => .missed fault
  | .refused fault => .refused fault

/-- A value in which arrays and inline tables nest at most `depth` deep. -/
def valueReader : (depth : Nat) → Reader Item
  | 0, text =>
      match text with
      | c :: _ =>
          if c = '[' || c = '\x7b' then Reader.refuse (some .tooDeep) text
          else spanned .scalar scalarReader text
      | [] => Reader.miss text
  | depth + 1, text =>
      match text with
      | '[' :: _ =>
          spanned .array (fun text => (arrayReader (valueReader depth)).final (text.drop 1)) text
      | '\x7b' :: _ =>
          spanned (fun entries span => .table .inline (some span) entries)
            (fun text => (inlineReader (valueReader depth)).final (text.drop 1)) text
      | text => spanned .scalar scalarReader text

/-- A value. -/
def value : Reader Item :=
  valueReader (depthLimit - 1)

end TerminalAgent.Toml
