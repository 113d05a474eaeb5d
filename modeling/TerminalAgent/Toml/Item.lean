import TerminalAgent.Toml.Number
import TerminalAgent.Toml.Printer

/-!
# Trees of values

A document is a table of items by key, in the order in which they came. Each item knows where it
stands in the text, except a table that only came up on the way to another one.
-/

namespace TerminalAgent.Toml

structure Key where
  name : String
  span : Span
  deriving Repr, DecidableEq

/-- A value without parts. -/
inductive Scalar where
  | text (s : String)
  | integer (i : Int)
  | float (x : Binary64)
  | boolean (b : Bool)
  | datetime (t : Datetime)
  deriving Repr, DecidableEq

/-- How a table came to be. -/
inductive TableKind where
  /-- It has a header, or is the whole document. -/
  | headed
  /-- It is on the path of the header of another table. -/
  | passed
  /-- It is on the path of a dotted key. -/
  | dotted
  /-- It is written between braces. -/
  | inline
  deriving Repr, DecidableEq

inductive Item where
  | scalar (value : Scalar) (span : Span)
  | array (items : List Item) (span : Span)
  | table (kind : TableKind) (span : Option Span) (entries : List (Key × Item))
  /-- Tables that share one header. -/
  | tables (elements : List Item)

/-- A table, by its parts. -/
structure Table where
  kind : TableKind
  span : Option Span
  entries : List (Key × Item)

namespace Scalar

/-- The name of the kind of value. -/
def kindName : Scalar → String
  | text _ => "string"
  | integer _ => "integer"
  | float _ => "float"
  | boolean _ => "boolean"
  | datetime _ => "datetime"

end Scalar

namespace Table

def toItem (table : Table) : Item :=
  .table table.kind table.span table.entries

/-- A table without entries. -/
def new (kind : TableKind) (span : Option Span) : Table :=
  ⟨kind, span, []⟩

def find? (table : Table) (name : String) : Option (Key × Item) :=
  table.entries.find? fun entry => entry.1.name = name

/-- Puts an item at a key, in the place of an item that has it or else last. -/
def put (table : Table) (key : Key) (item : Item) : Table :=
  { table with
    entries :=
      if (table.find? key.name).isSome then
        table.entries.map fun entry => if entry.1.name = key.name then (entry.1, item) else entry
      else table.entries ++ [(key, item)] }

def remove (table : Table) (name : String) : Table :=
  { table with entries := table.entries.filter fun entry => entry.1.name ≠ name }

end Table

namespace Item

/-- Where an item stands in the text. -/
def span? : Item → Option Span
  | scalar _ span => some span
  | array _ span => some span
  | table _ span _ => span
  | tables elements =>
      let spanOf : Item → Option Span
        | table _ span _ => span
        | _ => none
      match elements.head?.bind spanOf, elements.getLast?.bind spanOf with
      | some first, some last => some ⟨first.start, last.stop⟩
      | _, _ => none

end Item

/-! ## Tables on a path -/

namespace Cause

/-- The cause that a key on a header is taken, the last one of `path`. -/
def taken (path : List Key) : Cause :=
  .duplicateKey (writeKey ((path.getLast?.map Key.name).getD ""))
    (some (path.dropLast.map fun key => writeKey key.name))

/-- The cause that a path goes on behind a value. -/
def blocked (path : List Key) (kind : String) : Cause :=
  .notATable (path.map fun key => writeKey key.name) kind

end Cause

/-- How a path is followed. -/
inductive Route where
  /-- By a header. -/
  | header
  /-- By a dotted key of a table. -/
  | dotted
  /-- By a dotted key between braces. -/
  | inline
  deriving Repr, DecidableEq

namespace Route

/-- The kind of a table that is made on the way. -/
def madeKind : Route → TableKind
  | header => .passed
  | dotted => .dotted
  | inline => .dotted

end Route

namespace Table

/-- Visits the table at the end of a path, which is made as far as it is missing, and puts what the
    visit leaves of it back. `before` is the part of the path already followed. -/
def visitAt (route : Route) (visit : Table → Except Cause (α × Table)) :
    (before path : List Key) → Table → Except Cause (α × Table)
  | _, [], table => visit table
  | before, key :: path, table => do
      let here := before ++ [key]
      let descend (inner : Table) : Except Cause (α × Table) := visitAt route visit here path inner
      match table.find? key.name with
      | none =>
          let (result, inner) ← descend (.new route.madeKind none)
          pure (result, table.put key inner.toItem)
      | some (_, .scalar value _) => throw (.blocked here value.kindName)
      | some (_, .array _ _) => throw (.blocked here "array")
      | some (_, .table kind span entries) =>
          let enter : Except Cause (α × Table) := do
            let (result, inner) ← descend ⟨kind, span, entries⟩
            pure (result, table.put key inner.toItem)
          match route, kind with
          | .inline, .inline => throw (.duplicateKey key.name none)
          | _, .inline => throw (.blocked here "inline table")
          | .dotted, .headed => throw (.duplicateKey key.name none)
          | _, _ => enter
      | some (_, .tables elements) =>
          match elements.getLast? with
          | some (.table kind span entries) =>
              let (result, inner) ← descend ⟨kind, span, entries⟩
              pure (result, table.put key (.tables (elements.dropLast ++ [inner.toItem])))
          | _ => throw (.duplicateKey key.name none)

/-- Adds an entry at a dotted key. `path` is the key without its last part; `place` says which table a
    clash is reported for. -/
def addEntry (route : Route) (place : Option (List String)) (path : List Key) (key : Key) (item : Item)
    (table : Table) : Except Cause Table := do
  let (_, table) ← table.visitAt route
    (fun target =>
      -- Only dotted keys made the table that a dotted key adds to, and no other table.
      if (target.kind == .dotted) == path.isEmpty then throw (.duplicateKey key.name none)
      else
        match target.find? key.name with
        | some _ => throw (.duplicateKey key.name place)
        | none => pure ((), target.put key item))
    [] path
  pure table

end Table

end TerminalAgent.Toml
