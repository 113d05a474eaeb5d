import TerminalAgent.Text.Utf8

/-!
# Faults in configuration text

A place in a text is given by what is left of the text there, so that readers need not count. A
`Fault` says at which place a text breaks the grammar and what was being read; `Fault.report` turns
places into byte offsets of the whole text.
-/

namespace TerminalAgent.Toml

/-- A place in a text: what follows it. -/
abbrev Place := List Char

/-- A stretch of a text, from one place to a later one. -/
structure Span where
  start : Place
  stop : Place
  deriving Repr, DecidableEq

/-- A reason other than the next character. -/
inductive Cause where
  /-- A key comes twice; the table is named by its path, if it is a table with a header. -/
  | duplicateKey (key : String) (table : Option (List String))
  /-- A dotted key goes through a value that is no table. -/
  | notATable (path : List String) (kind : String)
  | outOfRange
  | tooDeep
  | tooLarge
  | tooSmall
  deriving Repr, DecidableEq

namespace Cause

def message : Cause → String
  | duplicateKey key none => s!"duplicate key `{key}`"
  | duplicateKey key (some []) => s!"duplicate key `{key}` in document root"
  | duplicateKey key (some path) =>
      s!"duplicate key `{key}` in table `" ++ ".".intercalate path ++ "`"
  | notATable path kind =>
      "dotted key `" ++ ".".intercalate path ++ "` attempted to extend non-table type (" ++ kind ++ ")"
  | outOfRange => "value is out of range"
  | tooDeep => "recursion limit exceeded"
  | tooLarge => "number too large to fit in target type"
  | tooSmall => "number too small to fit in target type"

end Cause

/-- A place where a text breaks the grammar. -/
structure Fault where
  place : Place
  /-- The innermost thing that was being read. -/
  label : Option String := none
  /-- What could have come instead. -/
  expected : List String := []
  cause : Option Cause := none
  deriving Repr, DecidableEq

namespace Fault

/-- What a fault says, without its place. -/
def message (fault : Fault) : String :=
  "\n".intercalate (
    (fault.label.map ("invalid " ++ ·)).toList
    ++ (if fault.expected.isEmpty then [] else ["expected " ++ ", ".intercalate fault.expected])
    ++ (fault.cause.map Cause.message).toList)

end Fault

/-- Number of bytes of characters. -/
def byteLength (chars : List Char) : Nat :=
  chars.foldl (fun n c => n + c.utf8Size) 0

namespace Place

/-- The byte offset of a place in a text. -/
def offset (text place : Place) : Nat :=
  byteLength text - byteLength place

end Place

namespace Span

/-- The byte offsets of a span in a text. -/
def offsets (text : Place) (span : Span) : Nat × Nat :=
  (Place.offset text span.start, Place.offset text span.stop)

/-- The span of the character at a place, which is empty at the end of the text. -/
def ofPlace (place : Place) : Span :=
  ⟨place, place.tail⟩

end Span

end TerminalAgent.Toml
