import TerminalAgent.Toml.Fault

/-!
# Readers

A reader takes something off the front of a text. It reads, or misses, so that another reader may try,
or refuses, which ends the reading. A fault grows on its way out: the innermost label stays, and
expectations gather.
-/

namespace TerminalAgent.Toml

/-- What a reader makes of a text. -/
inductive Outcome (α : Type) where
  /-- It reads a value and leaves the rest. -/
  | read (value : α) (rest : Place)
  /-- The text begins otherwise. -/
  | missed (fault : Fault)
  /-- The text begins so but goes on wrongly. -/
  | refused (fault : Fault)
  deriving Repr, DecidableEq

/-- What takes a value off the front of a text. -/
def Reader (α : Type) := Place → Outcome α

namespace Outcome

def map (f : α → β) : Outcome α → Outcome β
  | read value rest => read (f value) rest
  | missed fault => missed fault
  | refused fault => refused fault

/-- Changes the fault of a reading that failed. -/
def mapFault (f : Fault → Fault) : Outcome α → Outcome α
  | read value rest => read value rest
  | missed fault => missed (f fault)
  | refused fault => refused (f fault)

/-- Turns a miss into a refusal. -/
def final : Outcome α → Outcome α
  | missed fault => refused fault
  | outcome => outcome

/-- Names what was being read, unless something inside it is already named. -/
def labelled (label : String) : Outcome α → Outcome α :=
  mapFault fun fault => { fault with label := fault.label <|> some label }

/-- Adds to what could have come instead. -/
def expecting (what : String) : Outcome α → Outcome α :=
  mapFault fun fault => { fault with expected := fault.expected ++ [what] }

end Outcome

namespace Reader

instance : Monad Reader where
  pure value := fun text => .read value text
  bind reader next := fun text =>
    match reader text with
    | .read value rest => next value rest
    | .missed fault => .missed fault
    | .refused fault => .refused fault

def final (reader : Reader α) : Reader α := fun text => (reader text).final

def labelled (label : String) (reader : Reader α) : Reader α :=
  fun text => (reader text).labelled label

def expecting (what : String) (reader : Reader α) : Reader α :=
  fun text => (reader text).expecting what

/-- Misses at the place where it stands. -/
def miss : Reader α := fun text => .missed { place := text }

/-- Refuses at the place where it stands. -/
def refuse (cause : Option Cause) : Reader α := fun text => .refused { place := text, cause }

/-- Tries a second reader at the same place if the first one misses. -/
def orElse (first second : Reader α) : Reader α := fun text =>
  match first text with
  | .missed _ => second text
  | outcome => outcome

/-- Reads something or, if the reader misses, nothing. -/
def optional (reader : Reader α) : Reader (Option α) := fun text =>
  match reader text with
  | .read value rest => .read (some value) rest
  | .missed _ => .read none text
  | .refused fault => .refused fault

/-- The next character, if it is as wanted. -/
def satisfy (wanted : Char → Bool) : Reader Char
  | c :: rest => if wanted c then .read c rest else .missed { place := c :: rest }
  | [] => .missed { place := [] }

/-- This very character. -/
def char (c : Char) : Reader Char :=
  satisfy (· == c)

/-- These very characters, all or none. -/
def literal (s : String) : Reader Unit := fun text =>
  if s.toList.isPrefixOf text then .read () (text.drop s.length) else .missed { place := text }

/-- The place where the reader stands. -/
def place : Reader Place := fun text => .read text text

/-- Exactly so many characters that are as wanted, or else a miss at the first of them. -/
def exactly (n : Nat) (wanted : Char → Bool) : Reader (List Char) := fun text =>
  let front := (text.take n).takeWhile wanted
  if front.length = n then .read front (text.drop n) else .missed { place := text }

/-- Passes over characters. -/
def skipWhile (wanted : Char → Bool) : Reader Unit := fun text =>
  .read () (text.dropWhile wanted)

/-- Puts what was read through a check, which fails at the place where it began. -/
def checked (reader : Reader α) (check : α → Except Cause β) : Reader β := fun text =>
  match reader text with
  | .read value rest =>
      match check value with
      | .ok value => .read value rest
      | .error cause => .missed { place := text, cause }
  | .missed fault => .missed fault
  | .refused fault => .refused fault

/-- Reads at most `fuel` more items, each after a separator. A separator without an item after it is
    not read. -/
def separatedFrom (separator : Char) (item : Reader α) : Nat → Reader (List α)
  | 0 => pure []
  | fuel + 1 => fun text =>
      match text with
      | c :: rest =>
        if c = separator then
          match item rest with
          | .read value rest => (separatedFrom separator item fuel rest).map (value :: ·)
          | .missed _ => .read [] text
          | .refused fault => .refused fault
        else .read [] text
      | [] => .read [] text

/-- One or more items with separators between them. -/
def separated (separator : Char) (item : Reader α) : Reader (List α) := do
  let first ← item
  let others ← fun text => separatedFrom separator item text.length text
  pure (first :: others)

end Reader

/-! ## Blanks, line ends and comments -/

/-- A blank within a line. -/
def isBlank (c : Char) : Bool :=
  c = ' ' || c = '\t'

def blanks : Reader Unit :=
  .skipWhile isBlank

/-- The end of a line. -/
def newline : Reader Unit
  | '\n' :: rest => .read () rest
  | '\r' :: '\n' :: rest => .read () rest
  | '\r' :: rest => .missed { place := rest }
  | text => .missed { place := text }

/-- A character that may stand in a comment. -/
def isCommentChar (c : Char) : Bool :=
  c = '\t' || (0x20 ≤ c.toNat && c.toNat ≠ 0x7F)

def comment : Reader Unit := do
  let _ ← Reader.char '#'
  .skipWhile isCommentChar

/-- The end of a line or of the text. -/
def lineEnd : Reader Unit := fun text =>
  match newline text with
  | .read _ rest => .read () rest
  | _ => if text.isEmpty then .read () text else .missed { place := text }

/-- The rest of a line after what belongs there. -/
def lineTail : Reader Unit := do
  blanks
  let _ ← Reader.optional comment
  lineEnd

/-- Passes over blanks, line ends and comments, at most `fuel` pieces of them. -/
def gapsFrom : Nat → Place → Place
  | 0, text => text
  | _ + 1, [] => []
  | fuel + 1, c :: rest =>
      if isBlank c || c = '\n' then gapsFrom fuel rest
      else if c = '\r' && rest.head? = some '\n' then gapsFrom fuel (rest.drop 1)
      else if c = '#' then gapsFrom fuel (rest.dropWhile isCommentChar)
      else c :: rest

/-- Passes over blanks, line ends and comments. -/
def gaps : Reader Unit := fun text =>
  .read () (gapsFrom text.length text)

end TerminalAgent.Toml
