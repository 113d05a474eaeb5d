import TerminalAgent.Toml.Reader

/-!
# Quoted text

Text stands between double quotes, with escapes, or between single quotes, as it is; three quotes on
each side let it run over several lines.
-/

namespace TerminalAgent.Toml

namespace Quoted

/-- A character that needs no escape between double quotes. -/
def isBasicChar (c : Char) : Bool :=
  (c = '\t' || 0x20 ≤ c.toNat) && c ≠ '"' && c ≠ '\\' && c.toNat ≠ 0x7F

/-- A character that may stand between single quotes. -/
def isLiteralChar (c : Char) : Bool :=
  (c = '\t' || 0x20 ≤ c.toNat) && c ≠ '\'' && c.toNat ≠ 0x7F

def isHexDigit (c : Char) : Bool :=
  c.isDigit || ('a' ≤ c && c ≤ 'f') || ('A' ≤ c && c ≤ 'F')

def hexValue (c : Char) : Nat :=
  if c.isDigit then c.toNat - '0'.toNat
  else if 'a' ≤ c then c.toNat - 'a'.toNat + 10
  else c.toNat - 'A'.toNat + 10

/-- The character that so many hexadecimal digits name. -/
def codePoint (n : Nat) : Reader Char := fun text =>
  let front := text.take n
  let value := front.foldl (fun v c => 16 * v + hexValue c) 0
  if front.length = n ∧ front.all isHexDigit ∧ value.isValidChar then
    .read (Char.ofNat value) (text.drop n)
  else .refused { place := text }

/-- The letters that may follow a backslash. -/
def escapeLetters : List String :=
  ["`b`", "`f`", "`n`", "`r`", "`t`", "`u`", "`U`", "`\\`", "`\"`"]

/-- The character that an escape stands for, after its backslash. -/
def escape : Reader Char
  | 'b' :: rest => .read '\x08' rest
  | 'f' :: rest => .read '\x0c' rest
  | 'n' :: rest => .read '\n' rest
  | 'r' :: rest => .read '\r' rest
  | 't' :: rest => .read '\t' rest
  | '\\' :: rest => .read '\\' rest
  | '"' :: rest => .read '"' rest
  | 'u' :: rest => (codePoint 4).labelled "unicode 4-digit hex code" rest
  | 'U' :: rest => (codePoint 8).labelled "unicode 8-digit hex code" rest
  | c :: rest =>
      -- Only a character of one byte is passed over before the fault.
      let place := if c.toNat < 0x80 then rest else c :: rest
      .refused { place, label := some "escape sequence", expected := escapeLetters }
  | [] => .missed { place := [] }

/-! ## On one line -/

/-- The text up to the closing double quote, through at most `fuel` characters. -/
def basicFrom : Nat → Reader (List Char)
  | 0, text => .refused { place := text, label := some "basic string" }
  | fuel + 1, text =>
      match text with
      | '"' :: rest => .read [] rest
      | '\\' :: rest =>
          match escape rest with
          | .read c rest => (basicFrom fuel rest).map (c :: ·)
          | .missed _ => .refused { place := text, label := some "basic string" }
          | .refused fault => .refused fault
      | c :: rest =>
          if isBasicChar c then (basicFrom fuel rest).map (c :: ·)
          else .refused { place := text, label := some "basic string" }
      | [] => .refused { place := text, label := some "basic string" }

/-- Text between double quotes. -/
def basic : Reader String := do
  let _ ← Reader.char '"'
  let chars ← fun text => basicFrom (text.length + 1) text
  pure (String.ofList chars)

/-- Text between single quotes. -/
def literal : Reader String :=
  Reader.labelled "literal string" do
    let _ ← Reader.char '\''
    let chars ← fun text => .read (text.takeWhile isLiteralChar) (text.dropWhile isLiteralChar)
    let _ ← (Reader.char '\'').final
    pure (String.ofList chars)

/-! ## On several lines -/

/-- Whether only blanks are left on the line, so that a backslash before them folds it. -/
def endsLine (text : Place) : Bool :=
  match text.dropWhile isBlank with
  | '\n' :: _ => true
  | '\r' :: '\n' :: _ => true
  | _ => false

/-- The text after blanks and line ends, at most `fuel` of them. -/
def skipFold : Nat → Place → Place
  | 0, text => text
  | _ + 1, [] => []
  | fuel + 1, c :: rest =>
      if isBlank c || c = '\n' then skipFold fuel rest
      else if c = '\r' && rest.head? = some '\n' then skipFold fuel (rest.drop 1)
      else c :: rest

/-- One piece of text on several lines, other than a double quote. -/
def piece : Reader (List Char)
  | '\\' :: rest =>
      if endsLine rest then .read [] (skipFold rest.length rest)
      else
        match escape rest with
        | .read c rest => .read [c] rest
        | .missed _ => .missed { place := '\\' :: rest }
        | .refused fault => .refused fault
  | '\n' :: rest => .read ['\n'] rest
  | '\r' :: '\n' :: rest => .read ['\n'] rest
  | c :: rest => if isBasicChar c then .read [c] rest else .missed { place := c :: rest }
  | [] => .missed { place := [] }

/-- The place after one or two double quotes. -/
def afterQuotes : Place → Place
  | '"' :: '"' :: rest => rest
  | '"' :: rest => rest
  | rest => rest

/-- The text up to three closing double quotes, of at most `fuel` pieces. Up to two quotes more
    belong to the text. -/
def multilineBasicFrom : Nat → Reader (List Char)
  | 0, text => .refused { place := text }
  | fuel + 1, text =>
      match text with
      | '"' :: '"' :: '"' :: '"' :: '"' :: rest => .read ['"', '"'] rest
      | '"' :: '"' :: '"' :: '"' :: rest => .read ['"'] rest
      | '"' :: '"' :: '"' :: rest => .read [] rest
      | '"' :: rest =>
          -- One or two quotes belong to the text if more of it follows.
          match piece (afterQuotes text) with
          | .read _ _ => (multilineBasicFrom fuel rest).map ('"' :: ·)
          | .missed _ => .refused { place := text }
          | .refused fault => .refused { fault with place := afterQuotes text }
      | text =>
          match piece text with
          | .read chars rest => (multilineBasicFrom fuel rest).map (chars ++ ·)
          | .missed _ => .refused { place := text }
          | .refused fault => .refused fault

/-- Passes over the end of a line right after the opening quotes. -/
def skipFirstNewline : Place → Place
  | '\n' :: rest => rest
  | '\r' :: '\n' :: rest => rest
  | text => text

def multilineBasic : Reader String :=
  Reader.labelled "multiline basic string" do
    Reader.literal "\"\"\""
    let chars ← fun text =>
      let body := skipFirstNewline text
      multilineBasicFrom (body.length + 1) body
    pure (String.ofList chars)

/-- The text up to three closing single quotes. Up to two quotes more belong to the text. -/
def multilineLiteralBody : Reader (List Char)
  | [] => .refused { place := [] }
  | '\'' :: rest =>
      match rest with
      | '\'' :: '\'' :: '\'' :: '\'' :: rest => .read ['\'', '\''] rest
      | '\'' :: '\'' :: '\'' :: rest => .read ['\''] rest
      | '\'' :: '\'' :: rest => .read [] rest
      | rest =>
          let after := if rest.head? = some '\'' then rest.drop 1 else rest
          let goesOn :=
            match after with
            | '\n' :: _ => true
            | '\r' :: '\n' :: _ => true
            | c :: _ => isLiteralChar c
            | [] => false
          if goesOn then (multilineLiteralBody rest).map ('\'' :: ·)
          else .refused { place := '\'' :: rest }
  | '\n' :: rest => (multilineLiteralBody rest).map ('\n' :: ·)
  | '\r' :: rest =>
      match rest with
      | '\n' :: rest => (multilineLiteralBody rest).map ('\n' :: ·)
      | rest => .refused { place := '\r' :: rest }
  | c :: rest =>
      if isLiteralChar c then (multilineLiteralBody rest).map (c :: ·)
      else .refused { place := c :: rest }

def multilineLiteral : Reader String :=
  Reader.labelled "multiline literal string" do
    Reader.literal "'''"
    let chars ← fun text => multilineLiteralBody (skipFirstNewline text)
    pure (String.ofList chars)

/-- Any quoted text. -/
def reader : Reader String :=
  multilineBasic.orElse <| basic.orElse <| multilineLiteral.orElse literal

end Quoted

end TerminalAgent.Toml
