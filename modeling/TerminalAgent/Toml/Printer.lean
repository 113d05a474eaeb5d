import TerminalAgent.Toml.Text
import TerminalAgent.Binary64.Decimal

/-!
# Writing keys and values

Every text has one written form. It is the first of these that holds it without an escape: double
quotes, single quotes, three double quotes, three single quotes; where none does, double quotes
with escapes, three of them if the text has several lines.
-/

namespace TerminalAgent.Toml

/-- The longest run of one character. -/
def longestRun (wanted : Char) (chars : List Char) : Nat :=
  (chars.foldl (fun (best, run) c => if c = wanted then (max best (run + 1), run + 1) else (best, 0))
    (0, 0)).1

/-- A control character other than the tabulator. -/
def isControl (c : Char) : Bool :=
  (c.toNat < 0x20 && c ≠ '\t') || c.toNat = 0x7F

/-- The escape of a character that may not stand for itself between double quotes. -/
def escapeOf? (c : Char) : Option (List Char) :=
  if c = '\x08' then some ['\\', 'b']
  else if c = '\t' then some ['\\', 't']
  else if c = '\n' then some ['\\', 'n']
  else if c = '\x0c' then some ['\\', 'f']
  else if c = '\r' then some ['\\', 'r']
  else if c = '\\' then some ['\\', '\\']
  else if isControl c then
    let digit (n : Nat) : Char := Char.ofNat (if n < 10 then '0'.toNat + n else 'A'.toNat + (n - 10))
    some ['\\', 'u', '0', '0', digit (c.toNat / 16), digit (c.toNat % 16)]
  else none

/-- Text with escapes, in which at most `quotes` double quotes in a row and, if so wanted, line ends
    stand for themselves. `run` of them have just been written. -/
def escaped (quotes : Nat) (lines : Bool) : (run : Nat) → List Char → List Char
  | _, [] => []
  | run, c :: rest =>
      if c = '"' then
        if run < quotes then c :: escaped quotes lines (run + 1) rest
        else '\\' :: '"' :: escaped quotes lines 0 rest
      else if c = '\n' && lines then c :: escaped quotes lines 0 rest
      else
        match escapeOf? c with
        | some escape => escape ++ escaped quotes lines 0 rest
        | none => c :: escaped quotes lines 0 rest

/-- Text between double quotes on one line. -/
def writeBasic (chars : List Char) : List Char :=
  '"' :: escaped 0 false 0 chars ++ ['"']

/-- Text between single quotes. -/
def writeLiteral (chars : List Char) : List Char :=
  '\'' :: chars ++ ['\'']

/-- The line end that keeps a first line end of the text from being passed over. -/
def leadIn (chars : List Char) : List Char :=
  if chars.contains '\n' then ['\n'] else []

/-- Text between three double quotes. -/
def writeMultilineBasic (chars : List Char) : List Char :=
  let quotes := ['"', '"', '"']
  quotes ++ leadIn chars ++ escaped 2 true 0 chars ++ quotes

/-- Text between three single quotes. -/
def writeMultilineLiteral (chars : List Char) : List Char :=
  let quotes := ['\'', '\'', '\'']
  quotes ++ leadIn chars ++ chars ++ quotes

/-- The written form of a text. -/
def writeText (s : String) : String :=
  let chars := s.toList
  let lines := chars.contains '\n'
  let controls := chars.any fun c => isControl c && c ≠ '\n'
  let backslash := chars.contains '\\'
  let doubles := longestRun '"' chars
  let singles := longestRun '\'' chars
  String.ofList <|
    if !controls && !backslash && doubles = 0 && !lines then writeBasic chars
    else if !controls && singles = 0 && !lines then writeLiteral chars
    else if !controls && !backslash && doubles ≤ 2 then writeMultilineBasic chars
    else if !controls && singles ≤ 2 then writeMultilineLiteral chars
    else if lines then writeMultilineBasic chars
    else writeBasic chars

/-- A character that may stand in a key without quotes. -/
def isKeyChar (c : Char) : Bool :=
  c.isAlphanum || c = '-' || c = '_'

/-- The written form of a key. -/
def writeKey (s : String) : String :=
  let chars := s.toList
  let controls := chars.any isControl
  let backslash := chars.contains '\\'
  String.ofList <|
    if !chars.isEmpty && chars.all isKeyChar then chars
    else if !controls && !backslash && !chars.contains '"' then writeBasic chars
    else if !controls && !chars.contains '\'' then writeLiteral chars
    else writeBasic chars

/-- The written form of a float. -/
def writeFloat (x : Binary64) : String :=
  if x.isNaN then "nan" else x.pointed

def writeBool (b : Bool) : String :=
  if b then "true" else "false"

end TerminalAgent.Toml
