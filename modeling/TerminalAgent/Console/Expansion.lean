import TerminalAgent.Console.Script
import TerminalAgent.SortedMap

/-!
# Words as arguments

The words of a command become its arguments by putting in the values of variables. Commands that
write text read marks in it: a backslash and a letter for a character, a percent sign for an argument.
-/

namespace TerminalAgent.Script

/-! ## Words -/

/-- Arguments under construction. -/
structure Arguments where
  /-- Finished ones, latest first. -/
  done : List String
  /-- The one that is being put together. -/
  current : Option String

namespace Arguments

def add (arguments : Arguments) (text : String) : Arguments :=
  { arguments with current := some (arguments.current.getD "" ++ text) }

def cut (arguments : Arguments) : Arguments :=
  ⟨arguments.current.toList ++ arguments.done, none⟩

/-- Adds text that is cut at blanks. -/
def addCut (arguments : Arguments) (text : String) : Arguments :=
  text.toList.foldl
    (fun arguments c =>
      if c = ' ' || c = '\t' || c = '\n' then arguments.cut else arguments.add (String.singleton c))
    arguments

def addPart (value : String → String) (arguments : Arguments) : Part → Arguments
  | .text text => arguments.add text
  | .variable name true => arguments.add (value name)
  | .variable name false => arguments.addCut (value name)

end Arguments

/-- The arguments that a word stands for. -/
def expand (value : String → String) (word : Word) : List String :=
  (word.foldl (Arguments.addPart value) ⟨[], none⟩).cut.done.reverse

/-- The name and the value of a word that sets a variable. -/
def assignment? (value : String → String) (word : Word) : Option (String × String) :=
  match word with
  | .text text :: rest =>
      let name := String.ofList (text.toList.takeWhile (· ≠ '='))
      let isName := name.toList.all Cut.isNameChar && !name.isEmpty && !(name.toList.headD '0').isDigit
      if isName && text.toList.contains '=' then
        let quoted := (Part.text (String.ofList (text.toList.drop (name.length + 1))) :: rest).map
          fun
            | .variable name _ => Part.variable name true
            | part => part
        some (name, "".intercalate (expand value quoted))
      else none
  | _ => none

/-! ## Marks in text -/

/-- The character of an octal number of at most so many digits, and what follows it. -/
def octal : (digits value : Nat) → List Char → Char × List Char
  | 0, value, rest => (Char.ofNat value, rest)
  | digits + 1, value, rest =>
      match rest with
      | c :: rest' =>
          if '0' ≤ c ∧ c ≤ '7' then octal digits (8 * value + (c.toNat - 48)) rest'
          else (Char.ofNat value, rest)
      | [] => (Char.ofNat value, rest)

/-- The character that a letter after a backslash stands for. -/
def escape? : Char → Option Char
  | 'a' => some '\x07'
  | 'b' => some '\x08'
  | 'f' => some '\x0c'
  | 'n' => some '\n'
  | 'r' => some '\r'
  | 't' => some '\t'
  | 'v' => some '\x0b'
  | '\\' => some '\\'
  | _ => none

/-- The text with its marks replaced, and whether a mark ended it. -/
def unescape : (fuel : Nat) → List Char → String × Bool
  | 0, _ => ("", false)
  | _, [] => ("", false)
  | _ + 1, '\\' :: 'c' :: _ => ("", true)
  | fuel + 1, '\\' :: '0' :: rest =>
      let (c, rest) := octal 3 0 rest
      let (text, isEnd) := unescape fuel rest
      (String.singleton c ++ text, isEnd)
  | fuel + 1, '\\' :: c :: rest =>
      let (text, isEnd) := unescape fuel rest
      match escape? c with
      | some mark => (String.singleton mark ++ text, isEnd)
      | none => ("\\" ++ String.singleton c ++ text, isEnd)
  | fuel + 1, c :: rest =>
      let (text, isEnd) := unescape fuel rest
      (String.singleton c ++ text, isEnd)

/-- What `echo` writes. -/
def echoText (arguments : List String) : String :=
  let (isBare, arguments) :=
    match arguments with
    | "-n" :: rest => (true, rest)
    | arguments => (false, arguments)
  let line := " ".intercalate arguments
  let (text, isEnd) := unescape (line.length + 1) line.toList
  if isBare || isEnd then text else text ++ "\n"

/-- A format filled once, and the arguments that are left. -/
def fillOnce : List Char → List String → String × List String
  | '%' :: '%' :: rest, arguments =>
      let (text, left) := fillOnce rest arguments
      ("%" ++ text, left)
  | '%' :: c :: rest, arguments =>
      if c = 's' || c = 'd' || c = 'b' then
        let (text, left) := fillOnce rest arguments.tail
        let default := if c = 'd' then "0" else ""
        (arguments.headD default ++ text, left)
      else
        let (text, left) := fillOnce rest arguments
        ("%" ++ String.singleton c ++ text, left)
  | c :: rest, arguments =>
      let (text, left) := fillOnce rest arguments
      (String.singleton c ++ text, left)
  | [], arguments => ("", arguments)

/-- A format filled until no arguments are left. -/
def fill : (fuel : Nat) → List Char → List String → String
  | 0, _, _ => ""
  | fuel + 1, format, arguments =>
      let (text, left) := fillOnce format arguments
      if left.isEmpty || left.length = arguments.length then text else text ++ fill fuel format left

/-- What `printf` writes. -/
def printfText (format : String) (arguments : List String) : String :=
  let (format, _) := unescape (format.length + 1) format.toList
  fill (arguments.length + 1) format.toList arguments

/-- What `seq` writes. -/
def seqText (arguments : List String) : Option String :=
  let lines (first last : Int) : String :=
    String.join ((List.range (last - first + 1).toNat).map fun (i : Nat) => toString (first + i) ++ "\n")
  match arguments.map String.toInt? with
  | [some last] => some (lines 1 last)
  | [some first, some last] => some (lines first last)
  | _ => none

end TerminalAgent.Script
