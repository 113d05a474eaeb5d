import TerminalAgent.Text.Quoted

/-!
# Session ids

An id is made from 128 random bits, of which six are fixed to say so. It is written in five groups of
hexadecimal digits.
-/

namespace TerminalAgent.SessionId

/-- The bits with the marks of a random id: version 4 and the variant that has it. -/
def mark (random : Nat) : Nat :=
  let high := random >>> 64 % 0x10000000000000000
  let low := random % 0x10000000000000000
  ((high >>> 16 <<< 16) + 0x4000 + high % 0x1000) <<< 64 + (0x8000000000000000 + low % 0x4000000000000000)

/-- The id that is made from random bits. -/
def ofRandom (random : Nat) : String :=
  let bits := mark random
  let group (shift digits : Nat) : String :=
    Text.hexadecimal digits (bits >>> shift % Nat.pow 16 digits)
  "-".intercalate [group 96 8, group 80 4, group 64 4, group 48 4, group 0 12]

/-! ## Finding -/

/-- How long an id is. -/
def width : Nat := 36

/-- The places of an id that hold no digit. -/
def dashes : List Nat := [8, 13, 18, 23]

/-- Whether a character is a hexadecimal digit, of which the letters are lower-case. -/
def isDigit (c : Char) : Bool :=
  c.isDigit || ('a' ≤ c && c ≤ 'f')

/-- Whether a text has the form of an id. -/
def isId (text : List Char) : Bool :=
  text.length = width
    && text.zipIdx.all fun (c, i) => if dashes.contains i then c = '-' else isDigit c

/-- The ids in a text, in the order in which they begin and without those that begin within another one.
    The first `skipped` characters are passed over. -/
def inText : (skipped : Nat) → List Char → List String
  | _, [] => []
  | skipped + 1, _ :: rest => inText skipped rest
  | 0, c :: rest =>
      let front := (c :: rest).take width
      if isId front then String.ofList front :: inText (width - 1) rest else inText 0 rest

end TerminalAgent.SessionId
