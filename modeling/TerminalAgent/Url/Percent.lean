import TerminalAgent.Bytes
import TerminalAgent.Text.Utf8

/-!
# Percent escapes

In an escape a percent sign and two hexadecimal digits stand for a byte. Bytes that a place in a URL
does not admit are written so; a percent sign without two digits stands for itself.
-/

namespace TerminalAgent.Url

/-- The value of a hexadecimal digit. -/
def hexValue? (b : UInt8) : Option Nat :=
  let n := b.toNat
  if 0x30 ≤ n && n ≤ 0x39 then some (n - 0x30)
  else if 0x41 ≤ n && n ≤ 0x46 then some (n - 0x37)
  else if 0x61 ≤ n && n ≤ 0x66 then some (n - 0x57)
  else none

/-- The upper-case hexadecimal digit of a value below 16. -/
def hexDigit (n : Nat) : Char :=
  Char.ofNat (if n < 10 then 0x30 + n else 0x37 + n)

/-- The bytes that escapes and plain bytes stand for. -/
def unescape : Bytes → Bytes
  | [] => []
  | 0x25 :: high :: low :: rest =>
      match hexValue? high, hexValue? low with
      | some h, some l => UInt8.ofNat (16 * h + l) :: unescape rest
      | _, _ => 0x25 :: unescape (high :: low :: rest)
  | b :: rest => b :: unescape rest

/-- The escape of a byte. -/
def escapeByte (b : UInt8) : List Char :=
  ['%', hexDigit (b.toNat / 16), hexDigit (b.toNat % 16)]

/-- A text in which the bytes of the characters that `mustEscape` picks are escaped. -/
def escape (mustEscape : Char → Bool) (s : String) : String :=
  String.ofList (s.toList.flatMap fun c =>
    if mustEscape c then (Utf8.encode c.toString).flatMap escapeByte else [c])

/-- Controls and characters outside ASCII. -/
def isControlOrForeign (c : Char) : Bool :=
  c.toNat < 0x20 || 0x7E < c.toNat

/-- The characters that a path does not admit. -/
def escapedInPath (c : Char) : Bool :=
  isControlOrForeign c || [' ', '"', '#', '<', '>', '?', Char.ofNat 0x60, '{', '}'].contains c

/-- The characters that a query does not admit; an apostrophe only in the special schemes. -/
def escapedInQuery (special : Bool) (c : Char) : Bool :=
  isControlOrForeign c || [' ', '"', '#', '<', '>'].contains c || (special && c = '\'')

/-- The characters that a fragment does not admit. -/
def escapedInFragment (c : Char) : Bool :=
  isControlOrForeign c || [' ', '"', '<', '>', Char.ofNat 0x60].contains c

/-- The characters that user names and passwords do not admit. -/
def escapedInUserInfo (c : Char) : Bool :=
  escapedInPath c || ['/', ':', ';', '=', '@', '[', '\\', ']', '^', '|'].contains c

end TerminalAgent.Url
