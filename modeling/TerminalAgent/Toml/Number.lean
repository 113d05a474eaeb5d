import TerminalAgent.Toml.Datetime
import TerminalAgent.Binary64.Decimal

/-!
# Numbers

Integers are decimal, hexadecimal, octal or binary, and floats have a fraction, an exponent or both.
An underscore may stand between two digits.
-/

namespace TerminalAgent.Toml

namespace Number

/-- The digits after a first digit, without the underscores between them. -/
def moreDigits (isDigit : Char → Bool) : Reader (List Char)
  | [] => .read [] []
  | '_' :: rest =>
      match rest with
      | [] => .refused { place := [], expected := ["digit"] }
      | c :: after =>
        if isDigit c then (moreDigits isDigit after).map (c :: ·)
        else .refused { place := c :: after, expected := ["digit"] }
  | c :: rest =>
      if isDigit c then (moreDigits isDigit rest).map (c :: ·) else .read [] (c :: rest)

/-- One or more digits, of which the first may be zero. -/
def digits (isDigit : Char → Bool) : Reader (List Char) := do
  let first ← Reader.satisfy isDigit
  let more ← moreDigits isDigit
  pure (first :: more)

/-- Whether a minus sign is there; a plus sign is passed over. -/
def sign : Reader Bool := do
  let c ← Reader.optional (Reader.satisfy fun c => c == '+' || c == '-')
  pure (c = some '-')

/-- Sign and digits of a decimal integer, which has no zero in front. -/
def wholeReader : Reader (Bool × List Char) :=
  Reader.labelled "integer" do
    let negative ← sign
    let first ← Reader.satisfy Char.isDigit
    if first = '0' then pure (negative, [first])
    else
      let more ← moreDigits Char.isDigit
      pure (negative, first :: more)

/-- A number that fits in 64 bits with sign. -/
def checkRange (negative : Bool) (magnitude : Nat) : Except Cause Int :=
  if negative then
    if magnitude ≤ 0x8000000000000000 then .ok (-magnitude) else .error .tooSmall
  else if magnitude < 0x8000000000000000 then .ok magnitude
  else .error .tooLarge

/-- The value of a digit, up to sixteen. -/
def digitValue (c : Char) : Nat :=
  if c.isDigit then c.toNat - '0'.toNat
  else if c.isLower then c.toNat - 'a'.toNat + 10
  else c.toNat - 'A'.toNat + 10

/-- The number that digits of a base spell. -/
def valueIn (base : Nat) (digits : List Char) : Nat :=
  digits.foldl (fun n c => base * n + digitValue c) 0

/-- An integer after a prefix that names its base. -/
def basedReader (start : String) (base : Nat) (label : String) : Reader Int :=
  Reader.final <| Reader.checked
    (Reader.labelled label do
      Reader.literal start
      (digits fun c => (c.isDigit || c.isLower || c.isUpper) && digitValue c < base).final)
    fun digits => checkRange false (valueIn base digits)

def decimalReader : Reader Int := fun text =>
  match wholeReader text with
  | .read (negative, digits) rest =>
      match checkRange negative (valueIn 10 digits) with
      | .ok value => .read value rest
      | .error cause => .refused { place := text, cause }
  | .missed fault => .missed fault
  | .refused fault => .refused fault

def integerReader : Reader Int := fun text =>
  match text with
  | '0' :: 'x' :: _ => basedReader "0x" 16 "hexadecimal integer" text
  | '0' :: 'o' :: _ => basedReader "0o" 8 "octal integer" text
  | '0' :: 'b' :: _ => basedReader "0b" 2 "binary integer" text
  | _ => decimalReader text

/-- An exponent with its mark. -/
def exponentReader : Reader Int := do
  let _ ← Reader.satisfy fun c => c == 'e' || c == 'E'
  let negative ← sign
  let digits ← (digits Char.isDigit).final
  let magnitude : Int := valueIn 10 digits
  pure (if negative then -magnitude else magnitude)

/-- The digits of a fraction with the point before them. -/
def fractionReader : Reader (List Char) := do
  let _ ← Reader.char '.'
  ((digits Char.isDigit).final).expecting "digit"

/-- A float with a fraction, an exponent or both. -/
def pointReader : Reader Binary64 := fun text =>
  let reader : Reader Binary64 := do
    let (negative, whole) ← wholeReader
    let bare : Reader (List Char × Int) := do
      let exponent ← exponentReader
      pure ([], exponent)
    let fractional : Reader (List Char × Int) := do
      let fraction ← fractionReader
      let exponent ← Reader.optional exponentReader
      pure (fraction, exponent.getD 0)
    let (fraction, exponent) ← bare.orElse fractional
    pure (.ofDecimal negative ⟨valueIn 10 (whole ++ fraction), exponent - fraction.length⟩)
  match reader text with
  | .read x rest =>
      -- A number too large for a float is refused, but one too small is not.
      if x = .infinity false then .refused { place := text } else .read x rest
  | outcome => outcome

/-- Infinity and not-a-number, by their names. -/
def namedReader : Reader Binary64 := do
  let negative ← sign
  let infinite : Reader Binary64 := do
    Reader.literal "inf"
    pure (.infinity negative)
  let noNumber : Reader Binary64 := do
    Reader.literal "nan"
    pure .nan
  infinite.orElse noNumber

def floatReader : Reader Binary64 :=
  (pointReader.orElse namedReader).labelled "floating-point number"

end Number

end TerminalAgent.Toml
