/-!
# Punycode

A label of a domain in ASCII can stand for one in any script. `Punycode.decode?` reads the characters
of such a label: the ASCII ones come first, and the others are inserted one by one in the order of
their code points, each given by a number with digits in base 36 and thresholds that adapt. `Punycode.encode`
writes such a label.
-/

namespace TerminalAgent.Url.Punycode

/-- The value of a digit. -/
def digit? (c : Char) : Option Nat :=
  if c.isLower then some (c.toNat - 97)
  else if c.isUpper then some (c.toNat - 65)
  else if c.isDigit then some (c.toNat - 48 + 26)
  else none

/-- The threshold of the digit after `k` digits. -/
def threshold (k bias : Nat) : Nat :=
  let place := 36 * (k + 1)
  if place ≤ bias then 1 else if bias + 26 ≤ place then 26 else place - bias

/-- Reads a number: the digits read so far make up `value`, and the next one weighs `weight`. -/
def readNumber (bias : Nat) : (k value weight : Nat) → List Char → Option (Nat × List Char)
  | _, _, _, [] => none
  | k, value, weight, c :: rest => do
      let d ← digit? c
      let value := value + d * weight
      if 0x100000000 ≤ value then none
      else
        let t := threshold k bias
        if d < t then some (value, rest)
        else readNumber bias (k + 1) value (weight * (36 - t)) rest

/-- Divides by 35 until the number is small, counting the divisions. -/
def reduce : (fuel : Nat) → (n count : Nat) → Nat × Nat
  | 0, n, count => (n, count)
  | fuel + 1, n, count => if 455 < n then reduce fuel (n / 35) (count + 1) else (n, count)

/-- The thresholds after a number was read. -/
def adapt (delta points : Nat) (first : Bool) : Nat :=
  let delta := if first then delta / 700 else delta / 2
  let (n, count) := reduce 32 (delta + delta / points) 0
  36 * count + 36 * n / (n + 38)

/-- Inserts the characters that the rest of a label gives. -/
def insertAll : (fuel : Nat) → (point index bias : Nat) → List Char → List Char → Option (List Char)
  | _, _, _, _, [], output => some output
  | 0, _, _, _, _ :: _, _ => none
  | fuel + 1, point, index, bias, input@(_ :: _), output => do
      let (delta, rest) ← readNumber bias 0 0 1 input
      let size := output.length + 1
      let place := index + delta
      let point := point + place / size
      let at_ := place % size
      if point < 0xD800 || (0xDFFF < point && point < 0x110000) then
        insertAll fuel point (at_ + 1) (adapt delta size (index = 0)) rest
          (output.take at_ ++ Char.ofNat point :: output.drop at_)
      else none

/-- The characters of a label, without the mark that it begins with. -/
def decode? (label : List Char) : Option (List Char) :=
  let reversed := label.reverse
  let (plain, rest) :=
    if label.contains '-' then
      ((reversed.dropWhile (· ≠ '-')).drop 1 |>.reverse, (reversed.takeWhile (· ≠ '-')).reverse)
    else ([], label)
  insertAll (rest.length + 1) 128 0 72 rest plain

/-! ## Writing -/

/-- The character of a digit. -/
def digitChar (n : Nat) : Char :=
  Char.ofNat (if n < 26 then 97 + n else 22 + n)

/-- Writes a number in at most `fuel` digits. -/
def writeNumber (bias : Nat) : (fuel : Nat) → (k value : Nat) → List Char
  | 0, _, _ => []
  | fuel + 1, k, value =>
      let t := threshold k bias
      if value < t then [digitChar value]
      else
        digitChar (t + (value - t) % (36 - t))
          :: writeNumber bias fuel (k + 1) ((value - t) / (36 - t))

/-- How far the writing of a label has come. -/
structure Writing where
  /-- Places passed since the last character was written. -/
  delta : Nat
  bias : Nat
  /-- How many characters are written. -/
  count : Nat
  isFirst : Bool
  /-- What is written, backwards. -/
  output : List Char

/-- Passes a character of the label while those with code point `point` are written. -/
def writeAt (point : Nat) (w : Writing) (c : Char) : Writing :=
  if c.toNat < point then { w with delta := w.delta + 1 }
  else if c.toNat = point then
    { delta := 0
      bias := adapt w.delta (w.count + 1) w.isFirst
      count := w.count + 1
      isFirst := false
      output := (writeNumber w.bias 40 0 w.delta).reverse ++ w.output }
  else w

/-- Writes the characters with the code points `points`, which ascend from above `last`. -/
def writePoints (label : List Char) : (last : Nat) → (points : List Nat) → Writing → Writing
  | _, [], w => w
  | last, point :: rest, w =>
      let w := { w with delta := w.delta + (point - last) * (w.count + 1) }
      let w := label.foldl (writeAt point) w
      writePoints label (point + 1) rest { w with delta := w.delta + 1 }

/-- A label in ASCII, without the mark that it begins with. -/
def encode (label : List Char) : List Char :=
  let plain := label.filter fun c => c.toNat < 0x80
  let points := ((label.map Char.toNat).filter (0x80 ≤ ·)).mergeSort.eraseDups
  let start := if plain = [] then [] else '-' :: plain.reverse
  (writePoints label 0x80 points ⟨0, 72, plain.length, true, start⟩).output.reverse

end TerminalAgent.Url.Punycode
