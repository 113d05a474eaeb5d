/-!
# Double-precision numbers

A number is kept as its 64 bits, so that two numbers are equal exactly when their bits are. A finite
number is `± m · 2 ^ q` with natural `m`; sums, products and conversions are computed exactly on such
ratios and then rounded once, to the nearest number with ties to the even one.
-/

namespace TerminalAgent

/-- A double-precision number, by its bits. -/
structure Binary64 where
  bits : UInt64
  deriving Repr, DecidableEq

namespace Binary64

/-! ## Bits -/

/-- The bit of the sign. -/
def signBit : Nat := 0x8000000000000000

/-- The lowest bit of the exponent, which a significand above the smallest ones has in front. -/
def leadingBit : Nat := 0x10000000000000

/-- The highest bit of the fraction, by which a NaN is quiet. -/
def quietBit : Nat := 0x8000000000000

/-- The largest exponent, which no finite number has. -/
def maxExponent : Nat := 2047

/-- Whether the sign is set. -/
def isNegative (x : Binary64) : Bool :=
  signBit ≤ x.bits.toNat

/-- The eleven exponent bits. -/
def exponentField (x : Binary64) : Nat :=
  x.bits.toNat / leadingBit % (maxExponent + 1)

/-- The fifty-two fraction bits. -/
def fractionField (x : Binary64) : Nat :=
  x.bits.toNat % leadingBit

/-- Neither infinite nor a NaN. -/
def isFinite (x : Binary64) : Bool :=
  x.exponentField < maxExponent

def isNaN (x : Binary64) : Bool :=
  x.exponentField = maxExponent && x.fractionField ≠ 0

def isInfinite (x : Binary64) : Bool :=
  x.exponentField = maxExponent && x.fractionField = 0

/-- The natural `m` of a finite number `± m · 2 ^ q`. -/
def significand (x : Binary64) : Nat :=
  if x.exponentField = 0 then x.fractionField else leadingBit + x.fractionField

/-- The `q + 1074` of a finite number `± m · 2 ^ q`, never below zero. -/
def shift (x : Binary64) : Nat :=
  x.exponentField - 1

/-- The magnitude of a finite number as a fraction over `2 ^ 1074`. -/
def scaled (x : Binary64) : Nat :=
  x.significand * Nat.pow 2 x.shift

/-- The denominator of `scaled`. -/
def unit : Nat := Nat.pow 2 1074

/-- The number with the given fields. -/
def ofFields (negative : Bool) (magnitude : Nat) : Binary64 :=
  ⟨UInt64.ofNat (magnitude % signBit + if negative then signBit else 0)⟩

/-- The magnitude of the infinities, above which there are only NaNs. -/
def infiniteMagnitude : Nat := maxExponent * leadingBit

/-- The infinity of a sign. -/
def infinity (negative : Bool) : Binary64 :=
  ofFields negative infiniteMagnitude

/-- The NaN that arithmetic produces. -/
def nan : Binary64 :=
  ofFields false (infiniteMagnitude + quietBit)

/-- The number without its sign. -/
def abs (x : Binary64) : Binary64 :=
  ofFields false x.bits.toNat

/-- The zero of a sign. -/
def zero (negative : Bool) : Binary64 :=
  ofFields negative 0

/-- A quotient rounded to the nearest natural number, ties to the even one. -/
def roundDiv (num den : Nat) : Nat :=
  let q := num / den
  let r := num % den
  if 2 * r < den then q
  else if den < 2 * r then q + 1
  else q + q % 2

/-- The number nearest to `± num / den`, for a denominator that is not zero. -/
def ofRatio (negative : Bool) (num den : Nat) : Binary64 :=
  if num = 0 then zero negative
  else
    -- The exponent, raised by 1074, of the last place that a significand of 53 bits keeps.
    let guess := 1074 + num.log2 - (den.log2 + 53)
    let place := if 2 * leadingBit * (den * Nat.pow 2 guess) ≤ num * unit then guess + 1 else guess
    let m := roundDiv (num * unit) (den * Nat.pow 2 place)
    -- A significand that rounds up to the next power of two carries into the exponent.
    let magnitude := if m < leadingBit then m else place * leadingBit + m
    if infiniteMagnitude ≤ magnitude then infinity negative else ofFields negative magnitude

/-- The number nearest to an integer. -/
def ofInt (i : Int) : Binary64 :=
  ofRatio (decide (i < 0)) i.natAbs 1

/-- The single-precision number with the given bits; a NaN keeps its payload and becomes quiet. -/
def ofBinary32 (bits : UInt32) : Binary64 :=
  let b := bits.toNat
  let negative := decide (0x80000000 ≤ b)
  let exponent := b / 0x800000 % 0x100
  let fraction := b % 0x800000
  if exponent = 255 then
    if fraction = 0 then infinity negative
    else
      let payload := fraction * 0x20000000
      ofFields negative (infiniteMagnitude + if payload < quietBit then payload + quietBit else payload)
  else if exponent = 0 then ofRatio negative fraction (Nat.pow 2 149)
  else ofFields negative ((exponent + 896) * leadingBit + fraction * 0x20000000)

/-- Whether the number is finite and has no fraction. -/
def isInteger (x : Binary64) : Bool :=
  x.isFinite && x.scaled % unit = 0

/-- The integer part, brought into the range of 64-bit integers; a NaN gives zero. -/
def toInt64Clamped (x : Binary64) : Int64 :=
  let low : Int := -0x8000000000000000
  let high : Int := 0x7FFFFFFFFFFFFFFF
  if x.isNaN then 0
  else if x.isInfinite then Int64.ofInt (if x.isNegative then low else high)
  else
    let magnitude : Int := x.scaled / unit
    let value := if x.isNegative then -magnitude else magnitude
    Int64.ofInt (max low (min high value))

/-- The product. -/
def mul (x y : Binary64) : Binary64 :=
  let negative := x.isNegative != y.isNegative
  if x.isNaN || y.isNaN then nan
  else if x.isInfinite || y.isInfinite then
    if (x.isFinite && x.scaled = 0) || (y.isFinite && y.scaled = 0) then nan else infinity negative
  else ofRatio negative (x.scaled * y.scaled) (unit * unit)

/-- The sum of two numbers that are not negative. -/
def addMagnitudes (x y : Binary64) : Binary64 :=
  if x.isNaN || y.isNaN then nan
  else if x.isInfinite || y.isInfinite then infinity false
  else ofRatio false (x.scaled + y.scaled) unit

/-- The value of a finite number as an integer count of `unit`s. -/
def signedScaled (x : Binary64) : Int :=
  if x.isNegative then -(x.scaled : Int) else x.scaled

/-- Strictly smaller; never so for a NaN, and never so between the zeros. -/
def lt (x y : Binary64) : Bool :=
  if x.isNaN || y.isNaN then false
  else if x.isInfinite then x.isNegative && !(y.isInfinite && y.isNegative)
  else if y.isInfinite then !y.isNegative
  else x.signedScaled < y.signedScaled

/-- Smaller or equal; never so for a NaN. -/
def le (x y : Binary64) : Bool :=
  !x.isNaN && !y.isNaN && !lt y x

/-- Equal as numbers: the zeros are equal, and a NaN equals nothing. -/
def numEq (x y : Binary64) : Bool :=
  le x y && le y x

end Binary64

end TerminalAgent
