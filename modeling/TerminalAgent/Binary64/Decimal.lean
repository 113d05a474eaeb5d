import TerminalAgent.Binary64.Basic

/-!
# Decimal text of double-precision numbers

`Binary64.shortest` finds the fewest decimal digits that read back as the number, and of those the
nearest. `Binary64.positional` writes them without an exponent, and `Binary64.ofDecimal` reads digits
with an exponent back, rounded once.
-/

namespace TerminalAgent

/-- The decimal `digits · 10 ^ exponent`. -/
structure Decimal where
  digits : Nat
  exponent : Int
  deriving Repr, DecidableEq

namespace Binary64

/-- The number nearest to `± digits · 10 ^ exponent`. Exponents so large or small that no digits
    matter are not multiplied out. -/
def ofDecimal (negative : Bool) (d : Decimal) : Binary64 :=
  if d.digits = 0 then zero negative
  else
    let size : Int := (Nat.toDigits 10 d.digits).length + d.exponent
    if 400 < size then infinity negative
    else if size < -400 then zero negative
    else if 0 ≤ d.exponent then ofRatio negative (d.digits * Nat.pow 10 d.exponent.toNat) 1
    else ofRatio negative d.digits (Nat.pow 10 (-d.exponent).toNat)

/-- Half the gap to the number below and above, over `2 * unit`. -/
def gaps (x : Binary64) : Nat × Nat :=
  let above := Nat.pow 2 x.shift
  if x.fractionField = 0 && 1 < x.exponentField then (above / 2, above) else (above, above)

/-- A count of `unit`s over the place value `10 ^ place`, as numerator and denominator. -/
def atPlace (n : Nat) (place : Int) : Nat × Nat :=
  if 0 ≤ place then (n, Nat.pow 10 place.toNat) else (n * Nat.pow 10 (-place).toNat, 1)

/-- The candidate with its last digit at `place` that reads back as the number, the nearer one of
    the two neighbours on that grid. -/
def candidate? (x : Binary64) (place : Int) : Option Nat :=
  let closed := x.significand % 2 = 0
  let (below, above) := x.gaps
  -- All quantities are counted in halves of a `unit`, over the place value.
  let (value, den) := atPlace (2 * x.scaled) place
  let (low, _) := atPlace (2 * x.scaled - below) place
  let (high, _) := atPlace (2 * x.scaled + above) place
  let step := 2 * unit * den
  let down := value / step
  let up := down + 1
  let fits (d : Nat) : Bool :=
    let y := d * step
    (low < y && y < high) || (closed && (y = low || y = high))
  let nearer := if 2 * value ≤ (down + up) * step then down else up
  let other := if nearer = down then up else down
  if nearer ≠ 0 && fits nearer then some nearer
  else if other ≠ 0 && fits other then some other
  else none

/-- The first hit on the grids from coarse to fine. -/
def shortestFrom (x : Binary64) (top : Int) : Nat → Nat → Option Decimal
  | 0, _ => none
  | fuel + 1, n =>
      let place := top - n
      match x.candidate? place with
      | some d => some ⟨d, place⟩
      | none => shortestFrom x top fuel (n + 1)

/-- The place of the leading digit of `num / den`, or the one above it. -/
def leadingPlace (num den : Nat) : Int :=
  if den ≤ num then ((Nat.toDigits 10 (num / den)).length : Int)
  else -((Nat.toDigits 10 (den / num)).length : Int) + 1

/-- The fewest decimal digits that read back as the magnitude of a finite number other than zero. -/
def shortest (x : Binary64) : Decimal :=
  (x.shortestFrom (leadingPlace x.scaled unit) 20 0).getD ⟨0, 0⟩

end Binary64

namespace Decimal

/-- Digits without an exponent, and with a point only where there are digits after it. -/
def positional (d : Decimal) : String :=
  let digits := Nat.toDigits 10 d.digits
  if 0 ≤ d.exponent then String.ofList (digits ++ List.replicate d.exponent.toNat '0')
  else
    let places := (-d.exponent).toNat
    if places < digits.length then
      let whole := digits.length - places
      String.ofList (digits.take whole ++ '.' :: digits.drop whole)
    else String.ofList ('0' :: '.' :: (List.replicate (places - digits.length) '0' ++ digits))

end Decimal

namespace Binary64

/-- The shortest text of a number without an exponent. -/
def positional (x : Binary64) : String :=
  if x.isNaN then "NaN"
  else
    let magnitude :=
      if x.isInfinite then "inf"
      else if x.scaled = 0 then "0"
      else x.shortest.positional
    if x.isNegative then "-" ++ magnitude else magnitude

/-- The shortest text of a number, with a point even where no digits follow it. -/
def pointed (x : Binary64) : String :=
  let text := x.positional
  if x.isFinite && !text.contains '.' then text ++ ".0" else text

end Binary64

end TerminalAgent
