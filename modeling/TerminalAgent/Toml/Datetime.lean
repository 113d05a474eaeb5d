import TerminalAgent.Toml.Reader

/-!
# Dates and times

A date, a time, or both, and then also an offset from universal time. The year comes first and the
offset last, with a letter or a blank between date and time. `Datetime.reader` reads this form and
`Datetime.text` writes it.
-/

namespace TerminalAgent.Toml

structure Date where
  year : Nat
  month : Nat
  day : Nat
  deriving Repr, DecidableEq

structure Time where
  hour : Nat
  minute : Nat
  second : Nat
  nanosecond : Nat
  deriving Repr, DecidableEq

/-- How far a time is from universal time. -/
inductive Offset where
  | universal
  | minutes (m : Int)
  deriving Repr, DecidableEq

structure Datetime where
  date : Option Date
  time : Option Time
  offset : Option Offset
  deriving Repr, DecidableEq

/-- The decimal digits of a number, at least `width` of them. -/
def padded (width n : Nat) : String :=
  let digits := Nat.toDigits 10 n
  String.ofList (List.replicate (width - digits.length) '0' ++ digits)

namespace Date

def isLeapYear (year : Nat) : Bool :=
  year % 4 = 0 && (year % 100 ≠ 0 || year % 400 = 0)

def daysInMonth (year month : Nat) : Nat :=
  if month = 2 then if isLeapYear year then 29 else 28
  else if month = 4 || month = 6 || month = 9 || month = 11 then 30
  else 31

def text (date : Date) : String :=
  padded 4 date.year ++ "-" ++ padded 2 date.month ++ "-" ++ padded 2 date.day

end Date

namespace Time

def text (time : Time) : String :=
  let fraction :=
    if time.nanosecond = 0 then ""
    else
      let digits := (padded 9 time.nanosecond).toList
      "." ++ String.ofList (digits.reverse.dropWhile (· == '0')).reverse
  padded 2 time.hour ++ ":" ++ padded 2 time.minute ++ ":" ++ padded 2 time.second ++ fraction

end Time

namespace Offset

def text : Offset → String
  | universal => "Z"
  | minutes m =>
      (if m < 0 then "-" else "+") ++ padded 2 (m.natAbs / 60) ++ ":" ++ padded 2 (m.natAbs % 60)

end Offset

namespace Datetime

def text (t : Datetime) : String :=
  let date := (t.date.map Date.text).getD ""
  let time := (t.time.map Time.text).getD ""
  let between := if t.date.isSome && t.time.isSome then "T" else ""
  date ++ between ++ time ++ (t.offset.map Offset.text).getD ""

/-! ## Reading -/

/-- The number that decimal digits spell. -/
def digitsValue (digits : List Char) : Nat :=
  digits.foldl (fun n c => 10 * n + (c.toNat - '0'.toNat)) 0

/-- Two digits of a number between `low` and `high`. -/
def twoDigits (low high : Nat) : Reader Nat :=
  Reader.checked (.exactly 2 Char.isDigit) fun digits =>
    let n := digitsValue digits
    if low ≤ n ∧ n ≤ high then .ok n else .error .outOfRange

def dateReader : Reader Date := do
  let year ← Reader.exactly 4 Char.isDigit
  let year := digitsValue year
  let _ ← Reader.char '-'
  let month ← (twoDigits 1 12).final
  let _ ← (Reader.char '-').final
  let start ← Reader.place
  let day ← (twoDigits 1 31).final
  if Date.daysInMonth year month < day then
    fun _ => .refused { place := start, cause := some .outOfRange }
  else pure ⟨year, month, day⟩

/-- The fraction of a second in nanoseconds; further digits are dropped. -/
def fractionReader : Reader Nat := do
  let _ ← Reader.char '.'
  let first ← Reader.satisfy Char.isDigit
  let more ← fun text => .read (text.takeWhile Char.isDigit) (text.dropWhile Char.isDigit)
  let digits := (first :: more).take 9
  pure (digitsValue digits * Nat.pow 10 (9 - digits.length))

def timeReader : Reader Time := do
  let hour ← twoDigits 0 23
  let _ ← Reader.char ':'
  Reader.final do
    let minute ← twoDigits 0 59
    let _ ← Reader.char ':'
    let second ← twoDigits 0 60
    let fraction ← Reader.optional fractionReader
    pure ⟨hour, minute, second, fraction.getD 0⟩

def offsetReader : Reader Offset :=
  let universal : Reader Offset := do
    let _ ← Reader.satisfy fun c => c == 'Z' || c == 'z'
    pure .universal
  let fixed : Reader Offset := do
    let sign ← Reader.satisfy fun c => c == '+' || c == '-'
    Reader.final do
      let hour ← twoDigits 0 23
      let _ ← Reader.char ':'
      let minute ← twoDigits 0 59
      let m : Int := 60 * hour + minute
      pure (.minutes (if sign = '-' then -m else m))
  (Reader.orElse universal fixed).labelled "time offset"

/-- A date with or without a time, or a time. -/
def reader : Reader Datetime :=
  let dated : Reader Datetime := do
    let date ← dateReader
    let rest ← Reader.optional do
      let _ ← Reader.satisfy fun c => c == 'T' || c == 't' || c == ' '
      let time ← timeReader
      let offset ← Reader.optional offsetReader
      pure (time, offset)
    pure ⟨some date, rest.map (·.1), rest.bind (·.2)⟩
  let timed : Reader Datetime := do
    let time ← timeReader
    pure ⟨none, some time, none⟩
  (dated.labelled "date-time").orElse (timed.labelled "time")

end Datetime

end TerminalAgent.Toml
