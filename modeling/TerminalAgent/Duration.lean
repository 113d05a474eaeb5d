import TerminalAgent.Binary64.Basic

/-!
# Durations

A duration is a natural number of nanoseconds, and the seconds in it fit in 64 bits. It becomes a
float of seconds in two rounded steps, and a float of seconds becomes a duration in one.
-/

namespace TerminalAgent

/-- A span of time in nanoseconds. -/
structure Duration where
  nanos : Nat
  deriving Repr, DecidableEq

namespace Duration

def nanosPerSecond : Nat := 1000000000

def nanosPerMilli : Nat := 1000000

/-- No duration reaches so many seconds. -/
def secondsBound : Nat := 0x10000000000000000

def ofSeconds (n : Nat) : Duration := ⟨n * nanosPerSecond⟩

def ofMillis (n : Nat) : Duration := ⟨n * nanosPerMilli⟩

/-- The whole seconds. -/
def seconds (d : Duration) : Nat := d.nanos / nanosPerSecond

/-- The nanoseconds beside the whole seconds. -/
def subsecond (d : Duration) : Nat := d.nanos % nanosPerSecond

/-- The whole milliseconds. -/
def millis (d : Duration) : Nat := d.nanos / nanosPerMilli

instance : LE Duration := ⟨fun a b => a.nanos ≤ b.nanos⟩

instance (a b : Duration) : Decidable (a ≤ b) :=
  inferInstanceAs (Decidable (a.nanos ≤ b.nanos))

instance : Min Duration := ⟨fun a b => if a ≤ b then a else b⟩

theorem min_le_right (a b : Duration) : min a b ≤ b := by
  change (if a ≤ b then a else b) ≤ b
  split
  · assumption
  · exact Nat.le_refl b.nanos

/-- The duration as a float of seconds: whole seconds and the rest are rounded each, and then their
    sum. -/
def toFloat (d : Duration) : Binary64 :=
  .addMagnitudes (.ofRatio false d.seconds 1) (.ofRatio false d.subsecond nanosPerSecond)

/-- The duration nearest to a float of seconds, if the float is a number, not negative, and small
    enough. -/
def ofFloat? (x : Binary64) : Option Duration :=
  if !x.isFinite || x.lt (.zero false) then none
  else
    let nanos := Binary64.roundDiv (x.scaled * nanosPerSecond) Binary64.unit
    if nanos < secondsBound * nanosPerSecond then some ⟨nanos⟩ else none

end Duration

end TerminalAgent
