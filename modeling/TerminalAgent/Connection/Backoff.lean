import TerminalAgent.Config.Basic
import TerminalAgent.Duration

/-!
# Waiting between attempts

Waiting times grow by a factor up to a limit, and a number of attempts may be set after which there
is no further one. A random deviation may be added to each waiting time; it does not change how they
grow.
-/

namespace TerminalAgent

/-- How long to wait between attempts, and how many there may be. -/
structure BackoffPolicy where
  initial : Duration
  max : Duration
  multiplier : Binary64
  /-- The largest deviation from a waiting time, as a part of it. -/
  jitter : Binary64
  /-- The attempt with this number is the last one. -/
  maxAttempts : Option Nat
  deriving Repr, DecidableEq

namespace BackoffPolicy

/-- One part in ten. -/
def defaultJitter : Binary64 := .ofRatio false 1 10

def default : BackoffPolicy where
  initial := .ofMillis 250
  max := .ofMillis 5000
  multiplier := .ofInt 2
  jitter := defaultJitter
  maxAttempts := none

/-- The policy that a configuration asks for. -/
def ofConfig (config : Config.Reconnect) : BackoffPolicy where
  initial := .ofMillis config.initialBackoffMs.toNat
  max := .ofMillis config.maxBackoffMs.toNat
  multiplier := config.multiplier
  jitter := defaultJitter
  maxAttempts := config.maxAttempts.map UInt32.toNat

/-- The size of the deviation, if there is any. A deviation that is infinite or no number is none. -/
def spread? (policy : BackoffPolicy) : Option Binary64 :=
  let size := policy.jitter.abs
  if size.isFinite && size ≠ .zero false then some size else none

end BackoffPolicy

/-- Where a series of attempts stands. -/
structure Backoff where
  policy : BackoffPolicy
  /-- The next waiting time, before the limit is applied. -/
  current : Duration
  /-- Attempts since the last reset. -/
  attempts : Nat
  deriving Repr, DecidableEq

namespace Backoff

/-- The start of a series. -/
def new (policy : BackoffPolicy) : Backoff where
  policy := policy
  current := policy.initial
  attempts := 0

/-- The waiting time that follows one of length `base`. A product that is no duration counts as the
    limit. -/
def grow (policy : BackoffPolicy) (base : Duration) : Duration :=
  min ((Duration.ofFloat? (.mul base.toFloat policy.multiplier)).getD policy.max) policy.max

/-- Counts a failed attempt. Gives the time to wait before the next one, without deviation, unless there
    is no next one. -/
def next (backoff : Backoff) : Option Duration × Backoff :=
  let backoff := { backoff with attempts := backoff.attempts + 1 }
  if backoff.policy.maxAttempts.any fun limit => limit ≤ backoff.attempts then (none, backoff)
  else
    let base := min backoff.current backoff.policy.max
    (some base, { backoff with current := grow backoff.policy base })

/-- Begins the series anew. -/
def reset (backoff : Backoff) : Backoff :=
  { backoff with current := backoff.policy.initial, attempts := 0 }

/-- The waiting time with a deviation, given by the factor on it. -/
def deviate (base : Duration) (factor : Binary64) : Duration :=
  (Duration.ofFloat? (.mul base.toFloat factor)).getD base

/-- The waiting time with the deviation that a policy asks for. `draw` gives a factor for the size of
    the deviation. -/
def delay (policy : BackoffPolicy) (draw : Binary64 → Binary64) (base : Duration) : Duration :=
  match policy.spread? with
  | some size => deviate base (draw size)
  | none => base

/-- Attempts are counted in 32 bits. -/
def attemptsBound : Nat := 0x100000000

/-- Counts a failed attempt. Gives the time to wait before the next one, unless there is no next one.
    A count that goes beyond its bits is an overflow, and gives nothing at all. -/
def attempt? (backoff : Backoff) (draw : Binary64 → Binary64) : Option (Option Duration × Backoff) :=
  if backoff.attempts + 1 < attemptsBound then
    let (base, after) := backoff.next
    some (base.map (delay backoff.policy draw), after)
  else none

end Backoff

/-- What is asked of a series of attempts. -/
inductive BackoffCall where
  | attempt
  | reset
  deriving Repr, DecidableEq

namespace Backoff

/-- What a call makes of a series, unless a count overflows. -/
def call? (draw : Binary64 → Binary64) (backoff : Backoff) : BackoffCall → Option Backoff
  | .attempt => (backoff.attempt? draw).map (·.2)
  | .reset => some backoff.reset

/-- What calls make of a series. -/
def run? (draw : Binary64 → Binary64) (backoff : Backoff) (calls : List BackoffCall) : Option Backoff :=
  calls.foldlM (call? draw) backoff

end Backoff

end TerminalAgent
