import TerminalAgent.Url.Query

/-!
# Playback targets

A viewer asks for a recording by a target such as "/playback/id?sleep_ms=20": the path names the
session, and the query may ask for a pause between chunks.
-/

namespace TerminalAgent

/-- What a viewer asks for. -/
structure PlaybackTarget where
  id : String
  /-- Milliseconds between chunks. -/
  pause : Nat
  deriving Repr, DecidableEq

namespace PlaybackTarget

/-- The URL that targets refer from. -/
def base : Url where
  scheme := "ws"
  username := ""
  password := none
  host := some (.domain "playback.invalid")
  port := none
  path := .segments [""]
  query := none
  fragment := none

/-- A natural number below `2 ^ 64` in decimal digits, with an optional plus sign. -/
def parseMillis? (s : String) : Option Nat :=
  let digits :=
    match s.toList with
    | '+' :: rest => rest
    | cs => cs
  if digits ≠ [] && digits.all Char.isDigit then
    let n := digits.foldl (fun n c => 10 * n + (c.toNat - 48)) 0
    if n < 0x10000000000000000 then some n else none
  else none

/-- The session in a path of two parts, the first of which is "playback". -/
def sessionOf? (segments : List String) : Option String :=
  match segments with
  | ["playback", id] => if id = "" then none else some id
  | _ => none

/-- The first pause that pairs ask for, or none at all. -/
def pauseOf? (pairs : List (String × String)) : Option Nat :=
  match pairs.find? fun pair => pair.1 = "sleep_ms" with
  | some pair => parseMillis? pair.2
  | none => some 0

/-- Reads a target. -/
def parse? (target : String) : Option PlaybackTarget := do
  let url ← (Url.join base target).toOption
  let id ← sessionOf? (← url.segments?)
  let pause ← pauseOf? url.queryPairs
  some ⟨id, pause⟩

end PlaybackTarget

end TerminalAgent
