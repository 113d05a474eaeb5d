/-!
# Socket addresses

An address is four decimal bytes or eight hexadecimal words, and a port. Names are no addresses, and
so are spellings that other readers of addresses may allow, such as bytes with a zero in front.
-/

namespace TerminalAgent

/-- A numeric address of a host. -/
inductive IpAddress where
  | v4 (bytes : List Nat)
  | v6 (words : List Nat)
  deriving Repr, DecidableEq

/-- A place to listen at. -/
structure SocketAddress where
  ip : IpAddress
  port : Nat
  deriving Repr, DecidableEq

namespace SocketAddress

/-- The value of a digit, below sixteen. -/
def digit? (base : Nat) (c : Char) : Option Nat :=
  let value? :=
    if c.isDigit then some (c.toNat - '0'.toNat)
    else if 'a' ≤ c && c ≤ 'f' then some (c.toNat - 'a'.toNat + 10)
    else if 'A' ≤ c && c ≤ 'F' then some (c.toNat - 'A'.toNat + 10)
    else none
  value?.filter (· < base)

/-- All digits at the front of a text: how many they are, what they spell, and the rest. -/
def digits (base : Nat) : (count value : Nat) → List Char → Nat × Nat × List Char
  | count, value, [] => (count, value, [])
  | count, value, c :: rest =>
      match digit? base c with
      | some d => digits base (count + 1) (base * value + d) rest
      | none => (count, value, c :: rest)

/-- A number below a bound of at most so many digits. -/
def number? (base maxDigits bound : Nat) (text : List Char) : Option (Nat × List Char) :=
  let (count, value, rest) := digits base 0 0 text
  if 0 < count && count ≤ maxDigits && value < bound then some (value, rest) else none

/-- A decimal byte, which has no zero in front. -/
def byte? (text : List Char) : Option (Nat × List Char) :=
  match number? 10 3 256 text with
  | some (value, rest) =>
      if text.head? = some '0' && text.length - rest.length ≠ 1 then none else some (value, rest)
  | none => none

/-- The text after a character. -/
def after? (c : Char) : List Char → Option (List Char)
  | first :: rest => if first = c then some rest else none
  | [] => none

/-- Four bytes with dots between them. -/
def ipv4? (text : List Char) : Option (List Nat × List Char) := do
  let (a, text) ← byte? text
  let (b, text) ← byte? (← after? '.' text)
  let (c, text) ← byte? (← after? '.' text)
  let (d, text) ← byte? (← after? '.' text)
  pure ([a, b, c, d], text)

/-- At most `limit` words with colons between them, of which `words` are read. The last two may be
    written as four bytes, which ends the words. -/
def wordsFrom (words : List Nat) : (limit : Nat) → List Char → List Nat × Bool × List Char
  | 0, text => (words, false, text)
  | limit + 1, text =>
      let item? := if words.isEmpty then some text else after? ':' text
      match item? with
      | none => (words, false, text)
      | some item =>
        match if limit = 0 then none else ipv4? item with
        | some ([a, b, c, d], rest) => (words ++ [256 * a + b, 256 * c + d], true, rest)
        | _ =>
          match number? 16 4 0x10000 item with
          | some (word, rest) => wordsFrom (words ++ [word]) limit rest
          | none => (words, false, text)

/-- Eight words, of which a run of zeros may be left out between two colons. -/
def ipv6? (text : List Char) : Option (List Nat × List Char) := do
  let (front, endsInBytes, rest) := wordsFrom [] 8 text
  if front.length = 8 then pure (front, rest)
  else if endsInBytes then none
  else
    let rest ← after? ':' (← after? ':' rest)
    let (back, _, rest) := wordsFrom [] (7 - front.length) rest
    pure (front ++ List.replicate (8 - front.length - back.length) 0 ++ back, rest)

/-- A port at the end of an address. -/
def port? (text : List Char) : Option Nat := do
  let (_, value, rest) := digits 10 0 0 (← after? ':' text)
  let some c := (← after? ':' text).head? | none
  if c.isDigit && rest.isEmpty && value < 0x10000 then some value else none

/-- The number of a network interface in an address, which does not matter for listening. -/
def skipScope? (text : List Char) : Option (List Char) :=
  match after? '%' text with
  | none => some text
  | some text =>
      let (count, value, rest) := digits 10 0 0 text
      if 0 < count && value < 0x100000000 then some rest else none

/-- Reads an address. -/
def parse? (s : String) : Option SocketAddress :=
  match s.toList with
  | '[' :: text => do
      let (words, text) ← ipv6? text
      let text ← after? ']' (← skipScope? text)
      pure ⟨.v6 words, ← port? text⟩
  | text => do
      let (bytes, text) ← ipv4? text
      pure ⟨.v4 bytes, ← port? text⟩

end SocketAddress

end TerminalAgent
