import TerminalAgent.Url.Percent
import TerminalAgent.Url.Punycode
import TerminalAgent.Text.Printable

/-!
# Hosts

A host is a domain, an address of version 4 or 6, or, in schemes that are not special, any text. A
domain is brought into one form first: escapes are undone, characters that stand for others are
replaced, and what a domain does not admit is refused. A domain that ends in a number is an address.
-/

namespace TerminalAgent.Url

/-- Why a text is no URL. -/
inductive Fault where
  | emptyHost
  | invalidDomain
  | invalidPort
  | invalidIpv4
  | invalidIpv6
  | invalidDomainCharacter
  /-- A reference without anything to refer from. -/
  | noBase
  /-- A reference from a URL that has no hierarchy. -/
  | opaqueBase
  deriving Repr, DecidableEq

namespace Fault

def message : Fault → String
  | emptyHost => "empty host"
  | invalidDomain => "invalid international domain name"
  | invalidPort => "invalid port number"
  | invalidIpv4 => "invalid IPv4 address"
  | invalidIpv6 => "invalid IPv6 address"
  | invalidDomainCharacter => "invalid domain character"
  | noBase => "relative URL without a base"
  | opaqueBase => "relative URL with a cannot-be-a-base base"

end Fault

inductive Host where
  | domain (name : String)
  | ipv4 (address : Nat)
  /-- The eight words of an address. -/
  | ipv6 (words : List Nat)
  /-- A host that is not looked into. -/
  | other (name : String)
  deriving Repr, DecidableEq

/-! ## Addresses of version 4 -/

/-- The parts of a text between the points. -/
def dottedParts (s : List Char) : List (List Char) :=
  (String.ofList s).splitOn "." |>.map String.toList

/-- The value of digits in a base, if all are digits of it. -/
def numberIn? (base : Nat) (digits : List Char) : Option Nat :=
  digits.foldlM
    (fun n c => do
      let d ← hexValue? (UInt8.ofNat (if c.toNat < 128 then c.toNat else 0))
      if d < base then some (base * n + d) else none)
    0

/-- A part of an address: decimal, octal after a zero, or hexadecimal after "0x". -/
def ipv4Part? (part : List Char) : Option Nat :=
  match part with
  | [] => none
  | '0' :: 'x' :: digits | '0' :: 'X' :: digits => numberIn? 16 digits
  | '0' :: d :: digits => numberIn? 8 (d :: digits)
  | digits => numberIn? 10 digits

/-- Whether the last part of a domain is a number, so that the whole must be an address. -/
def endsInNumber (domain : List Char) : Bool :=
  let parts := (dottedParts domain).reverse
  let last :=
    match parts with
    | [] :: last :: _ => some last
    | [[]] => none
    | last :: _ => some last
    | [] => none
  match last with
  | none => false
  | some last => (last ≠ [] && last.all Char.isDigit) || (ipv4Part? last).isSome

/-- The address that the parts make up; the last part fills all places that are left. -/
def ipv4OfParts (parts : List Nat) : Except Fault Nat :=
  match parts.reverse with
  | [] => throw .invalidIpv4
  | last :: front =>
      let count := front.length
      if 4 ≤ count || Nat.pow 256 (4 - count) ≤ last || front.any (256 ≤ ·) then throw .invalidIpv4
      else pure (last + front.foldr (fun n sum => 256 * sum + n) 0 * Nat.pow 256 (4 - count))

def parseIpv4 (domain : List Char) : Except Fault Nat :=
  let parts := dottedParts domain
  let parts := if 1 < parts.length && parts.getLast? = some [] then parts.dropLast else parts
  if 4 < parts.length then throw .invalidIpv4
  else
    match parts.mapM ipv4Part? with
    | some numbers => ipv4OfParts numbers
    | none => throw .invalidIpv4

/-! ## Addresses of version 6 -/

/-- Up to four hexadecimal digits, and the text after them. -/
def ipv6Word (s : List Char) : List Char × List Char :=
  let digits := (s.take 4).takeWhile fun c => (numberIn? 16 [c]).isSome
  (digits, s.drop digits.length)

/-- A decimal number without a leading zero and below 256, and the text after it. -/
def ipv4Byte? (s : List Char) : Option (Nat × List Char) :=
  let digits := s.takeWhile Char.isDigit
  let rest := s.drop digits.length
  match digits with
  | [] => none
  | ['0'] => some (0, rest)
  | '0' :: _ => none
  | digits => do
      let n ← numberIn? 10 digits
      if n < 256 then some (n, rest) else none

/-- The two words of an address of version 4 that ends one of version 6. -/
def embeddedIpv4? (s : List Char) : Option (List Nat) := do
  let (a, s) ← ipv4Byte? s
  let '.' :: s := s | none
  let (b, s) ← ipv4Byte? s
  let '.' :: s := s | none
  let (c, s) ← ipv4Byte? s
  let '.' :: s := s | none
  let (d, s) ← ipv4Byte? s
  if s = [] then some [256 * a + b, 256 * c + d] else none

/-- Reads words between colons, in reverse. `gap` tells how many words came before the one place
    where words are left out. -/
def ipv6Words : (fuel : Nat) → List Nat → (gap : Option Nat) → List Char →
    Option (List Nat × Option Nat)
  | _, words, gap, [] => some (words, gap)
  | 0, _, _, _ :: _ => none
  | fuel + 1, words, gap, ':' :: rest =>
      if words.length = 8 || gap.isSome then none
      else ipv6Words fuel words (some words.length) rest
  | fuel + 1, words, gap, s@(_ :: _) =>
      if words.length = 8 then none
      else
        let (digits, rest) := ipv6Word s
        match rest with
        | '.' :: _ =>
            if digits = [] || 6 < words.length then none
            else (embeddedIpv4? s).map fun tail => (tail.reverse ++ words, gap)
        | [] => do
            let n ← numberIn? 16 digits
            some (n :: words, gap)
        | ':' :: rest =>
            if rest = [] then none
            else do
              let n ← numberIn? 16 digits
              ipv6Words fuel (n :: words) gap rest
        | _ => none

/-- The eight words of an address. -/
def parseIpv6 (s : List Char) : Except Fault (List Nat) :=
  let start : Option (List Char × Option Nat) :=
    match s with
    | ':' :: ':' :: rest => some (rest, some 0)
    | ':' :: _ => none
    | s => some (s, none)
  let read := do
    let (rest, gap) ← start
    ipv6Words (s.length + 1) [] gap rest
  match read with
  | none => throw .invalidIpv6
  | some (words, gap) =>
      let words := words.reverse
      match gap with
      | none => if words.length = 8 then pure words else throw .invalidIpv6
      | some n =>
          if 8 < words.length then throw .invalidIpv6
          else pure (words.take n ++ List.replicate (8 - words.length) 0 ++ words.drop n)

/-! ## Domains -/

/-- The ASCII characters that no domain admits. -/
def deniedInDomain (c : Char) : Bool :=
  c.toNat ≤ 0x20 || c.toNat = 0x7F
    || ['%', '#', '/', ':', '<', '>', '?', '@', '[', '\\', ']', '^', '|'].contains c

/-- Characters that have a picture and are admitted in no domain: marks for the description of
    ideographs, and for what could not be shown. -/
def isUnfitMark (n : Nat) : Bool :=
  (0x2FF0 ≤ n && n ≤ 0x2FFF) || n = 0xFFFC || n = 0xFFFD

/-- Characters that are left out of a domain. -/
def ignoredInDomain (n : Nat) : Bool :=
  n = 0xAD || n = 0x34F || (0x180B ≤ n && n ≤ 0x180F) || n = 0x200B || n = 0x2060 || n = 0x2064
    || (0xFE00 ≤ n && n ≤ 0xFE0F) || n = 0xFEFF || (0xE0100 ≤ n && n ≤ 0xE01EF)

/-- The character that stands for another in a domain. -/
def mappedInDomain (c : Char) : Char :=
  let n := c.toNat
  if n < 0x80 then c.toLower
  else if 0xFF01 ≤ n && n ≤ 0xFF5E then (Char.ofNat (n - 0xFEE0)).toLower
  else if n = 0x3002 || n = 0xFF61 then '.'
  else if n = 0xA0 || (0x2000 ≤ n && n ≤ 0x200A) || n = 0x202F || n = 0x205F || n = 0x3000 then ' '
  else if n = 0x212A then 'k'
  else c

/-- Whether a label of a domain is admitted. -/
def isLabel (label : List Char) : Bool :=
  let whole (label : List Char) : Bool :=
    (label.all fun c =>
      if c.toNat < 0x80 then !deniedInDomain c
      else !isUnfitMark c.toNat && !Text.inRanges Text.unprintable c.toNat)
    && !(label.head?.any fun c => Text.inRanges Text.combining c.toNat)
  match label with
  | 'x' :: 'n' :: '-' :: '-' :: rest =>
      match Punycode.decode? rest with
      | some decoded => decoded.any (0x80 ≤ ·.toNat) && whole decoded
      | none => false
  | label => whole label

/-- The one form of a domain. -/
def normalizeDomain (bytes : Bytes) : Except Fault String :=
  match Utf8.decode? bytes with
  | none => throw .invalidDomain
  | some s =>
      let cs := (s.toList.filter fun c => !ignoredInDomain c.toNat).map mappedInDomain
      if (dottedParts cs).all isLabel then pure (String.ofList cs) else throw .invalidDomain

/-- Characters that a host outside the special schemes does not admit. -/
def deniedInHost (c : Char) : Bool :=
  [Char.ofNat 0, '\t', '\n', '\r', ' ', '#', '/', ':', '<', '>', '?', '@', '[', '\\', ']', '^',
    '|'].contains c

/-- The address between brackets. -/
def parseBracketed (s : List Char) : Except Fault Host :=
  if s.getLast? = some ']' then Host.ipv6 <$> parseIpv6 s.dropLast else throw .invalidIpv6

/-- The host of a URL with a special scheme. -/
def parseSpecialHost (s : List Char) : Except Fault Host :=
  match s with
  | '[' :: rest => parseBracketed rest
  | s => do
      let domain ← normalizeDomain (unescape (Utf8.encode (String.ofList s)))
      if domain = "" then throw .emptyHost
      if endsInNumber domain.toList then Host.ipv4 <$> parseIpv4 domain.toList
      else pure (.domain domain)

/-- The host of a URL with another scheme. -/
def parseOtherHost (s : List Char) : Except Fault Host :=
  match s with
  | '[' :: rest => parseBracketed rest
  | s =>
      if s.any deniedInHost then throw .invalidDomainCharacter
      else pure (.other (escape isControlOrForeign (String.ofList s)))

end TerminalAgent.Url
