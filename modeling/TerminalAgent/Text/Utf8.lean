import TerminalAgent.Bytes

/-!
# UTF-8

`encode` and `decode` tie text to its bytes. When bytes are no text, `Fault` says where the first
character that cannot be read begins and how many bytes of it are certainly wrong.
-/

namespace TerminalAgent.Utf8

/-- Why bytes are not UTF-8. -/
structure Fault where
  /-- Number of bytes before the faulty character. -/
  index : Nat
  /-- Length of the faulty sequence, or `none` when the bytes end inside a character. -/
  length : Option Nat
  deriving Repr, DecidableEq

namespace Fault

/-- The sentence that reports a fault. -/
def message : Fault → String
  | ⟨index, some n⟩ => s!"invalid utf-8 sequence of {n} bytes from index {index}"
  | ⟨index, none⟩ => s!"incomplete utf-8 byte sequence from index {index}"

end Fault

/-- What the front of a byte string holds. -/
inductive Front where
  /-- A whole character of that many bytes. -/
  | char (width : Nat)
  /-- That many bytes which begin no character. -/
  | wrong (length : Nat)
  /-- A character whose last bytes are missing. -/
  | cut
  deriving Repr, DecidableEq

/-- A byte that may follow the first byte of a character. -/
def isContinuation (b : UInt8) : Bool :=
  0x80 ≤ b && b ≤ 0xBF

/-- The second bytes that may follow the first byte of a three-byte character. -/
def isSecondOfThree (first second : UInt8) : Bool :=
  if first = 0xE0 then 0xA0 ≤ second && second ≤ 0xBF
  else if first = 0xED then 0x80 ≤ second && second ≤ 0x9F
  else isContinuation second

/-- The second bytes that may follow the first byte of a four-byte character. -/
def isSecondOfFour (first second : UInt8) : Bool :=
  if first = 0xF0 then 0x90 ≤ second && second ≤ 0xBF
  else if first = 0xF4 then 0x80 ≤ second && second ≤ 0x8F
  else isContinuation second

/-- Reads the continuation bytes that remain of a character of the given width, `have_` of whose
    bytes are known to be good. -/
def frontTail (width have_ : Nat) : Nat → Bytes → Front
  | 0, _ => .char width
  | _ + 1, [] => .cut
  | n + 1, b :: rest =>
      if isContinuation b then frontTail width (have_ + 1) n rest else .wrong have_

/-- What a non-empty byte string begins with. -/
def front (first : UInt8) (rest : Bytes) : Front :=
  if first < 0x80 then .char 1
  else if 0xC2 ≤ first && first ≤ 0xDF then frontTail 2 1 1 rest
  else if 0xE0 ≤ first && first ≤ 0xEF then
    match rest with
    | [] => .cut
    | second :: rest => if isSecondOfThree first second then frontTail 3 2 1 rest else .wrong 1
  else if 0xF0 ≤ first && first ≤ 0xF4 then
    match rest with
    | [] => .cut
    | second :: rest => if isSecondOfFour first second then frontTail 4 2 2 rest else .wrong 1
  else .wrong 1

/-- The first fault at or after `index`, skipping the bytes of a character already read. -/
def faultFrom (index skip : Nat) : Bytes → Option Fault
  | [] => none
  | b :: rest =>
      match skip with
      | skip + 1 => faultFrom (index + 1) skip rest
      | 0 =>
        match front b rest with
        | .char width => faultFrom (index + 1) (width - 1) rest
        | .wrong n => some ⟨index, some n⟩
        | .cut => some ⟨index, none⟩

/-- The first fault in a byte string. -/
def fault? (bytes : Bytes) : Option Fault :=
  faultFrom 0 0 bytes

/-- The bytes of a text. -/
def encode (s : String) : Bytes :=
  s.toUTF8.data.toList

/-- The text that bytes spell, if they are UTF-8. -/
def decode? (bytes : Bytes) : Option String :=
  String.fromUTF8? ⟨bytes.toArray⟩

/-- The text that bytes spell, or the fault that keeps them from being text. -/
def decode (bytes : Bytes) : Except Fault String :=
  match decode? bytes with
  | some s => .ok s
  | none => .error ((fault? bytes).getD ⟨bytes.length, none⟩)

/-- The text of bytes in which every faulty sequence is replaced by one mark. -/
def decodeLossy (bytes : Bytes) : String :=
  lossyFrom bytes.length bytes ""
where
  /-- Goes through at most `fuel` sequences, after the text already read. -/
  lossyFrom : Nat → Bytes → String → String
    | 0, _, read => read
    | _ + 1, [], read => read
    | fuel + 1, b :: rest, read =>
        match front b rest with
        | .char width =>
            lossyFrom fuel (rest.drop (width - 1))
              (read ++ (decode? ((b :: rest).take width)).getD "\ufffd")
        | .wrong n => lossyFrom fuel (rest.drop (n - 1)) (read ++ "\ufffd")
        | .cut => read ++ "\ufffd"

theorem decode?_encode (s : String) : decode? (encode s) = some s := by
  simp only [decode?, encode, String.fromUTF8?, String.toUTF8_eq_toByteArray]
  rw [dif_pos s.isValidUTF8]
  rfl

theorem encode_injective {a b : String} (same : encode a = encode b) : a = b := by
  have decoded : decode? (encode a) = decode? (encode b) := by rw [same]
  simpa only [decode?_encode, Option.some.injEq] using decoded

theorem encode_of_decode? {bytes : Bytes} {s : String} (h : decode? bytes = some s) :
    encode s = bytes := by
  simp only [decode?, String.fromUTF8?] at h
  split at h
  next =>
    cases h
    rfl
  next => cases h

@[simp] theorem decode_encode (s : String) : decode (encode s) = .ok s := by
  simp [decode, decode?_encode]

end TerminalAgent.Utf8
