import TerminalAgent.Bytes
import TerminalAgent.Text.Utf8
import TerminalAgent.Binary64.Basic
import TerminalAgent.MessagePack.Marker

/-!
# Writing values

Every value is written in its shortest form. An integer that is not negative uses the forms without
a sign.
-/

namespace TerminalAgent.MessagePack.Writer

/-- A marker followed by a number of `w` bytes. -/
def marked (marker : Marker) (w n : Nat) : Bytes :=
  marker.toByte :: Bytes.bigEndian w n

/-- A natural number below `0x10000000000000000`. -/
def natural (n : Nat) : Bytes :=
  if n < 0x80 then [(Marker.fixPos n).toByte]
  else if n < 0x100 then marked .u8 1 n
  else if n < 0x10000 then marked .u16 2 n
  else if n < 0x100000000 then marked .u32 4 n
  else marked .u64 8 n

/-- An integer of 64 bits. -/
def integer (i : Int) : Bytes :=
  if 0 ≤ i then natural i.toNat
  else if -0x20 ≤ i then [(Marker.fixNeg (i + 32).toNat).toByte]
  else if -0x80 ≤ i then marked .i8 1 (i + 0x100).toNat
  else if -0x8000 ≤ i then marked .i16 2 (i + 0x10000).toNat
  else if -0x80000000 ≤ i then marked .i32 4 (i + 0x100000000).toNat
  else marked .i64 8 (i + 0x10000000000000000).toNat

def bool (b : Bool) : Bytes :=
  [(if b then Marker.true else Marker.false).toByte]

def float (x : Binary64) : Bytes :=
  marked .f64 8 x.bits.toNat

/-- The head of a string of `n` bytes. -/
def strHead (n : Nat) : Bytes :=
  if n < 0x20 then [(Marker.fixStr n).toByte]
  else if n < 0x100 then marked .str8 1 n
  else if n < 0x10000 then marked .str16 2 n
  else marked .str32 4 n

def text (s : String) : Bytes :=
  let bytes := Utf8.encode s
  strHead bytes.length ++ bytes

/-- The head of a binary of `n` bytes. -/
def binHead (n : Nat) : Bytes :=
  if n < 0x100 then marked .bin8 1 n
  else if n < 0x10000 then marked .bin16 2 n
  else marked .bin32 4 n

def binary (bytes : Bytes) : Bytes :=
  binHead bytes.length ++ bytes

/-- The head of a map of `n` entries. -/
def mapHead (n : Nat) : Bytes :=
  if n < 0x10 then [(Marker.fixMap n).toByte]
  else if n < 0x10000 then marked .map16 2 n
  else marked .map32 4 n

/-- A record as a map from the names of its fields to values already written. -/
def record (fields : List (String × Bytes)) : Bytes :=
  mapHead fields.length ++ fields.flatMap fun field => text field.1 ++ field.2

end TerminalAgent.MessagePack.Writer
