/-!
# Markers

Every MessagePack value starts with one byte that says what kind of value follows. `Marker.ofByte`
reads that byte and `Marker.toByte` writes it; no two markers share a byte.
-/

namespace TerminalAgent.MessagePack

/-- The first byte of a value. -/
inductive Marker where
  /-- The integer `n`, at most 127. -/
  | fixPos (n : Nat)
  /-- A map of `n` entries, at most 15. -/
  | fixMap (n : Nat)
  /-- An array of `n` elements, at most 15. -/
  | fixArray (n : Nat)
  /-- A string of `n` bytes, at most 31. -/
  | fixStr (n : Nat)
  | null
  /-- The one byte that begins no value. -/
  | reserved
  | false
  | true
  | bin8
  | bin16
  | bin32
  | ext8
  | ext16
  | ext32
  | f32
  | f64
  | u8
  | u16
  | u32
  | u64
  | i8
  | i16
  | i32
  | i64
  /-- An extension of `2 ^ k` bytes, `k` at most 4. -/
  | fixExt (k : Nat)
  | str8
  | str16
  | str32
  | array16
  | array32
  | map16
  | map32
  /-- The integer `n - 32`, `n` below 32. -/
  | fixNeg (n : Nat)
  deriving Repr, DecidableEq

namespace Marker

/-- The marker that a byte is. -/
def ofByte (b : UInt8) : Marker :=
  let n := b.toNat
  if n < 0x80 then .fixPos n
  else if n < 0x90 then .fixMap (n - 0x80)
  else if n < 0xA0 then .fixArray (n - 0x90)
  else if n < 0xC0 then .fixStr (n - 0xA0)
  else if n < 0xE0 then
    match n with
    | 0xC0 => .null
    | 0xC1 => .reserved
    | 0xC2 => .false
    | 0xC3 => .true
    | 0xC4 => .bin8
    | 0xC5 => .bin16
    | 0xC6 => .bin32
    | 0xC7 => .ext8
    | 0xC8 => .ext16
    | 0xC9 => .ext32
    | 0xCA => .f32
    | 0xCB => .f64
    | 0xCC => .u8
    | 0xCD => .u16
    | 0xCE => .u32
    | 0xCF => .u64
    | 0xD0 => .i8
    | 0xD1 => .i16
    | 0xD2 => .i32
    | 0xD3 => .i64
    | 0xD4 => .fixExt 0
    | 0xD5 => .fixExt 1
    | 0xD6 => .fixExt 2
    | 0xD7 => .fixExt 3
    | 0xD8 => .fixExt 4
    | 0xD9 => .str8
    | 0xDA => .str16
    | 0xDB => .str32
    | 0xDC => .array16
    | 0xDD => .array32
    | 0xDE => .map16
    | _ => .map32
  else .fixNeg (n - 0xE0)

/-- The byte that a marker is. -/
def toByte : Marker → UInt8
  | fixPos n => UInt8.ofNat n
  | fixMap n => UInt8.ofNat (0x80 + n)
  | fixArray n => UInt8.ofNat (0x90 + n)
  | fixStr n => UInt8.ofNat (0xA0 + n)
  | null => 0xC0
  | reserved => 0xC1
  | false => 0xC2
  | true => 0xC3
  | bin8 => 0xC4
  | bin16 => 0xC5
  | bin32 => 0xC6
  | ext8 => 0xC7
  | ext16 => 0xC8
  | ext32 => 0xC9
  | f32 => 0xCA
  | f64 => 0xCB
  | u8 => 0xCC
  | u16 => 0xCD
  | u32 => 0xCE
  | u64 => 0xCF
  | i8 => 0xD0
  | i16 => 0xD1
  | i32 => 0xD2
  | i64 => 0xD3
  | fixExt k => UInt8.ofNat (0xD4 + k)
  | str8 => 0xD9
  | str16 => 0xDA
  | str32 => 0xDB
  | array16 => 0xDC
  | array32 => 0xDD
  | map16 => 0xDE
  | map32 => 0xDF
  | fixNeg n => UInt8.ofNat (0xE0 + n)

/-- The name under which an error reports a marker. -/
def name : Marker → String
  | fixPos n => s!"FixPos({n})"
  | fixMap n => s!"FixMap({n})"
  | fixArray n => s!"FixArray({n})"
  | fixStr n => s!"FixStr({n})"
  | null => "Null"
  | reserved => "Reserved"
  | false => "False"
  | true => "True"
  | bin8 => "Bin8"
  | bin16 => "Bin16"
  | bin32 => "Bin32"
  | ext8 => "Ext8"
  | ext16 => "Ext16"
  | ext32 => "Ext32"
  | f32 => "F32"
  | f64 => "F64"
  | u8 => "U8"
  | u16 => "U16"
  | u32 => "U32"
  | u64 => "U64"
  | i8 => "I8"
  | i16 => "I16"
  | i32 => "I32"
  | i64 => "I64"
  | fixExt k =>
      let size := Nat.pow 2 k
      s!"FixExt{size}"
  | str8 => "Str8"
  | str16 => "Str16"
  | str32 => "Str32"
  | array16 => "Array16"
  | array32 => "Array32"
  | map16 => "Map16"
  | map32 => "Map32"
  | fixNeg n =>
      let value : Int := n - 32
      s!"FixNeg({value})"

theorem toByte_ofByte (b : UInt8) : (ofByte b).toByte = b := by
  have all : ∀ n : Fin 256, (ofByte (UInt8.ofNat n)).toByte = UInt8.ofNat n := by decide +kernel
  simpa using all ⟨b.toNat, b.toNat_lt⟩

end Marker

end TerminalAgent.MessagePack
