import TerminalAgent.Message.Error
import TerminalAgent.Lz4.Compressor

/-!
# Frames

A frame is four magic bytes, the length of what follows as a word of 32 bits, a byte of flags and a
payload. One flag says that the payload is compressed; a payload is compressed when it is large and
becomes smaller by it. `Frame.tryDecode` reads a frame off the front of the input, or asks for more;
`Frame.readAll` reads all frames of the input. `Frame.encodeWith` and `Frame.tryDecodeWith` leave
open how payloads are compressed; what is sent is compressed by `Compression.lz4`.
-/

namespace TerminalAgent

/-- A frame, with its payload as it is before compression. -/
structure Frame where
  flags : UInt8
  payload : Bytes
  deriving Repr, DecidableEq

/-- How frames are encoded. -/
inductive Codec where
  /-- Large payloads are compressed. -/
  | compressing
  | plain
  deriving Repr, DecidableEq

/-- A way to make payloads smaller, and to get them back. -/
structure Compression where
  compress : Bytes → Bytes
  /-- What was compressed, or why the bytes cannot be expanded. -/
  expand : Bytes → Except String Bytes

/-- Blocks of LZ4 behind the size of what they expand to. -/
def Compression.lz4 : Compression where
  compress := Lz4.compressSized
  expand := fun body => (Lz4.decompressSized body).mapError Lz4.Fault.message

namespace Frame

/-- The bytes "DTRM". -/
def magic : Bytes := [0x44, 0x54, 0x52, 0x4D]

/-- Payloads up to this size are not compressed. -/
def compressionThreshold : Nat := 1024

/-- The largest frame. -/
def maxSize : Nat := 16 * 1024 * 1024

/-- Magic and length. -/
def prefixSize : Nat := 8

/-- Magic, length and flags. -/
def headerSize : Nat := 9

/-- The flag of a compressed payload. -/
def compressedFlag : UInt8 := 1

def isCompressed (flags : UInt8) : Bool :=
  flags &&& compressedFlag != 0

def setCompressed (flags : UInt8) (compressed : Bool) : UInt8 :=
  if compressed then flags ||| compressedFlag else flags &&& ~~~compressedFlag

/-- The compressed form of a payload, where it is worth it. -/
def compressed? (compression : Compression) (codec : Codec) (payload : Bytes) : Option Bytes :=
  match codec with
  | .plain => none
  | .compressing =>
      let size := payload.length
      if size ≤ compressionThreshold then none
      else
        let body := compression.compress payload
        if body.length < size then some body else none

/-- A frame around a body that is already in its final form. -/
def frameBytes (flags : UInt8) (body : Bytes) : Bytes :=
  magic ++ Bytes.bigEndian 4 (1 + body.length) ++ flags :: body

/-- The bytes of a frame. -/
def encodeWith (compression : Compression) (codec : Codec) (frame : Frame) :
    Except ProtocolError Bytes :=
  let size := frame.payload.length
  if maxSize - headerSize < size then throw (.frameTooLarge (size + headerSize) maxSize)
  else
    match compressed? compression codec frame.payload with
    | some body => pure (frameBytes (setCompressed frame.flags true) body)
    | none => pure (frameBytes (setCompressed frame.flags false) frame.payload)

def encode (codec : Codec) (frame : Frame) : Except ProtocolError Bytes :=
  encodeWith .lz4 codec frame

/-- The length that the header announces, once the header is there. -/
def readPrefix (input : Bytes) : Except ProtocolError (Option Nat) :=
  let front := input.take 4
  if front.length = 4 ∧ front ≠ magic then
    throw (.wrongMagic (Bytes.ofBigEndian magic) (Bytes.ofBigEndian front))
  else if (input.take headerSize).length < headerSize then pure none
  else
    let length := Bytes.ofBigEndian ((input.drop 4).take 4)
    if maxSize < prefixSize + length then throw (.frameTooLarge (prefixSize + length) maxSize)
    else pure (some length)

/-- The frame whose flags and body are given. -/
def ofBody (compression : Compression) (flags : UInt8) (body : Bytes) :
    Except ProtocolError Frame :=
  if isCompressed flags then
    match compression.expand body with
    | .ok payload => pure ⟨setCompressed flags false, payload⟩
    | .error fault => throw (.decompression fault)
  else pure ⟨setCompressed flags false, body⟩

/-- Reads the frame at the front of the input and tells how many bytes it takes, or `none` if the
    input holds only part of it. -/
def tryDecodeWith (compression : Compression) (input : Bytes) :
    Except ProtocolError (Option (Frame × Nat)) := do
  match ← readPrefix input with
  | none => pure none
  | some length =>
      let total := prefixSize + length
      match Bytes.split? total input with
      | none => pure none
      | some (whole, _) =>
          match whole.drop prefixSize with
          | [] => throw (.deserialization "frame content must contain a flags byte")
          | flags :: body =>
              let frame ← ofBody compression flags body
              pure (some (frame, total))

def tryDecode (input : Bytes) : Except ProtocolError (Option (Frame × Nat)) :=
  tryDecodeWith .lz4 input

/-- Reads the frame at the front of the input, which must be whole. -/
def decode (input : Bytes) : Except ProtocolError (Frame × Nat) := do
  match ← tryDecode input with
  | some decoded => pure decoded
  | none =>
      let count := input.length
      throw (.truncated s!"incomplete frame: have {count} bytes")

/-- Reads frames until the input ends or one cannot be read. A frame takes at least a byte, so
    `fuel` that is longer than the input does not run out. -/
def readFrom : (fuel : Nat) → Bytes → List Frame → List Frame × Option ProtocolError
  | 0, _, frames => (frames.reverse, none)
  | _ + 1, [], frames => (frames.reverse, none)
  | fuel + 1, input@(_ :: _), frames =>
      match decode input with
      | .ok (frame, size) => readFrom fuel (input.drop size) (frame :: frames)
      | .error e => (frames.reverse, some e)

/-- All frames of the input, and the error that ends them, if any. -/
def readAll (input : Bytes) : List Frame × Option ProtocolError :=
  readFrom (input.length + 1) input []

end Frame

end TerminalAgent
