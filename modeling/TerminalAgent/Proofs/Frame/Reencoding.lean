import TerminalAgent.Proofs.Frame.Headers
import TerminalAgent.Proofs.Lz4.Expansion

/-! # Frames that are written again

A frame that was read is written again and read back, by either codec, as long as its payload is within
the limit for payloads. Nothing else stands in the way, but this may: the bytes of a frame are limited
when it is read, and a compressed payload only by how far it expands.
-/

namespace TerminalAgent.Frame

variable {input : Bytes} {frame : Frame} {size : Nat}

/-! ## What was read -/

/-- Frames are compressed or not when they are written, so the flag is not kept. -/
theorem flags_of_ofBody {compression : Compression} {flags : UInt8} {body : Bytes}
    (stands : ofBody compression flags body = .ok frame) : frame.flags = setCompressed flags false := by
  unfold ofBody at stands
  split at stands
  next =>
    split at stands
    next => cases stands; rfl
    next => cases stands
  next => cases stands; rfl

theorem setCompressed_of_tryDecode (read : tryDecode input = .ok (some (frame, size))) :
    setCompressed frame.flags false = frame.flags := by
  obtain ⟨flags, body, rest, -, -, -, stands⟩ := tryDecodeWith_eq_some read
  obtain ⟨-, -, -, clear⟩ := setCompressed_laws flags
  rw [flags_of_ofBody stands, clear]

/-- The payload of a frame is what it says, or what this expands to. -/
theorem payload_of_tryDecode (read : tryDecode input = .ok (some (frame, size))) :
    size ≤ maxSize ∧
      (headerSize + frame.payload.length = size ∨
        (∃ flags, input[prefixSize]? = some flags ∧ isCompressed flags = true) ∧
          frame.payload.length ≤ 255 * (size - headerSize - 4)) := by
  obtain ⟨flags, body, rest, rfl, rfl, fits, stands⟩ := tryDecodeWith_eq_some read
  rw [length_frameBytes]
  refine ⟨fits, ?_⟩
  have flag : (frameBytes flags body ++ rest)[prefixSize]? = some flags := rfl
  unfold ofBody at stands
  split at stands
  next compressed =>
    right
    refine ⟨⟨flags, flag, compressed⟩, ?_⟩
    simp only [Compression.lz4] at stands
    cases expanded : Lz4.decompressSized body with
    | error fault =>
        rw [expanded] at stands
        cases stands
    | ok payload =>
        rw [expanded] at stands
        cases stands
        rw [Nat.add_sub_cancel_left]
        exact Lz4.length_le_of_decompressSized expanded
  next =>
    left
    cases stands
    rfl

/-! ## Writing it again -/

/-- A frame that was read is written again by either codec and read back as it is, unless its payload is
    too large for a frame. That is only so with a compressed frame, which expands by 255 at most. -/
theorem encode_of_tryDecode (read : tryDecode input = .ok (some (frame, size))) (codec : Codec) :
    if maxSize - headerSize < frame.payload.length then
      encode codec frame = .error (.frameTooLarge (frame.payload.length + headerSize) maxSize) ∧
        (∃ flags, input[prefixSize]? = some flags ∧ isCompressed flags = true) ∧
          frame.payload.length ≤ 255 * (size - headerSize - 4)
    else
      ∃ bytes, encode codec frame = .ok bytes ∧
        ∀ rest, tryDecode (bytes ++ rest) = .ok (some (frame, bytes.length)) := by
  have limited := encodeWith_limited Compression.lossless_lz4 codec frame
  split
  next large =>
    rw [if_pos large] at limited
    obtain ⟨fits, whole | expands⟩ := payload_of_tryDecode read
    · omega
    · exact ⟨limited, expands⟩
  next fits =>
    rw [if_neg fits] at limited
    obtain ⟨bytes, encoded, written⟩ := limited
    refine ⟨bytes, encoded, fun rest => ?_⟩
    have readBack := written.readBack rest
    rwa [setCompressed_of_tryDecode read] at readBack

/-- A compressed payload with flags of its own, in front of some other bytes. -/
theorem encode_of_tryDecode_compressed :
    let input : Bytes := [0x44, 0x54, 0x52, 0x4D, 0, 0, 0, 10, 0xFF, 5, 0, 0, 0, 0x10, 0x61, 1, 0, 0, 0x44]
    let frame : Frame := ⟨0xFE, [0x61, 0x61, 0x61, 0x61, 0x61]⟩
    tryDecode input = .ok (some (frame, 18)) ∧
      ∃ bytes, encode .plain frame = .ok bytes ∧
        ∀ rest, tryDecode (bytes ++ rest) = .ok (some (frame, bytes.length)) := by
  intro input frame
  have read : tryDecode input = .ok (some (frame, 18)) := by decide +kernel
  exact ⟨read, encode_of_tryDecode read .plain⟩

/-- A frame around a block of zeros, which is read whatever it expands to. -/
theorem tryDecode_zeros {n m : Nat} {last : UInt8} (short : last ≠ 255)
    (expands : 25 + 255 * n + last.toNat = m) (word : m < 0x100000000)
    (fits : headerSize + (n + 15) ≤ maxSize) :
    ∃ payload, payload.length = m ∧
      tryDecode (frameBytes compressedFlag (Bytes.littleEndian 4 m ++ Lz4.zeros n last)) =
        .ok (some (⟨0, payload⟩, headerSize + (n + 15))) := by
  obtain ⟨payload, expanded, size⟩ := Lz4.decompress_zeros short (Nat.le_of_eq expands)
  rw [expands] at size
  have sized : Lz4.decompressSized (Bytes.littleEndian 4 m ++ Lz4.zeros n last) = .ok payload := by
    rw [← size] at word ⊢
    rw [Lz4.decompressSized_append word, size]
    exact expanded
  have stands : ofBody .lz4 compressedFlag (Bytes.littleEndian 4 m ++ Lz4.zeros n last) =
      .ok ⟨0, payload⟩ := by
    simp only [ofBody, Compression.lz4, sized]
    rfl
  have length : (Bytes.littleEndian 4 m ++ Lz4.zeros n last).length = n + 15 := by
    rw [List.length_append, Bytes.length_littleEndian, Lz4.length_zeros]
    omega
  rw [← length] at fits ⊢
  refine ⟨payload, size, ?_⟩
  have read : tryDecode (frameBytes compressedFlag _ ++ []) = _ := tryDecodeWith_frameBytes fits []
  rw [List.append_nil, stands, length_frameBytes] at read
  exact read

/-- Of 65816 bytes a frame is read that no codec writes again. -/
theorem encode_expanded : ∃ frame,
    tryDecode (frameBytes compressedFlag (Bytes.littleEndian 4 16777208 ++ Lz4.zeros 65792 223)) =
      .ok (some (frame, 65816)) ∧
    ∀ codec, encode codec frame = .error (.frameTooLarge 16777217 maxSize) := by
  have expands : 25 + 255 * 65792 + (223 : UInt8).toNat = 16777208 := by decide +kernel
  obtain ⟨payload, size, read⟩ := tryDecode_zeros (by decide) expands (by decide) (by decide)
  refine ⟨⟨0, payload⟩, read, fun codec => ?_⟩
  have large : maxSize - headerSize < payload.length := by
    rw [size]
    decide
  have limited := encodeWith_limited Compression.lossless_lz4 codec ⟨0, payload⟩
  rw [if_pos large, size] at limited
  exact limited

end TerminalAgent.Frame
