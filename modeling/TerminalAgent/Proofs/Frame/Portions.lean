import TerminalAgent.Proofs.Frame.RoundTrip

/-! # Frames that come in portions

A reader may see the bytes of a frame in any portions. As long as it holds only a part it is asked to
wait, and once it is told more than that, no further bytes change what it is told.
-/

namespace TerminalAgent.Frame

variable {compression : Compression}

/-- Magic and length are judged by bytes that are there. -/
theorem readPrefix_append {input : Bytes} (told : readPrefix input ≠ .ok none) (more : Bytes) :
    readPrefix (input ++ more) = readPrefix input := by
  have short : headerSize ≤ input.length ∨ 4 ≤ input.length ∧ input.take 4 ≠ magic := by
    by_contra few
    obtain ⟨noHeader, noMagic⟩ := not_or.mp few
    apply told
    have front : ¬ ((input.take 4).length = 4 ∧ input.take 4 ≠ magic) := by
      rintro ⟨whole, differs⟩
      refine noMagic ⟨?_, differs⟩
      simp only [List.length_take] at whole
      omega
    have header : (input.take headerSize).length < headerSize := by
      simp only [List.length_take]
      omega
    simp only [readPrefix, if_neg front, if_pos header]
    rfl
  have magical : (input ++ more).take 4 = input.take 4 := by
    apply List.take_append_of_le_length
    simp only [headerSize] at short
    omega
  unfold readPrefix
  rw [magical]
  rcases short with header | ⟨four, differs⟩
  · have length : ((input ++ more).drop 4).take 4 = (input.drop 4).take 4 := by
      simp only [headerSize] at header
      rw [List.drop_append_of_le_length (by omega), List.take_append_of_le_length]
      rw [List.length_drop]
      omega
    rw [List.take_append_of_le_length header, length]
  · have wrong : (input.take 4).length = 4 ∧ input.take 4 ≠ magic :=
      ⟨List.length_take_of_le four, differs⟩
    simp only [if_pos wrong]

/-- A frame that was read and a fault that was found stay what they are. -/
theorem tryDecodeWith_append {input : Bytes} (told : tryDecodeWith compression input ≠ .ok none)
    (more : Bytes) : tryDecodeWith compression (input ++ more) = tryDecodeWith compression input := by
  have lead : readPrefix (input ++ more) = readPrefix input := by
    apply readPrefix_append
    intro waits
    apply told
    simp only [tryDecodeWith, waits, bind, Except.bind]
    rfl
  unfold tryDecodeWith at told ⊢
  rw [lead]
  cases header : readPrefix input with
  | error e => rfl
  | ok announced =>
      cases announced with
      | none => rfl
      | some length =>
          simp only [header, bind, Except.bind] at told ⊢
          cases found : Bytes.split? (prefixSize + length) input with
          | none =>
              rw [found] at told
              exact absurd rfl told
          | some parts => rw [Bytes.split?_more found more]

/-- What is written is a frame within the limit, however it is compressed. -/
theorem frameBytes_of_encodeWith {codec : Codec} {frame : Frame} {bytes : Bytes}
    (encoded : encodeWith compression codec frame = .ok bytes) :
    ∃ flags body, bytes = frameBytes flags body ∧ headerSize + body.length ≤ maxSize := by
  have limit : headerSize ≤ maxSize := by decide
  simp only [encodeWith] at encoded
  split at encoded
  next => cases encoded
  next fits =>
    split at encoded
    next body found =>
      cases encoded
      refine ⟨_, body, rfl, ?_⟩
      have shorter := (compressed?_eq_some found).2
      omega
    next =>
      cases encoded
      exact ⟨_, _, rfl, by omega⟩

theorem tryDecodeWith_part {codec : Codec} {frame : Frame} {bytes front : Bytes}
    (encoded : encodeWith compression codec frame = .ok bytes) (part : front <+: bytes)
    (proper : front ≠ bytes) : tryDecodeWith compression front = .ok none := by
  obtain ⟨flags, body, rfl, fits⟩ := frameBytes_of_encodeWith encoded
  have cut : front.length < (frameBytes flags body).length :=
    Nat.lt_of_le_of_ne part.length_le fun same => proper (part.eq_of_length same)
  rw [List.prefix_iff_eq_take.mp part]
  exact tryDecodeWith_take_frameBytes fits cut

/-- A reader that is not asked to wait is told the same whatever follows, and of a written frame every
    proper part of the front, even the empty one, makes it wait. -/
theorem decoding_incremental :
    (∀ {input : Bytes}, tryDecode input ≠ .ok none →
      ∀ more, tryDecode (input ++ more) = tryDecode input) ∧
    ∀ {codec : Codec} {frame : Frame} {bytes : Bytes}, encode codec frame = .ok bytes →
      ∀ {front : Bytes}, front <+: bytes → front ≠ bytes →
        tryDecode front = .ok none ∧
        decode front = .error (.truncated s!"incomplete frame: have {front.length} bytes") := by
  refine ⟨tryDecodeWith_append, fun encoded front part proper => ?_⟩
  have waits : tryDecode front = .ok none := tryDecodeWith_part encoded part proper
  refine ⟨waits, ?_⟩
  simp only [decode, waits, bind, Except.bind]
  rfl

/-- A payload that cannot be expanded, and a frame of which the flags are still to come. -/
theorem decoding_incremental_damaged :
    let damaged : Bytes := [0x44, 0x54, 0x52, 0x4D, 0, 0, 0, 2, 1, 0xFF]
    let bytes := frameBytes 0xFE [0x61]
    tryDecode damaged ≠ .ok none ∧ tryDecode (damaged ++ magic) = tryDecode damaged ∧
      encode .compressing ⟨0xFF, [0x61]⟩ = .ok bytes ∧ bytes.take 8 <+: bytes ∧
      bytes.take 8 ≠ bytes ∧ tryDecode (bytes.take 8) = .ok none := by
  intro damaged bytes
  have told : tryDecode damaged ≠ .ok none := by
    intro waits
    have refused : (tryDecode damaged).toOption.isSome = false := by decide +kernel
    rw [waits] at refused
    cases refused
  have encoded : encode .compressing ⟨0xFF, [0x61]⟩ = .ok bytes := rfl
  have part : bytes.take 8 <+: bytes := List.take_prefix 8 bytes
  have proper : bytes.take 8 ≠ bytes := by decide
  exact ⟨told, decoding_incremental.1 told magic, encoded, part, proper,
    (decoding_incremental.2 encoded part proper).1⟩

end TerminalAgent.Frame
