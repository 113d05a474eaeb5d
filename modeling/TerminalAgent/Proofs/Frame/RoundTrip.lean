import Mathlib.Data.List.Forall2
import TerminalAgent.Frame.Codec
import TerminalAgent.Proofs.Lz4.Compression

/-! # Frames are read back

What is compressed expands to what it was, so an encoded frame is read back with its payload whatever
follows it, and no proper part of it passes for a frame or for damage.
-/

namespace TerminalAgent

/-- Whatever is small enough for a word of 32 bits to tell its size is expanded to what it was. -/
def Compression.Lossless (compression : Compression) : Prop :=
  ∀ payload : Bytes, payload.length < 0x100000000 →
    compression.expand (compression.compress payload) = .ok payload

theorem Compression.lossless_lz4 : Compression.lz4.Lossless := by
  intro payload word
  simp only [Compression.lz4, Lz4.decompressSized_compressSized word]
  rfl

namespace Frame

variable {compression : Compression}

/-! ## Flags -/

theorem setCompressed_laws (flags : UInt8) :
    isCompressed (setCompressed flags true) = true ∧
    isCompressed (setCompressed flags false) = false ∧
    setCompressed (setCompressed flags true) false = setCompressed flags false ∧
    setCompressed (setCompressed flags false) false = setCompressed flags false := by
  have all : ∀ n : Fin 256,
      isCompressed (setCompressed (UInt8.ofNat n) true) = true ∧
      isCompressed (setCompressed (UInt8.ofNat n) false) = false ∧
      setCompressed (setCompressed (UInt8.ofNat n) true) false =
        setCompressed (UInt8.ofNat n) false ∧
      setCompressed (setCompressed (UInt8.ofNat n) false) false =
        setCompressed (UInt8.ofNat n) false := by
    decide +kernel
  simpa using all ⟨flags.toNat, flags.toNat_lt⟩

/-! ## Encoding -/

@[simp] theorem length_frameBytes (flags : UInt8) (body : Bytes) :
    (frameBytes flags body).length = headerSize + body.length := by
  simp only [frameBytes, List.length_append, List.length_cons, Bytes.length_bigEndian, headerSize,
    show magic.length = 4 from rfl]
  omega

theorem compressed?_eq_some {codec : Codec} {payload body : Bytes}
    (h : compressed? compression codec payload = some body) :
    compression.compress payload = body ∧ body.length < payload.length := by
  cases codec with
  | plain => cases h
  | compressing =>
      simp only [compressed?] at h
      split at h
      next => cases h
      split at h
      next shorter => cases h; exact ⟨rfl, shorter⟩
      next => cases h

/-- A payload within the limit is encoded in a body that is no longer and stands for it. -/
theorem encodeWith_eq (lossless : compression.Lossless) (codec : Codec) (frame : Frame)
    (fits : frame.payload.length ≤ maxSize - headerSize) :
    ∃ flags body, encodeWith compression codec frame = .ok (frameBytes flags body) ∧
      body.length ≤ frame.payload.length ∧
      ofBody compression flags body = .ok ⟨setCompressed frame.flags false, frame.payload⟩ := by
  obtain ⟨compressedSet, compressedClear, clearSet, clearClear⟩ := setCompressed_laws frame.flags
  have inside : ¬ maxSize - headerSize < frame.payload.length := Nat.not_lt.mpr fits
  simp only [encodeWith, if_neg inside]
  cases found : compressed? compression codec frame.payload with
  | none =>
      refine ⟨_, _, rfl, Nat.le_refl _, ?_⟩
      simp only [ofBody, compressedClear, Bool.false_eq_true, if_false, clearClear]
      rfl
  | some body =>
      obtain ⟨rfl, shorter⟩ := compressed?_eq_some found
      have word : frame.payload.length < 0x100000000 := by
        simp only [maxSize, headerSize] at fits
        omega
      refine ⟨_, _, rfl, Nat.le_of_lt shorter, ?_⟩
      simp only [ofBody, compressedSet, if_true, lossless _ word, clearSet]
      rfl

theorem encode_eq (codec : Codec) (frame : Frame)
    (fits : frame.payload.length ≤ maxSize - headerSize) :
    ∃ flags body, encode codec frame = .ok (frameBytes flags body) ∧
      body.length ≤ frame.payload.length ∧
      ofBody .lz4 flags body = .ok ⟨setCompressed frame.flags false, frame.payload⟩ :=
  encodeWith_eq Compression.lossless_lz4 codec frame fits

theorem fits_of_encode {codec : Codec} {frame : Frame} {bytes : Bytes}
    (encoded : encode codec frame = .ok bytes) :
    frame.payload.length ≤ maxSize - headerSize := by
  by_contra large
  simp only [encode, encodeWith, if_pos (Nat.lt_of_not_le large)] at encoded
  cases encoded

/-! ## Decoding -/

/-- The bytes in front of the flags. -/
def lead (n : Nat) : Bytes := magic ++ Bytes.bigEndian 4 n

@[simp] theorem length_lead (n : Nat) : (lead n).length = prefixSize := by
  simp [lead, magic, prefixSize]

theorem frameBytes_eq_lead (flags : UInt8) (body : Bytes) :
    frameBytes flags body = lead (1 + body.length) ++ flags :: body := rfl

/-- The length that a frame announces is what follows the first eight bytes. -/
theorem ofBigEndian_lead {n : Nat} (fits : prefixSize + n ≤ maxSize) (tail : Bytes) :
    Bytes.ofBigEndian (((lead n ++ tail).drop 4).take 4) = n := by
  have small : n < 0x100000000 := by
    simp only [maxSize, prefixSize] at fits
    omega
  have word : n < Nat.pow 256 4 := small
  have length : ((lead n ++ tail).drop 4).take 4 = Bytes.bigEndian 4 n := by
    rw [lead, List.append_assoc]
    exact List.take_left' (Bytes.length_bigEndian 4 n)
  rw [length, Bytes.ofBigEndian_bigEndian, Nat.mod_eq_of_lt word]

theorem readPrefix_lead {n : Nat} {tail : Bytes} (more : tail ≠ [])
    (fits : prefixSize + n ≤ maxSize) : readPrefix (lead n ++ tail) = .ok (some n) := by
  have front : (lead n ++ tail).take 4 = magic := rfl
  have header : ¬ ((lead n ++ tail).take headerSize).length < headerSize := by
    have := List.length_pos_iff.mpr more
    simp only [List.length_take, List.length_append, length_lead, headerSize, prefixSize]
    omega
  simp only [readPrefix, front, ne_eq, not_true_eq_false, and_false, if_false, if_neg header,
    ofBigEndian_lead fits tail, if_neg (Nat.not_lt.mpr fits)]
  rfl

theorem readPrefix_take_lead {n k : Nat} {tail : Bytes} (short : k < headerSize) :
    readPrefix ((lead n ++ tail).take k) = .ok none := by
  have front : ¬ ((((lead n ++ tail).take k).take 4).length = 4 ∧
      ((lead n ++ tail).take k).take 4 ≠ magic) := by
    rintro ⟨whole, differs⟩
    apply differs
    rw [List.take_take] at whole ⊢
    have least : min 4 k = 4 := by
      simp only [List.length_take] at whole
      omega
    rw [least]
    rfl
  have header : (((lead n ++ tail).take k).take headerSize).length < headerSize := by
    simp only [List.length_take]
    omega
  simp only [readPrefix, if_neg front, if_pos header]
  rfl

/-- A whole frame is what its flags and body stand for, whatever follows. -/
theorem tryDecodeWith_frameBytes {flags : UInt8} {body : Bytes}
    (fits : headerSize + body.length ≤ maxSize) (rest : Bytes) :
    tryDecodeWith compression (frameBytes flags body ++ rest) =
      (ofBody compression flags body).map fun frame =>
        some (frame, (frameBytes flags body).length) := by
  have size : prefixSize + (1 + body.length) = (frameBytes flags body).length := by
    simp only [length_frameBytes, prefixSize, headerSize]
    omega
  have header : readPrefix (frameBytes flags body ++ rest) = .ok (some (1 + body.length)) := by
    rw [frameBytes_eq_lead, List.append_assoc]
    apply readPrefix_lead (by simp)
    rw [size]
    simpa using fits
  have content : (frameBytes flags body).drop prefixSize = flags :: body := rfl
  simp only [tryDecodeWith, header, bind, Except.bind, size, Bytes.split?_append, content]
  cases ofBody compression flags body <;> rfl

/-- A frame that is cut anywhere asks for more. -/
theorem tryDecodeWith_take_frameBytes {flags : UInt8} {body : Bytes} {k : Nat}
    (fits : headerSize + body.length ≤ maxSize) (cut : k < (frameBytes flags body).length) :
    tryDecodeWith compression ((frameBytes flags body).take k) = .ok none := by
  by_cases short : k < headerSize
  · simp only [tryDecodeWith, frameBytes_eq_lead, readPrefix_take_lead short, bind, Except.bind]
    rfl
  · have parts : (frameBytes flags body).take k =
        lead (1 + body.length) ++ (flags :: body).take (k - prefixSize) := by
      rw [frameBytes_eq_lead, List.take_append, length_lead, List.take_of_length_le]
      simp only [length_lead, prefixSize, headerSize] at short ⊢
      omega
    have more : (flags :: body).take (k - prefixSize) ≠ [] := by
      simp only [ne_eq, List.take_eq_nil_iff, reduceCtorEq, or_false, prefixSize]
      simp only [headerSize] at short
      omega
    have header : readPrefix ((frameBytes flags body).take k) = .ok (some (1 + body.length)) := by
      rw [parts]
      apply readPrefix_lead more
      simp only [headerSize, prefixSize] at fits ⊢
      omega
    have missing : Bytes.split? (prefixSize + (1 + body.length)) ((frameBytes flags body).take k) =
        none := by
      simp only [length_frameBytes] at cut
      simp only [Bytes.split?, List.take_take, List.length_take, length_frameBytes, prefixSize,
        headerSize] at cut ⊢
      rw [if_neg (by omega)]
    simp only [tryDecodeWith, header, bind, Except.bind, missing]
    rfl

/-! ## The limit -/

/-- What may be relied on when the bytes are written for the frame. No codec is needed to read them. -/
structure Written (compression : Compression) (frame : Frame) (bytes : Bytes) : Prop where
  noExpansion : bytes.length ≤ frame.payload.length + headerSize
  fits : bytes.length ≤ maxSize
  announced : prefixSize + Bytes.ofBigEndian ((bytes.drop 4).take 4) = bytes.length
  readBack : ∀ rest, tryDecodeWith compression (bytes ++ rest) =
    .ok (some (⟨setCompressed frame.flags false, frame.payload⟩, bytes.length))

theorem written_frameBytes {frame : Frame} {flags : UInt8} {body : Bytes}
    (fits : frame.payload.length ≤ maxSize - headerSize)
    (noLonger : body.length ≤ frame.payload.length)
    (stands : ofBody compression flags body =
      .ok ⟨setCompressed frame.flags false, frame.payload⟩) :
    Written compression frame (frameBytes flags body) := by
  have room : headerSize + body.length ≤ maxSize := by
    simp only [maxSize, headerSize] at fits ⊢
    omega
  have whole : prefixSize + (1 + body.length) = (frameBytes flags body).length := by
    simp only [length_frameBytes, prefixSize, headerSize]
    omega
  constructor
  case noExpansion =>
    rw [length_frameBytes]
    omega
  case fits => rwa [length_frameBytes]
  case announced =>
    have small : prefixSize + (1 + body.length) ≤ maxSize := by rwa [whole, length_frameBytes]
    rw [← whole, frameBytes_eq_lead, ofBigEndian_lead small]
  case readBack =>
    intro rest
    rw [tryDecodeWith_frameBytes room, stands]
    rfl

/-- A payload is refused exactly if it does not fit into the largest frame. Otherwise it is written
    in a frame that is no longer than payload and header, and is read back with its length whatever
    follows it. Of the compression only that it is lossless matters: it need not make anything
    smaller. -/
theorem encodeWith_limited (lossless : compression.Lossless) (codec : Codec) (frame : Frame) :
    if maxSize - headerSize < frame.payload.length then
      encodeWith compression codec frame =
        .error (.frameTooLarge (frame.payload.length + headerSize) maxSize)
    else ∃ bytes, encodeWith compression codec frame = .ok bytes ∧
      Written compression frame bytes := by
  split
  next large =>
    simp only [encodeWith, if_pos large]
    rfl
  next fits =>
    have fits := Nat.le_of_not_lt fits
    obtain ⟨flags, body, encoded, noLonger, stands⟩ := encodeWith_eq lossless codec frame fits
    exact ⟨_, encoded, written_frameBytes fits noLonger stands⟩

theorem encodeWith_limited_lz4 : Compression.lz4.Lossless ∧
    ∃ bytes, encodeWith .lz4 .compressing ⟨0xFE, List.replicate 2000 0x61⟩ = .ok bytes ∧
      Written .lz4 ⟨0xFE, List.replicate 2000 0x61⟩ bytes := by
  -- as a closed term the payload would be evaluated to see whether it is too large
  have size : (List.replicate 2000 (0x61 : UInt8)).length = 2000 := List.length_replicate
  generalize List.replicate 2000 (0x61 : UInt8) = payload at size ⊢
  have small : ¬ maxSize - headerSize < payload.length := by
    rw [size]
    decide
  have limited := encodeWith_limited Compression.lossless_lz4 .compressing ⟨0xFE, payload⟩
  rw [if_neg small] at limited
  exact ⟨Compression.lossless_lz4, limited⟩

/-! ## Reading frame after frame -/

/-- The bytes are read as the frame, and no proper part of their front is read at all. -/
structure Spells (bytes : Bytes) (frame : Frame) : Prop where
  nonempty : bytes ≠ []
  whole : ∀ rest, decode (bytes ++ rest) = .ok (frame, bytes.length)
  cut : ∀ k < bytes.length, ∃ reason, decode (bytes.take k) = .error (.truncated reason)

theorem spells_encode {codec : Codec} {frame : Frame} {bytes : Bytes}
    (encoded : encode codec frame = .ok bytes) :
    Spells bytes ⟨setCompressed frame.flags false, frame.payload⟩ := by
  have fits := fits_of_encode encoded
  obtain ⟨flags, body, same, shorter, stands⟩ := encode_eq codec frame fits
  obtain rfl : frameBytes flags body = bytes := by
    rw [same] at encoded
    exact Except.ok.inj encoded
  have room : headerSize + body.length ≤ maxSize := by
    simp only [maxSize, headerSize] at fits ⊢
    omega
  refine ⟨by simp [frameBytes_eq_lead], ?_, ?_⟩
  · intro rest
    simp only [decode, tryDecode, (written_frameBytes fits shorter stands).readBack, bind,
      Except.bind]
    rfl
  · intro k cut
    simp only [decode, tryDecode, tryDecodeWith_take_frameBytes room cut, bind, Except.bind]
    exact ⟨_, rfl⟩

theorem readFrom_spells {bytes : Bytes} {frame : Frame} (h : Spells bytes frame) (fuel : Nat)
    (rest : Bytes) (frames : List Frame) :
    readFrom (fuel + 1) (bytes ++ rest) frames = readFrom fuel rest (frame :: frames) := by
  obtain ⟨b, more, rfl⟩ := List.exists_cons_of_ne_nil h.nonempty
  have read := h.whole rest
  rw [List.cons_append] at read
  simp only [List.cons_append, readFrom, read]
  rw [← List.cons_append, List.drop_left]

theorem readFrom_flatten {bytes : List Bytes} {frames : List Frame}
    (h : List.Forall₂ Spells bytes frames) (fuel : Nat) (rest : Bytes) (before : List Frame) :
    readFrom (bytes.length + fuel) (bytes.flatten ++ rest) before =
      readFrom fuel rest (frames.reverse ++ before) := by
  induction h generalizing before with
  | nil => simp
  | @cons first frame others frames spells _ ih =>
      rw [List.length_cons, Nat.add_right_comm, List.flatten_cons, List.append_assoc,
        readFrom_spells spells, ih, List.reverse_cons, List.append_assoc]
      rfl

theorem length_le_length_flatten {bytes : List Bytes} {frames : List Frame}
    (h : List.Forall₂ Spells bytes frames) : bytes.length ≤ bytes.flatten.length := by
  induction h with
  | nil => simp
  | cons spells _ ih =>
      have := List.length_pos_iff.mpr spells.nonempty
      simp only [List.length_cons, List.flatten_cons, List.length_append]
      omega

/-- Frames, and then a part of one more: the frames are read, and reading ends there. -/
theorem readAll_flatten {bytes : List Bytes} {frames : List Frame} {next : Bytes} {last : Frame}
    (h : List.Forall₂ Spells bytes frames) (partly : Spells next last) {k : Nat}
    (cut : k < next.length) :
    ∃ fault, readAll (bytes.flatten ++ next.take k) = (frames, fault) ∧
      ∀ error, fault = some error → ∃ reason, error = .truncated reason := by
  obtain ⟨fuel, enough⟩ : ∃ fuel,
      (bytes.flatten ++ next.take k).length + 1 = bytes.length + (fuel + 1) := by
    have := length_le_length_flatten h
    refine ⟨(bytes.flatten ++ next.take k).length - bytes.length, ?_⟩
    simp only [List.length_append]
    omega
  rw [readAll, enough, readFrom_flatten h]
  cases tail : next.take k with
  | nil => exact ⟨none, by simp [readFrom], by simp⟩
  | cons b rest =>
      obtain ⟨reason, ends⟩ := partly.cut k cut
      rw [tail] at ends
      refine ⟨some (.truncated reason), by simp [readFrom, ends], ?_⟩
      rintro error ⟨rfl⟩
      exact ⟨reason, rfl⟩

end Frame

end TerminalAgent
