import TerminalAgent.Proofs.Frame.RoundTrip

/-! # Frames by their headers

What is read off the front of an input is decided by the header there: it is refused, or more is asked
for, or it makes a frame of the bytes that it announces, whatever follows them. So frames are read one
after the other.
-/

namespace TerminalAgent

theorem Bytes.littleEndian_ofLittleEndian (bytes : Bytes) :
    littleEndian bytes.length (ofLittleEndian bytes) = bytes := by
  induction bytes with
  | nil => rfl
  | cons b rest ih =>
      have small := b.toNat_lt
      have low : (b.toNat + 256 * ofLittleEndian rest) % 256 = b.toNat := by omega
      have high : (b.toNat + 256 * ofLittleEndian rest) / 256 = ofLittleEndian rest := by omega
      simp only [List.length_cons, ofLittleEndian, littleEndian, low, high, ih, UInt8.ofNat_toNat]

theorem Bytes.bigEndian_ofBigEndian (bytes : Bytes) :
    bigEndian bytes.length (ofBigEndian bytes) = bytes := by
  have same := littleEndian_ofLittleEndian bytes.reverse
  rw [List.length_reverse] at same
  rw [bigEndian, ofBigEndian, same, List.reverse_reverse]

/-! ## Headers -/

namespace Frame

variable {compression : Compression}

/-- The length that the bytes in front of a frame announce. -/
def announced (start : Bytes) : Nat := Bytes.ofBigEndian (start.drop 4)

/-- The bytes can stand in front of a frame. -/
def CanLead (start : Bytes) : Prop :=
  start.take 4 = magic ∧ prefixSize + announced start ≤ maxSize

instance : DecidablePred CanLead := fun _ => inferInstanceAs (Decidable (_ ∧ _))

theorem eq_lead {start : Bytes} (size : start.length = prefixSize) (magical : start.take 4 = magic) :
    start = lead (announced start) := by
  have word : (start.drop 4).length = 4 := by
    rw [List.length_drop, size]
    rfl
  have same := Bytes.bigEndian_ofBigEndian (start.drop 4)
  rw [word] at same
  rw [lead, announced, same, ← magical, List.take_append_drop]

/-- A header that is taken has the magic bytes, a length within the limit and a byte behind it. -/
theorem readPrefix_eq_some {input : Bytes} {n : Nat} (read : readPrefix input = .ok (some n)) :
    ∃ tail, input = lead n ++ tail ∧ tail ≠ [] ∧ prefixSize + n ≤ maxSize := by
  unfold readPrefix at read
  dsimp only at read
  split at read
  next => cases read
  next notForeign =>
    split at read
    next => cases read
    next header =>
      split at read
      next => cases read
      next fits =>
        cases read
        have long : headerSize ≤ input.length := by
          simp only [List.length_take] at header
          omega
        simp only [headerSize] at long
        have magical : input.take 4 = magic := by
          by_contra foreign
          exact notForeign ⟨List.length_take_of_le (by omega), foreign⟩
        have size : (input.take prefixSize).length = prefixSize :=
          List.length_take_of_le (by simp only [prefixSize]; omega)
        have start : input.take prefixSize = lead (announced (input.take prefixSize)) := by
          apply eq_lead size
          rw [List.take_take, ← magical]
          rfl
        have same : announced (input.take prefixSize) = Bytes.ofBigEndian ((input.drop 4).take 4) := by
          rw [announced, List.drop_take]
          rfl
        rw [same] at start
        refine ⟨input.drop prefixSize, ?_, ?_, Nat.le_of_not_lt fits⟩
        · rw [← start, List.take_append_drop]
        · simp only [ne_eq, List.drop_eq_nil_iff, prefixSize]
          omega

/-- What is read is a whole frame in front of the input. -/
theorem tryDecodeWith_eq_some {input : Bytes} {frame : Frame} {size : Nat}
    (read : tryDecodeWith compression input = .ok (some (frame, size))) :
    ∃ flags body rest, input = frameBytes flags body ++ rest ∧ size = (frameBytes flags body).length ∧
      headerSize + body.length ≤ maxSize ∧ ofBody compression flags body = .ok frame := by
  obtain ⟨length, header, read⟩ := bind_eq_ok.mp read
  cases length with
  | none => cases read
  | some n =>
      obtain ⟨tail, rfl, -, fits⟩ := readPrefix_eq_some header
      dsimp only at read
      split at read
      next => cases read
      next whole rest found =>
        obtain ⟨same, size⟩ := Bytes.split?_eq_some found
        have front : whole.take prefixSize = lead n := by
          have taken := congrArg (List.take prefixSize) same
          rw [List.take_left' (length_lead n), List.take_append_of_le_length] at taken
          · exact taken.symm
          · exact size ▸ Nat.le_add_right _ _
        split at read
        next => cases read
        next flags body content =>
          obtain ⟨frame, stands, read⟩ := bind_eq_ok.mp read
          cases read
          have parts : whole = lead n ++ flags :: body := by
            rw [← front, ← content, List.take_append_drop]
          obtain rfl : n = 1 + body.length := by
            rw [parts, List.length_append, length_lead, List.length_cons] at size
            omega
          refine ⟨flags, body, rest, by rw [same, parts, frameBytes_eq_lead], ?_, ?_, stands⟩
          · rw [frameBytes_eq_lead, ← parts, size]
          · simp only [prefixSize, headerSize] at fits ⊢
            omega

theorem tryDecode_of_decode {input : Bytes} {frame : Frame} {size : Nat}
    (read : decode input = .ok (frame, size)) : tryDecode input = .ok (some (frame, size)) := by
  obtain ⟨decoded, found, read⟩ := bind_eq_ok.mp read
  cases decoded with
  | none => cases read
  | some decoded =>
      cases read
      exact found

theorem size_pos_of_decode {input : Bytes} {frame : Frame} {size : Nat}
    (read : decode input = .ok (frame, size)) : 0 < size := by
  obtain ⟨flags, body, rest, -, rfl, -⟩ := tryDecodeWith_eq_some (tryDecode_of_decode read)
  rw [length_frameBytes, headerSize]
  omega

/-- A body is refused only because it cannot be expanded. -/
theorem ofBody_error {flags : UInt8} {body : Bytes} {e : ProtocolError}
    (refused : ofBody compression flags body = .error e) : ∃ reason, e = .decompression reason := by
  unfold ofBody at refused
  split at refused
  next =>
    split at refused
    next => cases refused
    next reason _ =>
      cases refused
      exact ⟨reason, rfl⟩
  next => cases refused

theorem readPrefix_of_foreign {start : Bytes} (size : start.length = prefixSize) (tail : Bytes)
    (foreign : start.take 4 ≠ magic) : readPrefix (start ++ tail) =
      .error (.wrongMagic (Bytes.ofBigEndian magic) (Bytes.ofBigEndian (start.take 4))) := by
  have four : 4 ≤ start.length := by
    rw [size, prefixSize]
    omega
  have front : (start ++ tail).take 4 = start.take 4 := List.take_append_of_le_length four
  have word : (start.take 4).length = 4 := List.length_take_of_le four
  unfold readPrefix
  rw [front, if_pos ⟨word, foreign⟩]
  rfl

theorem readPrefix_of_large {start tail : Bytes} (size : start.length = prefixSize)
    (magical : start.take 4 = magic) (more : tail ≠ []) (large : maxSize < prefixSize + announced start) :
    readPrefix (start ++ tail) = .error (.frameTooLarge (prefixSize + announced start) maxSize) := by
  have front : (start ++ tail).take 4 = magic := by
    rw [List.take_append_of_le_length, magical]
    rw [size, prefixSize]
    omega
  have header : ¬ ((start ++ tail).take headerSize).length < headerSize := by
    have := List.length_pos_iff.mpr more
    simp only [List.length_take, List.length_append, size, headerSize, prefixSize]
    omega
  have length : ((start ++ tail).drop 4).take 4 = start.drop 4 := by
    rw [List.drop_append_of_le_length, List.take_left']
    · rw [List.length_drop, size, prefixSize]
    · rw [size, prefixSize]
      omega
  unfold readPrefix
  rw [front, if_neg (fun wrong => wrong.2 rfl), if_neg header, length]
  exact if_pos large

theorem decode_of_refused {input : Bytes} {e : ProtocolError} (refused : readPrefix input = .error e) :
    decode input = .error e := by
  simp only [decode, tryDecode, tryDecodeWith, refused, bind, Except.bind]

theorem decode_of_not_canLead {start tail : Bytes} (size : start.length = prefixSize) (more : tail ≠ [])
    (cannot : ¬ CanLead start) :
    ∃ e, decode (start ++ tail) = .error e ∧ ∀ reason, e ≠ .truncated reason := by
  by_cases magical : start.take 4 = magic
  · have large : maxSize < prefixSize + announced start := by
      apply Nat.lt_of_not_le
      intro fits
      exact cannot ⟨magical, fits⟩
    refine ⟨_, decode_of_refused (readPrefix_of_large size magical more large), ?_⟩
    intro reason same
    cases same
  · refine ⟨_, decode_of_refused (readPrefix_of_foreign size tail magical), ?_⟩
    intro reason same
    cases same

theorem decode_lead_short {n : Nat} {tail : Bytes} (more : tail ≠ []) (fits : prefixSize + n ≤ maxSize)
    (short : tail.length < n) : ∃ reason, decode (lead n ++ tail) = .error (.truncated reason) := by
  have missing : Bytes.split? (prefixSize + n) (lead n ++ tail) = none := by
    simp only [Bytes.split?, List.length_take, List.length_append, length_lead]
    rw [if_neg (by omega)]
  simp only [decode, tryDecode, tryDecodeWith, readPrefix_lead more fits, bind, Except.bind, missing]
  exact ⟨_, rfl⟩

theorem decode_lead_zero {tail : Bytes} (more : tail ≠ []) :
    ∃ reason, decode (lead 0 ++ tail) = .error (.deserialization reason) := by
  have whole : Bytes.split? (prefixSize + 0) (lead 0 ++ tail) = some (lead 0, tail) :=
    Bytes.split?_append (lead 0) tail
  have nothing : (lead 0).drop prefixSize = [] := rfl
  have header : readPrefix (lead 0 ++ tail) = .ok (some 0) := readPrefix_lead more (by decide)
  simp only [decode, tryDecode, tryDecodeWith, header, bind, Except.bind, whole, nothing]
  exact ⟨_, rfl⟩

/-- A length that ends within the input makes a frame of what is there. -/
theorem lead_append_eq_frameBytes {n : Nat} {content : Bytes} (within : n ≤ content.length)
    (flags : UInt8) : lead (1 + n) ++ flags :: content =
      frameBytes flags (content.take n) ++ content.drop n := by
  have size : (content.take n).length = n := List.length_take_of_le within
  rw [frameBytes_eq_lead, size, List.append_assoc, List.cons_append, List.take_append_drop]

theorem frameBytes_inj {flags flags' : UInt8} {body body' : Bytes}
    (same : frameBytes flags body = frameBytes flags' body') : flags = flags' ∧ body = body' := by
  have content := congrArg (List.drop prefixSize) same
  exact List.cons.inj content

theorem decode_frameBytes (flags : UInt8) {body : Bytes} (fits : headerSize + body.length ≤ maxSize)
    (rest : Bytes) : decode (frameBytes flags body ++ rest) =
      (ofBody .lz4 flags body).map fun frame => (frame, (frameBytes flags body).length) := by
  simp only [decode, tryDecode, tryDecodeWith_frameBytes fits, bind, Except.bind]
  cases ofBody .lz4 flags body <;> rfl

/-! ## One frame after the other -/

theorem readFrom_append (fuel : Nat) (input : Bytes) (before : List Frame) :
    readFrom fuel input before =
      (before.reverse ++ (readFrom fuel input []).1, (readFrom fuel input []).2) := by
  induction fuel generalizing input before with
  | zero => simp [readFrom]
  | succ fuel ih =>
      cases input with
      | nil => simp [readFrom]
      | cons b input =>
          simp only [readFrom]
          split
          next frame size _ =>
            rw [ih _ (frame :: before), ih _ [frame]]
            simp
          next => simp

theorem readFrom_fuel {fuel more : Nat} {input : Bytes} (enough : input.length < fuel)
    (plenty : input.length < more) (before : List Frame) :
    readFrom fuel input before = readFrom more input before := by
  induction fuel generalizing more input before with
  | zero => exact absurd enough (Nat.not_lt_zero _)
  | succ fuel ih =>
      obtain ⟨more, rfl⟩ := Nat.exists_eq_add_one_of_ne_zero (Nat.ne_of_gt (Nat.zero_lt_of_lt plenty))
      cases input with
      | nil => rfl
      | cons b input =>
          simp only [readFrom]
          split
          next frame size read =>
            have := size_pos_of_decode read
            simp only [List.length_cons] at enough plenty
            apply ih <;> simp only [List.length_drop, List.length_cons] <;> omega
          next => rfl

theorem readAll_of_frame {input : Bytes} {frame : Frame} {size : Nat}
    (read : decode input = .ok (frame, size)) :
    readAll input = (frame :: (readAll (input.drop size)).1, (readAll (input.drop size)).2) := by
  have pos := size_pos_of_decode read
  cases input with
  | nil => cases read
  | cons b input =>
      have enough : ((b :: input).drop size).length < (b :: input).length := by
        simp only [List.length_drop, List.length_cons]
        omega
      simp only [readAll, readFrom, read]
      rw [readFrom_fuel enough (Nat.lt_succ_self _), readFrom_append _ _ [frame]]
      rfl

theorem readAll_of_error {input : Bytes} {e : ProtocolError} (more : input ≠ [])
    (read : decode input = .error e) : readAll input = ([], some e) := by
  cases input with
  | nil => exact absurd rfl more
  | cons b input => simp only [readAll, readFrom, read, List.reverse_nil]

end Frame

end TerminalAgent
