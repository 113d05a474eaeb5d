import TerminalAgent.Proofs.Frame.Headers
import TerminalAgent.Proofs.Lz4.Growth
import TerminalAgent.Proofs.MessagePack.Truncation
import TerminalAgent.Proofs.Recording.Log

/-! # Damaged headers

Where magic or length in front of a frame of a log are overwritten, the log is found to be damaged,
unless a greater length is announced. A length beyond the end of the log passes for a frame that was
cut short, wherever it stands, and what follows is lost without a word. A length that ends within the
log is refused if the frame is compressed, and swallows what follows the chunk if it is not.
-/

namespace TerminalAgent

open MessagePack

/-! ## Chunks that are cut -/

theorem MessagePack.Format.choice_settled (type : String) (names : List String) :
    (choice type names).Settled := by
  have name : (scalar (choiceOfToken names)).Settled := scalar_settled _
  intro depth marker
  simp only [choice]
  cases marker with
  | fixMap | map16 | map32 =>
      refine (readToken_settled _).bind fun token => ?_
      split
      next =>
        refine (name.read depth).bind fun i => readMarker_settled.bind fun marker => ?_
        split
        next => exact .pure i
        next => exact .throw _
      next => exact .throw _
      next => exact .throw _
  | _ => exact name depth _

theorem EchoMode.format_settled : EchoMode.format.Settled :=
  (Format.choice_settled _ _).map _

namespace Chunk

theorem wire_settled : wire.format.Settled := by
  apply Record.format_settled
  have uint64 : Format.uint64.Settled := (Format.natural_settled 64 "u64").map _
  simp only [wire, List.forall_mem_cons, List.not_mem_nil, false_imp_iff, implies_true, and_true]
  exact ⟨Field.of_settled uint64 _ _ _ _, Field.of_settled uint64 _ _ _ _,
    Field.of_settled EchoMode.format_settled _ _ _ _, Field.of_settled Format.bytes_settled _ _ _ _⟩

variable {chunk : Chunk}

theorem decode_part (short : chunk.data.length < 0x100000000) {front : Bytes}
    (part : front <+: chunk.encode) (proper : front ≠ chunk.encode) :
    ∃ e, decode front = .error e := by
  obtain ⟨e, read, -⟩ := (wire_settled.read maxDepth).truncated (wire_yields chunk short) part proper
  refine ⟨e, ?_⟩
  simp only [decode, Record.decode, read]
  rfl

theorem decode_encode_beyond (short : chunk.data.length < 0x100000000) (rest : Bytes) :
    decode (chunk.encode ++ rest) = .ok chunk :=
  Record.decode_of_yields (wire_yields chunk short) rest

end Chunk

namespace Log

theorem chunksOf_append (frames : List Frame) (before : List Chunk) :
    chunksOf frames before = (chunksOf frames []).map (before.reverse ++ ·) := by
  induction frames generalizing before with
  | nil => simp [chunksOf, Except.map, pure, Except.pure]
  | cons frame frames ih =>
      simp only [chunksOf]
      split
      next chunk _ =>
        rw [ih (chunk :: before), ih [chunk]]
        cases chunksOf frames [] <;> simp [Except.map]
      next => rfl

theorem decode_of_torn {input : Bytes} {reason : String}
    (read : Frame.decode input = .error (.truncated reason)) : decode input = .ok [] := by
  cases input with
  | nil => rfl
  | cons b input =>
      simp only [decode, Frame.readAll_of_error (List.cons_ne_nil b input) read]
      rfl

theorem decode_of_fault {input : Bytes} {e : ProtocolError} (more : input ≠ [])
    (read : Frame.decode input = .error e) (damage : ∀ reason, e ≠ .truncated reason) :
    (decode input).toOption = none := by
  simp only [decode, Frame.readAll_of_error more read]
  cases e with
  | truncated reason => exact absurd rfl (damage reason)
  | _ => rfl

theorem decode_of_unreadable {input : Bytes} {frame : Frame} {size : Nat} {e : ReadError}
    (read : Frame.decode input = .ok (frame, size)) (held : Chunk.decode frame.payload = .error e) :
    (decode input).toOption = none := by
  simp only [decode, Frame.readAll_of_frame read, chunksOf, held]
  rfl

theorem decode_of_chunk {input : Bytes} {frame : Frame} {size : Nat} {chunk : Chunk}
    (read : Frame.decode input = .ok (frame, size)) (held : Chunk.decode frame.payload = .ok chunk) :
    decode input = (decode (input.drop size)).map (chunk :: ·) := by
  simp only [decode, Frame.readAll_of_frame read, chunksOf, held]
  rw [chunksOf_append _ [chunk]]
  cases chunksOf (Frame.readAll (input.drop size)).1 [] with
  | error fault => rfl
  | ok chunks =>
      cases (Frame.readAll (input.drop size)).2 with
      | none => rfl
      | some e => cases e <;> rfl

/-- Whole frames are read before anything that follows them. -/
theorem decode_flatten_append {frames : List Bytes} {chunks : List Chunk} (h : Frames frames chunks)
    (rest : Bytes) : decode (frames.flatten ++ rest) = (decode rest).map (chunks ++ ·) := by
  induction h with
  | nil =>
      simp only [List.flatten_nil, List.nil_append]
      cases decode rest <;> rfl
  | cons encoded _ ih =>
      obtain ⟨codec, encoded⟩ := encoded
      obtain ⟨spells, readable⟩ := spells_encodeChunk encoded
      rw [List.flatten_cons, List.append_assoc, decode_of_chunk (spells.whole _) readable,
        List.drop_left, ih]
      cases decode rest <;> rfl

/-! ## Other lengths -/

/-- No chunk is had from the body. -/
def Unreadable (flags : UInt8) (body : Bytes) : Prop :=
  ∀ frame, Frame.ofBody .lz4 flags body = .ok frame → ∃ e, Chunk.decode frame.payload = .error e

theorem decode_of_unreadable_body {flags : UInt8} {body : Bytes} (unreadable : Unreadable flags body)
    (fits : Frame.headerSize + body.length ≤ Frame.maxSize) (rest : Bytes) :
    (decode (Frame.frameBytes flags body ++ rest)).toOption = none := by
  have read := Frame.decode_frameBytes flags fits rest
  cases stands : Frame.ofBody .lz4 flags body with
  | error e =>
      rw [stands] at read
      obtain ⟨reason, rfl⟩ := Frame.ofBody_error stands
      exact decode_of_fault (by simp [Frame.frameBytes_eq_lead]) read nofun
  | ok frame =>
      rw [stands] at read
      obtain ⟨e, held⟩ := unreadable frame stands
      exact decode_of_unreadable read held

/-- The frame of a chunk holds it as it is, or compressed. -/
theorem encodeChunk_cases {codec : Codec} {chunk : Chunk} {bytes : Bytes}
    (encoded : encodeChunk codec chunk = .ok bytes) :
    bytes = Frame.frameBytes (Frame.setCompressed 0 false) chunk.encode ∨
      bytes = Frame.frameBytes (Frame.setCompressed 0 true) (Lz4.compressSized chunk.encode) ∧
        (Lz4.compressSized chunk.encode).length < chunk.encode.length := by
  have framed := encodeChunk_eq_ok.mp encoded
  simp only [Frame.encode, Frame.encodeWith] at framed
  split at framed
  next => cases framed
  split at framed
  next body found =>
    obtain ⟨rfl, shorter⟩ := Frame.compressed?_eq_some found
    cases framed
    exact .inr ⟨rfl, shorter⟩
  next =>
    cases framed
    exact .inl rfl

variable {chunk : Chunk}

theorem unreadable_part (short : chunk.data.length < 0x100000000) {body : Bytes}
    (part : body <+: chunk.encode) (proper : body ≠ chunk.encode) :
    Unreadable (Frame.setCompressed 0 false) body := by
  rintro frame ⟨⟩
  exact Chunk.decode_part short part proper

theorem ofBody_compressed {flags : UInt8} {body : Bytes} {frame : Frame}
    (stands : Frame.ofBody .lz4 (Frame.setCompressed flags true) body = .ok frame) :
    Lz4.decompressSized body = .ok frame.payload := by
  simp only [Frame.ofBody, (Frame.setCompressed_laws flags).1, if_true, Compression.lz4] at stands
  cases expanded : Lz4.decompressSized body with
  | error fault =>
      rw [expanded] at stands
      cases stands
  | ok payload =>
      rw [expanded] at stands
      cases stands
      rfl

theorem unreadable_part_compressed (word : chunk.encode.length < 0x100000000) {body : Bytes}
    (part : body <+: Lz4.compressSized chunk.encode) (proper : body ≠ Lz4.compressSized chunk.encode) :
    Unreadable (Frame.setCompressed 0 true) body := by
  intro frame stands
  obtain ⟨part, proper⟩ := Lz4.decompressSized_cut word part proper (ofBody_compressed stands)
  exact Chunk.decode_part (Nat.lt_of_le_of_lt chunk.data_length_le word) part proper

theorem unreadable_beyond_compressed (word : chunk.encode.length < 0x100000000) {beyond : Bytes}
    (more : beyond ≠ []) :
    Unreadable (Frame.setCompressed 0 true) (Lz4.compressSized chunk.encode ++ beyond) := by
  intro frame stands
  exact absurd (ofBody_compressed stands) (Lz4.decompressSized_beyond word more)

theorem length_encode_lt {codec : Codec} {bytes : Bytes} (encoded : encodeChunk codec chunk = .ok bytes) :
    chunk.encode.length < 0x100000000 := by
  have room := Frame.fits_of_encode (encodeChunk_eq_ok.mp encoded)
  simp only [Frame.maxSize, Frame.headerSize] at room
  omega

/-- The body is cut, so nothing is had from it. -/
theorem decode_shorter {codec : Codec} {flags : UInt8} {body part : Bytes}
    (encoded : encodeChunk codec chunk = .ok (Frame.frameBytes flags body)) (cut : part <+: body)
    (proper : part ≠ body) (fits : Frame.headerSize + part.length ≤ Frame.maxSize) (rest : Bytes) :
    (decode (Frame.frameBytes flags part ++ rest)).toOption = none := by
  have word := length_encode_lt encoded
  apply decode_of_unreadable_body _ fits
  rcases encodeChunk_cases encoded with same | ⟨same, -⟩
  · obtain ⟨rfl, rfl⟩ := Frame.frameBytes_inj same
    exact unreadable_part (Nat.lt_of_le_of_lt chunk.data_length_le word) cut proper
  · obtain ⟨rfl, rfl⟩ := Frame.frameBytes_inj same
    exact unreadable_part_compressed word cut proper

/-- The body is followed by some bytes of the next frames. -/
theorem decode_longer {codec : Codec} {flags : UInt8} {body beyond : Bytes}
    (encoded : encodeChunk codec chunk = .ok (Frame.frameBytes flags body)) (more : beyond ≠ [])
    (fits : Frame.headerSize + (body ++ beyond).length ≤ Frame.maxSize) (rest : Bytes) :
    (decode (Frame.frameBytes flags (body ++ beyond) ++ rest)).toOption =
      if Frame.isCompressed flags = false then (decode rest).toOption.map (chunk :: ·) else none := by
  have word := length_encode_lt encoded
  obtain ⟨compressed, plain, -⟩ := Frame.setCompressed_laws 0
  rcases encodeChunk_cases encoded with same | ⟨same, -⟩
  · obtain ⟨rfl, rfl⟩ := Frame.frameBytes_inj same
    have stands : Frame.ofBody .lz4 (Frame.setCompressed 0 false) (chunk.encode ++ beyond) =
        .ok ⟨Frame.setCompressed 0 false, chunk.encode ++ beyond⟩ := rfl
    have read := Frame.decode_frameBytes (Frame.setCompressed 0 false) fits rest
    rw [stands] at read
    have held : Chunk.decode (chunk.encode ++ beyond) = .ok chunk :=
      Chunk.decode_encode_beyond (Nat.lt_of_le_of_lt chunk.data_length_le word) beyond
    rw [if_pos plain, decode_of_chunk read held, List.drop_left]
    cases decode rest <;> rfl
  · obtain ⟨rfl, rfl⟩ := Frame.frameBytes_inj same
    rw [if_neg (by simp [compressed])]
    exact decode_of_unreadable_body (unreadable_beyond_compressed word more) fits rest

/-- A length that ends within the log but not with the frame. -/
theorem decode_other_length {codec : Codec} {flags : UInt8} {body : Bytes}
    (encoded : encodeChunk codec chunk = .ok (Frame.frameBytes flags body)) {n : Nat} {rest : Bytes}
    (fits : Frame.headerSize + n ≤ Frame.maxSize) (within : n ≤ (body ++ rest).length)
    (other : n ≠ body.length) :
    (decode (Frame.lead (1 + n) ++ flags :: (body ++ rest))).toOption =
      if Frame.isCompressed flags = false ∧ body.length < n then
        (decode ((body ++ rest).drop n)).toOption.map (chunk :: ·)
      else none := by
  have size : ((body ++ rest).take n).length = n := List.length_take_of_le within
  rw [Frame.lead_append_eq_frameBytes within]
  rw [← size] at fits
  rcases Nat.lt_or_gt_of_ne other with less | more
  · have cut : (body ++ rest).take n = body.take n :=
      List.take_append_of_le_length (Nat.le_of_lt less)
    have proper : body.take n ≠ body := by
      intro whole
      rw [cut, whole] at size
      exact other size.symm
    rw [cut] at fits ⊢
    rw [if_neg (fun long => Nat.lt_asymm less long.2)]
    exact decode_shorter encoded (List.take_prefix n body) proper fits _
  · have long : (body ++ rest).take n = body ++ rest.take (n - body.length) := by
      rw [List.take_append, List.take_of_length_le (Nat.le_of_lt more)]
    have beyond : rest.take (n - body.length) ≠ [] := by
      intro none
      rw [long, none, List.append_nil] at size
      exact other size.symm
    rw [long] at fits ⊢
    rw [decode_longer encoded beyond fits]
    simp only [more, and_true]

/-- A frame whose first eight bytes were overwritten, and what is read from there on. -/
theorem decode_start {codec : Codec} {bytes start : Bytes} (encoded : encodeChunk codec chunk = .ok bytes)
    (size : start.length = Frame.prefixSize) (changed : start ≠ bytes.take Frame.prefixSize)
    (rest : Bytes) :
    let content := bytes.drop Frame.prefixSize ++ rest
    let announced := Frame.announced start
    (decode (start ++ content)).toOption =
      if ¬ Frame.CanLead start then none
      else if content.length < announced then some []
      else if Frame.isCompressed (bytes.getD Frame.prefixSize 0) = false ∧
          bytes.length < Frame.prefixSize + announced then
        (decode (content.drop announced)).toOption.map (chunk :: ·)
      else none := by
  obtain ⟨flags, body, rfl⟩ : ∃ flags body, bytes = Frame.frameBytes flags body := by
    rcases encodeChunk_cases encoded with same | ⟨same, -⟩ <;> exact ⟨_, _, same⟩
  have behind : (Frame.frameBytes flags body).drop Frame.prefixSize = flags :: body := rfl
  have flag : (Frame.frameBytes flags body).getD Frame.prefixSize 0 = flags := rfl
  have front : (Frame.frameBytes flags body).take Frame.prefixSize = Frame.lead (1 + body.length) := rfl
  intro content announced
  have more : flags :: (body ++ rest) ≠ [] := List.cons_ne_nil _ _
  simp only [content, announced, behind, flag, front, List.cons_append] at changed ⊢
  by_cases can : Frame.CanLead start
  · have same := Frame.eq_lead size can.1
    have fits := can.2
    rw [if_neg (not_not.mpr can)]
    generalize Frame.announced start = n at same fits ⊢
    subst same
    by_cases beyond : (flags :: (body ++ rest)).length < n
    · obtain ⟨reason, torn⟩ := Frame.decode_lead_short more fits beyond
      rw [if_pos beyond, decode_of_torn torn]
      rfl
    · rw [if_neg beyond]
      cases n with
      | zero =>
          obtain ⟨reason, damaged⟩ := Frame.decode_lead_zero more
          rw [decode_of_fault (by simp) damaged (by simp), if_neg]
          simp only [Frame.length_frameBytes, Frame.prefixSize, Frame.headerSize]
          omega
      | succ n =>
          have other : n ≠ body.length := by
            rintro rfl
            exact changed (by rw [Nat.add_comm])
          rw [List.length_cons] at beyond
          have room : Frame.headerSize + n ≤ Frame.maxSize := by
            simp only [Frame.prefixSize, Frame.headerSize] at fits ⊢
            omega
          have longer : (Frame.frameBytes flags body).length < Frame.prefixSize + (n + 1) ↔
              body.length < n := by
            simp only [Frame.length_frameBytes, Frame.prefixSize, Frame.headerSize]
            omega
          rw [Nat.add_comm n 1, decode_other_length encoded room (by omega) other]
          simp only [Nat.add_comm 1 n, longer, List.drop_succ_cons]
  · obtain ⟨e, read, damage⟩ := Frame.decode_of_not_canLead size more can
    rw [if_pos can]
    exact decode_of_fault (by simp) read damage

theorem Frames.parts {before after : List Bytes} {bytes : Bytes} {chunks : List Chunk}
    (h : Frames (before ++ bytes :: after) chunks) :
    ∃ first chunk others codec, chunks = first ++ chunk :: others ∧ Frames before first ∧
      encodeChunk codec chunk = .ok bytes := by
  induction before generalizing chunks with
  | nil =>
      cases h with
      | @cons _ chunk _ others encoded _ =>
          obtain ⟨codec, encoded⟩ := encoded
          exact ⟨[], chunk, others, codec, rfl, .nil, encoded⟩
  | cons piece before ih =>
      cases h with
      | @cons _ held _ _ whole rest =>
          obtain ⟨first, chunk, others, codec, rfl, front, encoded⟩ := ih rest
          exact ⟨held :: first, chunk, others, codec, rfl, .cons whole front, encoded⟩

/-- Where the first eight bytes of a frame were overwritten, a log is still read if a length that is
    possible, but too great, is announced there: up to the frame if the length exceeds the log, and
    otherwise, if the frame is not compressed, up to the chunk in it and then from where the length
    ends. In all other cases it is found to be damaged. -/
theorem decode_overwritten {before after : List Bytes} {bytes start : Bytes} {chunks : List Chunk}
    (h : Frames (before ++ bytes :: after) chunks) (size : start.length = Frame.prefixSize)
    (changed : start ≠ bytes.take Frame.prefixSize) :
    let content := bytes.drop Frame.prefixSize ++ after.flatten
    let announced := Frame.announced start
    (decode (before.flatten ++ (start ++ content))).toOption =
      if ¬ Frame.CanLead start then none
      else if content.length < announced then some (chunks.take before.length)
      else if Frame.isCompressed (bytes.getD Frame.prefixSize 0) = false ∧
          bytes.length < Frame.prefixSize + announced then
        (decode (content.drop announced)).toOption.map (chunks.take (before.length + 1) ++ ·)
      else none := by
  obtain ⟨first, chunk, others, codec, rfl, front, encoded⟩ := h.parts
  intro content announced
  have upTo : (first ++ chunk :: others).take before.length = first :=
    List.take_left' front.length_eq.symm
  have through : (first ++ chunk :: others).take (before.length + 1) = first ++ [chunk] := by
    rw [List.append_cons, List.take_left']
    rw [List.length_append, front.length_eq, List.length_singleton]
  have read := decode_start encoded size changed after.flatten
  have behind : (decode (before.flatten ++ (start ++ content))).toOption =
      (decode (start ++ content)).toOption.map (first ++ ·) := by
    rw [decode_flatten_append front]
    cases decode (start ++ content) <;> rfl
  rw [behind, read, upTo, through]
  split_ifs
  case pos => rw [Option.map_some, List.append_nil]
  case pos =>
    rw [Option.map_map]
    congr 1
    funext chunks
    rw [Function.comp_apply, List.append_assoc, List.singleton_append]
  case neg => rfl
  case neg => rfl

/-- Three chunks of a session. -/
def session : List Chunk :=
  [⟨0, 0, .enabled, [0x24, 0x20]⟩,
    ⟨1, 10, .disabled, [0x68, 0x69, 0x64, 0x64, 0x65, 0x6E, 0x0D, 0x0A]⟩,
    ⟨2, 20, .enabled, [0x64, 0x6F, 0x6E, 0x65]⟩]

def sessionFrames : List Bytes := session.map fun chunk => Frame.frameBytes 0 chunk.encode

/-- The first length ends with the second frame, whose chunk is lost. -/
theorem decode_overwritten_swallows :
    Frames sessionFrames session ∧ (Frame.lead 0x57).length = Frame.prefixSize ∧
      Frame.lead 0x57 ≠ sessionFrames[0].take Frame.prefixSize ∧
      (decode (Frame.lead 0x57 ++ sessionFrames.flatten.drop Frame.prefixSize)).toOption =
        some [session[0], session[2]] := by
  have h : Frames ([] ++ sessionFrames[0] :: sessionFrames.tail) session :=
    .cons ⟨.plain, rfl⟩ (.cons ⟨.plain, rfl⟩ (.cons ⟨.plain, rfl⟩ .nil))
  have changed : Frame.lead 0x57 ≠ sessionFrames[0].take Frame.prefixSize := by decide
  refine ⟨h, rfl, changed, ?_⟩
  refine (decode_overwritten h rfl changed).trans ?_
  decide +kernel

/-- The first length goes beyond the log, and no chunk is left. -/
theorem decode_past_end :
    ∃ frames, session.mapM (encodeChunk .plain) = .ok frames ∧
      decode (frames.flatten.set 6 1) = .ok [] :=
  ⟨_, rfl, by decide +kernel⟩

end Log

end TerminalAgent
