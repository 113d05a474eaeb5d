import TerminalAgent.Proofs.Frame.RoundTrip
import TerminalAgent.Proofs.MessagePack.Reading
import TerminalAgent.Playback.Service

/-! # Logs of chunks

A chunk is read back from its frame, and a log that is cut anywhere is read up to the last chunk
that is whole. `Log.Frames` relates chunks to the frames that hold them.
-/

namespace TerminalAgent

open MessagePack

namespace EchoMode

theorem format_yields (echo : EchoMode) (depth : Nat) :
    Yields (format.read depth) (Writer.text echo.word) echo := by
  cases echo
  · exact Format.map_yields (fun i => if i = 0 then enabled else disabled)
      (Format.choice_yields (i := 0) (by decide) (by decide) depth)
  · exact Format.map_yields (fun i => if i = 0 then enabled else disabled)
      (Format.choice_yields (i := 1) (by decide) (by decide) depth)

end EchoMode

namespace Chunk

theorem wire_yields (chunk : Chunk) (short : chunk.data.length < 0x100000000) :
    Yields (wire.format.read maxDepth) chunk.encode chunk := by
  have entries : Yields (Format.readEntries (wire.readEntry 1022) 4 wire.start)
      (Writer.text "seq" ++ Writer.natural chunk.seq.toNat ++
        (Writer.text "at_ms" ++ Writer.natural chunk.atMs.toNat ++
          (Writer.text "echo" ++ Writer.text chunk.echo.word ++
            (Writer.text "data" ++ Writer.binary chunk.data ++ []))))
      ⟨some chunk.seq, some chunk.atMs, some chunk.echo, some chunk.data⟩ := by
    apply Format.readEntries_yields
    · exact wire.readEntry_yields _ (by decide) rfl rfl
        (Field.of_yields _ _ _ _ _ (Format.uint64_yields chunk.seq _))
    apply Format.readEntries_yields
    · exact wire.readEntry_yields _ (by decide) rfl rfl
        (Field.of_yields _ _ _ _ _ (Format.uint64_yields chunk.atMs _))
    apply Format.readEntries_yields
    · exact wire.readEntry_yields _ (by decide) rfl rfl
        (Field.of_yields _ _ _ _ _ (EchoMode.format_yields chunk.echo _))
    apply Format.readEntries_yields
    · exact wire.readEntry_yields _ (by decide) rfl rfl
        (Field.of_yields _ _ _ _ _ (Format.bytes_yields short _))
    exact .pure _
  exact wire.format_yields (show 4 < 0x100000000 by decide) entries rfl

theorem decode_encode (chunk : Chunk) (short : chunk.data.length < 0x100000000) :
    decode chunk.encode = .ok chunk := by
  have read := Record.decode_of_yields (wire_yields chunk short) []
  rwa [List.append_nil] at read

theorem data_length_le (chunk : Chunk) : chunk.data.length ≤ chunk.encode.length := by
  simp only [encode, Writer.record, List.flatMap_cons, List.flatMap_nil, Writer.binary,
    List.length_append, List.length_nil]
  omega

/-- A chunk takes little more room than its data. -/
theorem length_encode_le (chunk : Chunk) : chunk.encode.length ≤ chunk.data.length + 64 := by
  have natural (n : Nat) : (Writer.natural n).length ≤ 9 := by
    unfold Writer.natural Writer.marked
    split_ifs <;> simp
  have head (n : Nat) : (Writer.binHead n).length ≤ 5 := by
    unfold Writer.binHead Writer.marked
    split_ifs <;> simp
  have echo : (Writer.text chunk.echo.word).length ≤ 9 := by
    cases chunk.echo <;> decide
  have names : (Writer.text "seq").length = 4 ∧ (Writer.text "at_ms").length = 6 ∧
      (Writer.text "echo").length = 5 ∧ (Writer.text "data").length = 5 ∧
      (Writer.mapHead 4).length = 1 := by decide
  have seq := natural chunk.seq.toNat
  have atMs := natural chunk.atMs.toNat
  have data := head chunk.data.length
  simp only [encode, Writer.record, List.flatMap_cons, List.flatMap_nil, Writer.binary,
    List.length_append, List.length_nil, List.length_cons, names]
  omega

end Chunk

namespace Log

/-- The frames hold the chunks, one each and in order, compressed or not. -/
abbrev Frames (frames : List Bytes) (chunks : List Chunk) : Prop :=
  List.Forall₂ (fun bytes chunk => ∃ codec, encodeChunk codec chunk = .ok bytes) frames chunks

theorem encodeChunk_eq_ok {codec : Codec} {chunk : Chunk} {bytes : Bytes} :
    encodeChunk codec chunk = .ok bytes ↔ Frame.encode codec ⟨0, chunk.encode⟩ = .ok bytes := by
  unfold encodeChunk
  cases Frame.encode codec ⟨0, chunk.encode⟩ with
  | ok frame =>
      constructor
      · rintro ⟨⟩
        rfl
      · rintro ⟨⟩
        rfl
  | error fault => constructor <;> rintro ⟨⟩

/-- A chunk that has a frame is read back from it. -/
theorem spells_encodeChunk {codec : Codec} {chunk : Chunk} {bytes : Bytes}
    (encoded : encodeChunk codec chunk = .ok bytes) :
    Frame.Spells bytes ⟨0, chunk.encode⟩ ∧ Chunk.decode chunk.encode = .ok chunk := by
  have framed := encodeChunk_eq_ok.mp encoded
  have fits : chunk.encode.length ≤ Frame.maxSize - Frame.headerSize :=
    Frame.fits_of_encode framed
  have short : chunk.data.length < 0x100000000 := by
    have := chunk.data_length_le
    simp only [Frame.maxSize, Frame.headerSize] at fits
    omega
  have cleared : Frame.setCompressed 0 false = 0 := by decide
  have spells := Frame.spells_encode framed
  rw [cleared] at spells
  exact ⟨spells, chunk.decode_encode short⟩

theorem chunksOf_encoded {chunks : List Chunk}
    (readable : ∀ chunk ∈ chunks, Chunk.decode chunk.encode = .ok chunk) (before : List Chunk) :
    chunksOf (chunks.map fun chunk => ⟨0, chunk.encode⟩) before =
      .ok (before.reverse ++ chunks) := by
  induction chunks generalizing before with
  | nil =>
      simp only [List.map_nil, chunksOf, List.append_nil]
      rfl
  | cons chunk rest ih =>
      have others : ∀ c ∈ rest, Chunk.decode c.encode = .ok c :=
        fun c member => readable c (List.mem_cons_of_mem _ member)
      simp only [List.map_cons, chunksOf, readable chunk List.mem_cons_self, ih others,
        List.reverse_cons, List.append_assoc, List.singleton_append]

theorem Frames.spells {frames : List Bytes} {chunks : List Chunk} (h : Frames frames chunks) :
    List.Forall₂ Frame.Spells frames (chunks.map fun chunk => ⟨0, chunk.encode⟩) ∧
      ∀ chunk ∈ chunks, Chunk.decode chunk.encode = .ok chunk := by
  induction h with
  | nil => exact ⟨.nil, by simp⟩
  | cons encoded _ ih =>
      obtain ⟨codec, encoded⟩ := encoded
      obtain ⟨spells, readable⟩ := spells_encodeChunk encoded
      exact ⟨.cons spells ih.1, List.forall_mem_cons.mpr ⟨readable, ih.2⟩⟩

/-- Frames and a part of one more are read as the chunks of the frames. -/
theorem decode_flatten_take {frames : List Bytes} {chunks : List Chunk} {next : Bytes}
    {last : Frame} (h : Frames frames chunks) (partly : Frame.Spells next last) {k : Nat}
    (cut : k < next.length) : decode (frames.flatten ++ next.take k) = .ok chunks := by
  obtain ⟨spells, readable⟩ := h.spells
  obtain ⟨fault, read, truncated⟩ := Frame.readAll_flatten spells partly cut
  have found := chunksOf_encoded readable []
  simp only [List.reverse_nil, List.nil_append] at found
  simp only [decode, read, found, bind, Except.bind]
  cases fault with
  | none => rfl
  | some error =>
      obtain ⟨reason, rfl⟩ := truncated error rfl
      rfl

/-- A whole log is read as its chunks. -/
theorem decode_flatten {frames : List Bytes} {chunks : List Chunk} (h : Frames frames chunks) :
    decode frames.flatten = .ok chunks := by
  -- Any frame can be the next one if nothing of it is left.
  have encoded : Frame.encode .plain ⟨0, []⟩ = .ok (Frame.frameBytes 0 []) := rfl
  have read := decode_flatten_take h (Frame.spells_encode encoded) (k := 0) (by decide)
  rwa [List.take_zero, List.append_nil] at read

/-- The chunk is short enough for one frame. -/
def Fits (chunk : Chunk) : Prop :=
  chunk.encode.length ≤ Frame.maxSize - Frame.headerSize

instance : DecidablePred Fits := fun _ => inferInstanceAs (Decidable (_ ≤ _))

theorem fits_of_length_le {chunk : Chunk} (short : chunk.data.length ≤ 4096) : Fits chunk := by
  have := chunk.length_encode_le
  simp only [Fits, Frame.maxSize, Frame.headerSize]
  omega

theorem exists_encodeChunk (codec : Codec) {chunk : Chunk} (fits : Fits chunk) :
    ∃ bytes, encodeChunk codec chunk = .ok bytes := by
  obtain ⟨flags, body, framed, -, -⟩ := Frame.encode_eq codec ⟨0, chunk.encode⟩ fits
  exact ⟨Frame.frameBytes flags body, encodeChunk_eq_ok.mpr framed⟩

theorem frames_of_mapM {codec : Codec} {chunks : List Chunk} {frames : List Bytes}
    (encoded : chunks.mapM (encodeChunk codec) = .ok frames) : Frames frames chunks := by
  induction chunks generalizing frames with
  | nil =>
      cases encoded
      exact .nil
  | cons chunk rest ih =>
      rw [List.mapM_cons] at encoded
      cases first : encodeChunk codec chunk with
      | error reason => simp [first, bind, Except.bind] at encoded
      | ok bytes =>
          cases others : rest.mapM (encodeChunk codec) with
          | error reason => simp [first, others, bind, Except.bind] at encoded
          | ok more =>
              simp only [first, others, bind, Except.bind] at encoded
              cases encoded
              exact .cons ⟨codec, first⟩ (ih others)

/-! ## Logs that are cut -/

/-- A cut falls behind so many whole pieces, and within the next one if there is one. -/
structure CutAt (pieces : List Bytes) (k n : Nat) : Prop where
  whole : ∀ i ≤ pieces.length, i ≤ n ↔ (pieces.take i).flatten.length ≤ k
  bound : n ≤ pieces.length
  parts : pieces.flatten.take k =
    (pieces.take n).flatten ++ (pieces[n]?.getD []).take (k - (pieces.take n).flatten.length)
  inside : ∀ next, pieces[n]? = some next → k - (pieces.take n).flatten.length < next.length

theorem exists_cutAt (pieces : List Bytes) (k : Nat) : ∃ n, CutAt pieces k n := by
  -- A piece that fits in front of the cut leaves a shorter way to it.
  induction pieces generalizing k with
  | nil => exact ⟨0, by simp, Nat.le_refl _, by simp, by simp⟩
  | cons piece rest ih =>
      by_cases fits : piece.length ≤ k
      · obtain ⟨n, whole, bound, parts, inside⟩ := ih (k - piece.length)
        have left : k - (piece.length + (rest.take n).flatten.length) =
            k - piece.length - (rest.take n).flatten.length := by omega
        refine ⟨n + 1, ?_, Nat.succ_le_succ bound, ?_, ?_⟩
        · intro i inRange
          cases i with
          | zero => simp
          | succ i =>
              have same := whole i (Nat.le_of_succ_le_succ inRange)
              simp only [List.take_succ_cons, List.flatten_cons, List.length_append]
              omega
        · simp only [List.flatten_cons, List.take_succ_cons, List.getElem?_cons_succ,
            List.length_append, left, List.append_assoc, ← parts]
          rw [List.take_append, List.take_of_length_le fits]
        · intro next found
          simp only [List.take_succ_cons, List.flatten_cons, List.length_append, left]
          exact inside next found
      · refine ⟨0, ?_, Nat.zero_le _, ?_, ?_⟩
        · intro i _
          cases i with
          | zero => simp
          | succ i =>
              simp only [List.take_succ_cons, List.flatten_cons, List.length_append]
              omega
        · simp [List.take_append_of_le_length (Nat.le_of_lt (Nat.lt_of_not_le fits))]
        · intro next found
          cases found
          simpa using fits

/-- A log that is cut after `k` bytes is read up to its last whole chunk. -/
theorem decode_take {frames : List Bytes} {chunks : List Chunk} (h : Frames frames chunks)
    (k : Nat) :
    ∃ n, CutAt frames k n ∧ decode (frames.flatten.take k) = .ok (chunks.take n) := by
  obtain ⟨n, cut⟩ := exists_cutAt frames k
  have front : Frames (frames.take n) (chunks.take n) := List.forall₂_take n h
  refine ⟨n, cut, ?_⟩
  rw [cut.parts]
  cases found : frames[n]? with
  | none => simpa using decode_flatten front
  | some next =>
      obtain ⟨frame, spells⟩ : ∃ frame, Frame.Spells next frame := by
        obtain ⟨position, rfl⟩ := List.getElem?_eq_some_iff.mp found
        obtain ⟨codec, encoded⟩ := h.get position (h.length_eq ▸ position)
        exact ⟨_, (spells_encodeChunk encoded).1⟩
      exact decode_flatten_take front spells (cut.inside next found)

/-! ## Whole chunks -/

/-- The chunks whose frames end within the first `k` bytes of the log. -/
def wholeWithin (k : Nat) (frames : List Bytes) (chunks : List Chunk) : List Chunk :=
  (chunks.zipIdx.filter fun entry => (frames.take (entry.2 + 1)).flatten.length ≤ k).map (·.1)

theorem filter_zipIdx_lt (chunks : List Chunk) (start n : Nat) :
    ((chunks.zipIdx start).filter fun entry => entry.2 < start + n).map (·.1) = chunks.take n := by
  induction chunks generalizing start n with
  | nil => simp
  | cons chunk rest ih =>
      rw [List.zipIdx_cons]
      cases n with
      | zero =>
          have none : ((rest.zipIdx (start + 1)).filter fun entry => entry.2 < start + 1 + 0).map
              (·.1) = [] := ih (start + 1) 0
          rw [List.filter_cons_of_neg (by simp), List.take_zero]
          rw [List.map_eq_nil_iff, List.filter_eq_nil_iff] at none ⊢
          intro entry member
          have := none entry member
          simp only [decide_eq_true_eq] at this ⊢
          omega
      | succ n =>
          have later := ih (start + 1) n
          rw [Nat.add_right_comm start 1 n] at later
          rw [List.filter_cons_of_pos (by simp), List.map_cons, List.take_succ_cons, ← later,
            Nat.add_assoc start n 1]

theorem wholeWithin_of_cutAt {frames : List Bytes} {chunks : List Chunk} {k n : Nat}
    (length : frames.length = chunks.length) (cut : CutAt frames k n) :
    wholeWithin k frames chunks = chunks.take n := by
  rw [← filter_zipIdx_lt chunks 0 n, wholeWithin]
  congr 1
  refine List.filter_congr fun entry member => ?_
  obtain ⟨-, inRange, -⟩ := List.mem_zipIdx member
  have same := cut.whole (entry.2 + 1) (by omega)
  rw [decide_eq_decide]
  omega

theorem exists_frames {recorded : List (Codec × Chunk)} (fits : ∀ entry ∈ recorded, Fits entry.2) :
    ∃ frames, recorded.mapM (fun entry => encodeChunk entry.1 entry.2) = .ok frames ∧
      Frames frames (recorded.map (·.2)) := by
  induction recorded with
  | nil => exact ⟨[], rfl, .nil⟩
  | cons entry rest ih =>
      obtain ⟨first, encoded⟩ := exists_encodeChunk entry.1 (fits entry List.mem_cons_self)
      obtain ⟨others, all, hold⟩ :=
        ih fun other member => fits other (List.mem_cons_of_mem _ member)
      refine ⟨first :: others, ?_, .cons ⟨entry.1, encoded⟩ hold⟩
      rw [List.mapM_cons]
      simp only [encoded, all, bind, Except.bind]
      rfl

/-- Chunks that fit have frames, compressed or not, and a log of them that is cut anywhere is read as
    the chunks whose frames are whole. -/
theorem decode_cut {recorded : List (Codec × Chunk)} (fits : ∀ entry ∈ recorded, Fits entry.2) :
    ∃ frames, recorded.mapM (fun entry => encodeChunk entry.1 entry.2) = .ok frames ∧
      ∀ k ≤ frames.flatten.length,
        decode (frames.flatten.take k) = .ok (wholeWithin k frames (recorded.map (·.2))) := by
  obtain ⟨frames, encoded, hold⟩ := exists_frames fits
  refine ⟨frames, encoded, fun k _ => ?_⟩
  obtain ⟨n, cut, decoded⟩ := decode_take hold k
  rw [decoded, wholeWithin_of_cutAt hold.length_eq cut]

/-- A short chunk as it is, and a long one that is worth compressing. -/
theorem decode_cut_compressed :
    let recorded : List (Codec × Chunk) :=
      [(.plain, ⟨0, 0, .enabled, [104, 105]⟩),
        (.compressing, ⟨1, 7, .disabled, List.replicate 4000 0x78⟩)]
    (∀ entry ∈ recorded, Fits entry.2) ∧
      ∃ frames, recorded.mapM (fun entry => encodeChunk entry.1 entry.2) = .ok frames ∧
        ∀ k ≤ frames.flatten.length,
          decode (frames.flatten.take k) = .ok (wholeWithin k frames (recorded.map (·.2))) := by
  intro recorded
  have fits : ∀ entry ∈ recorded, Fits entry.2 := by
    intro entry member
    apply fits_of_length_le
    simp only [recorded, List.mem_cons, List.not_mem_nil, or_false] at member
    obtain rfl | rfl := member
    · exact (by decide : 2 ≤ 4096)
    · exact Nat.le_trans (Nat.le_of_eq List.length_replicate) (by decide)
  exact ⟨fits, decode_cut fits⟩

end Log

theorem Playback.load_eq {archive : Archive} {id : String} {bytes : Bytes} {chunks : List Chunk}
    (read : archive.read id = .ok bytes) (decoded : Log.decode bytes = .ok chunks) :
    load archive id = .ok chunks := by
  unfold load
  rw [read]
  change (Log.decode bytes).mapError _ = _
  rw [decoded]
  rfl

/-- What is played back is what was read under the same key. -/
theorem Playback.load_ok {archive : Archive} {id : String} {chunks : List Chunk}
    (loaded : load archive id = .ok chunks) :
    ∃ bytes, archive.read id = .ok bytes ∧ Log.decode bytes = .ok chunks := by
  unfold load at loaded
  cases read : archive.read id with
  | error error =>
      rw [read] at loaded
      cases loaded
  | ok bytes =>
      refine ⟨bytes, rfl, ?_⟩
      rw [read] at loaded
      cases decoded : Log.decode bytes with
      | error reason =>
          simp only [decoded, Except.mapError, bind, Except.bind] at loaded
          cases loaded
      | ok chunks =>
          simp only [decoded, Except.mapError, bind, Except.bind] at loaded
          cases loaded
          rfl

end TerminalAgent
