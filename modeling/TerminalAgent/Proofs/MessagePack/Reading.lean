import TerminalAgent.MessagePack.Record
import TerminalAgent.MessagePack.Writer

/-! # What is written is read back

`Yields reader bytes a` says that a reader takes exactly `bytes` off any input that begins with them
and gives `a`. Readings compose along `++`, so the form that a value is written in has to be
opened only once: `Announces` ties it to its marker and to the token that the marker announces.
-/

namespace TerminalAgent.MessagePack

/-- The reader takes `bytes` off the front of any input and gives `a`. -/
def Yields (reader : Reader α) (bytes : Bytes) (a : α) : Prop :=
  ∀ rest, reader (bytes ++ rest) = .ok (a, rest)

namespace Yields

theorem pure (a : α) : Yields (Pure.pure a) [] a :=
  fun _ => rfl

theorem bind {first : Reader α} {next : α → Reader β} {front back : Bytes} {a : α} {b : β}
    (h₁ : Yields first front a) (h₂ : Yields (next a) back b) :
    Yields (first >>= next) (front ++ back) b := by
  intro rest
  have read : first (front ++ (back ++ rest)) = .ok (a, back ++ rest) := h₁ (back ++ rest)
  simp only [Bind.bind, StateT.bind, Except.bind, List.append_assoc, read]
  exact h₂ rest

/-- A check that passes takes nothing. -/
theorem lift {outcome : Except ReadError α} {a : α} (h : outcome = .ok a) :
    Yields (liftM outcome : Reader α) [] a := by
  intro rest
  rw [h]
  rfl

theorem map {reader : Reader α} {bytes : Bytes} {a : α} (f : α → β) (h : Yields reader bytes a) :
    Yields (f <$> reader) bytes (f a) := by
  intro rest
  simp only [Functor.map, StateT.map, Bind.bind, Except.bind, h rest]
  rfl

end Yields

/-! ## Numbers and byte strings -/

theorem readBytes_yields (fault : ReadError) (bytes : Bytes) :
    Yields (readBytes fault bytes.length) bytes bytes := by
  intro rest
  simp only [readBytes, Bytes.split?_append]
  rfl

theorem readUnsigned_yields {w n : Nat} (h : n < Nat.pow 256 w) :
    Yields (readUnsigned w) (Bytes.bigEndian w n) n := by
  have parts : Yields (readBytes .endInNumber w) (Bytes.bigEndian w n) (Bytes.bigEndian w n) := by
    simpa only [Bytes.length_bigEndian] using
      readBytes_yields .endInNumber (Bytes.bigEndian w n)
  have read := parts.map Bytes.ofBigEndian
  rwa [Bytes.ofBigEndian_bigEndian, Nat.mod_eq_of_lt h] at read

theorem readMarker_yields {marker : Marker} (known : Marker.ofByte marker.toByte = marker) :
    Yields readMarker [marker.toByte] marker := by
  intro rest
  simp only [readMarker, List.singleton_append, known]
  rfl

/-! ## Tokens -/

/-- The bytes are a marker and what it announces. -/
structure Announces (bytes : Bytes) (marker : Marker) (token : Token) : Prop where
  known : Marker.ofByte marker.toByte = marker
  split : ∃ tail, bytes = marker.toByte :: tail ∧ Yields (readToken marker) tail token

namespace Announces

/-- A marker that says all by itself. -/
theorem alone {marker : Marker} {token : Token} (known : Marker.ofByte marker.toByte = marker)
    (reads : readToken marker = Pure.pure token) : Announces [marker.toByte] marker token :=
  ⟨known, [], rfl, reads ▸ Yields.pure token⟩

/-- A marker in front of a number. -/
theorem number {marker : Marker} {w n : Nat} (token : Nat → Token)
    (known : Marker.ofByte marker.toByte = marker)
    (reads : readToken marker = token <$> readUnsigned w) (fits : n < Nat.pow 256 w) :
    Announces (Writer.marked marker w n) marker (token n) :=
  ⟨known, _, rfl, reads ▸ (readUnsigned_yields fits).map token⟩

/-- A marker in front of the number of bytes that follow. -/
theorem counted {marker : Marker} {w : Nat} {bytes : Bytes} (token : Bytes → Token)
    (known : Marker.ofByte marker.toByte = marker)
    (reads : readToken marker =
      (do token <$> readBytes .endInBytes (← readUnsigned w)))
    (fits : bytes.length < Nat.pow 256 w) :
    Announces (Writer.marked marker w bytes.length ++ bytes) marker (token bytes) := by
  refine ⟨known, Bytes.bigEndian w bytes.length ++ bytes, rfl, reads ▸ ?_⟩
  exact (readUnsigned_yields fits).bind ((readBytes_yields .endInBytes bytes).map token)

/-- Whatever continues from the marker reads the whole, and the contents that follow the token. -/
theorem yields {head contents : Bytes} {marker : Marker} {token : Token}
    {next : Marker → Reader α} {a : α} (h : Announces head marker token)
    (reads : ∀ tail, Yields (readToken marker) tail token →
      Yields (next marker) (tail ++ contents) a) :
    Yields (readMarker >>= next) (head ++ contents) a := by
  obtain ⟨tail, rfl, tailYields⟩ := h.split
  exact (readMarker_yields h.known).bind (reads tail tailYields)

end Announces

/-! ## The forms that are written -/

/-- A marker for one of finitely many values is read back. -/
theorem ofByte_toByte_small :
    (∀ n < 0x80, Marker.ofByte (Marker.fixPos n).toByte = .fixPos n) ∧
    (∀ n < 0x20, Marker.ofByte (Marker.fixStr n).toByte = .fixStr n) ∧
    (∀ n < 0x10, Marker.ofByte (Marker.fixMap n).toByte = .fixMap n) ∧
    (∀ n < 0x20, Marker.ofByte (Marker.fixNeg n).toByte = .fixNeg n) := by
  decide +kernel

theorem announces_natural {n : Nat} (h : n < 0x10000000000000000) :
    ∃ marker, Announces (Writer.natural n) marker (.unsigned n) ∧ Format.isNumeric marker := by
  unfold Writer.natural
  split
  next small => exact ⟨_, .alone (ofByte_toByte_small.1 n small) rfl, rfl⟩
  split
  next fits => exact ⟨_, .number .unsigned rfl rfl fits, rfl⟩
  split
  next fits => exact ⟨_, .number .unsigned rfl rfl fits, rfl⟩
  split
  next fits => exact ⟨_, .number .unsigned rfl rfl fits, rfl⟩
  exact ⟨_, .number .unsigned rfl rfl h, rfl⟩

/-- Whether a marker begins a string. -/
def beginsText : Marker → Bool
  | .fixStr _ | .str8 | .str16 | .str32 => true
  | _ => false

theorem announces_text {s : String} (h : (Utf8.encode s).length < 0x100000000) :
    ∃ marker, Announces (Writer.text s) marker (.str (Utf8.encode s)) ∧ beginsText marker := by
  unfold Writer.text Writer.strHead
  generalize Utf8.encode s = bytes at h
  simp only
  split
  next small =>
      exact ⟨.fixStr bytes.length, ⟨ofByte_toByte_small.2.1 _ small, bytes, rfl,
        (readBytes_yields .endInBytes bytes).map Token.str⟩, rfl⟩
  split
  next fits => exact ⟨_, .counted .str rfl rfl fits, rfl⟩
  split
  next fits => exact ⟨_, .counted .str rfl rfl fits, rfl⟩
  exact ⟨_, .counted .str rfl rfl h, rfl⟩

theorem pow_width {w : Nat} (width : 0 < w) : Nat.pow 2 (8 * w) = 2 * Nat.pow 2 (8 * w - 1) := by
  obtain ⟨bits, eq⟩ : ∃ bits, 8 * w = bits + 1 := ⟨8 * w - 1, by omega⟩
  rw [eq, Nat.add_sub_cancel, Nat.pow_eq, Nat.pow_eq, Nat.pow_succ, Nat.mul_comm]

theorem signedOf_wrapped {w : Nat} {i : Int} (negative : i < 0)
    (fits : -(Nat.pow 2 (8 * w - 1) : Int) ≤ i) (width : 0 < w) :
    signedOf w (i + (Nat.pow 2 (8 * w) : Int)).toNat = i := by
  simp only [signedOf]
  rw [pow_width width]
  generalize Nat.pow 2 (8 * w - 1) = half at fits
  rw [if_neg (by omega)]
  omega

/-- A marker in front of a number below zero. -/
theorem announces_wrapped {marker : Marker} {w : Nat} {i : Int}
    (known : Marker.ofByte marker.toByte = marker)
    (reads : readToken marker = Token.signed <$> signedOf w <$> readUnsigned w)
    (negative : i < 0) (fits : -(Nat.pow 2 (8 * w - 1) : Int) ≤ i) (width : 0 < w)
    (size : Nat.pow 2 (8 * w) = Nat.pow 256 w) :
    Announces (Writer.marked marker w (i + (Nat.pow 2 (8 * w) : Int)).toNat) marker
      (.signed i) := by
  refine ⟨known, _, rfl, ?_⟩
  have room : 0 < Nat.pow 256 w := Nat.pow_pos (by decide)
  have word : (i + (Nat.pow 2 (8 * w) : Int)).toNat < Nat.pow 256 w := by omega
  have read := ((readUnsigned_yields word).map (signedOf w)).map Token.signed
  rwa [signedOf_wrapped negative fits width, ← reads] at read

/-- An integer is announced without a sign if it is not negative. -/
theorem announces_integer {i : Int} (least : -0x8000000000000000 ≤ i)
    (most : i < 0x8000000000000000) :
    ∃ marker, (0 ≤ i ∧ Announces (Writer.integer i) marker (.unsigned i.toNat)) ∨
      Announces (Writer.integer i) marker (.signed i) := by
  unfold Writer.integer
  split
  next nonnegative =>
      obtain ⟨marker, announced, -⟩ := announces_natural (n := i.toNat) (by omega)
      exact ⟨marker, .inl ⟨nonnegative, announced⟩⟩
  next negative =>
      replace negative : i < 0 := Int.not_le.mp negative
      split
      next small =>
          have known := ofByte_toByte_small.2.2.2 (i + 32).toNat (by omega)
          have value : (((i + 32).toNat : Nat) : Int) - 32 = i := by omega
          have announced : Announces [(Marker.fixNeg (i + 32).toNat).toByte] _ _ := .alone known rfl
          rw [value] at announced
          exact ⟨_, .inr announced⟩
      split
      next fits => exact ⟨_, .inr (announces_wrapped (w := 1) rfl rfl negative fits (by decide) rfl)⟩
      split
      next fits => exact ⟨_, .inr (announces_wrapped (w := 2) rfl rfl negative fits (by decide) rfl)⟩
      split
      next fits => exact ⟨_, .inr (announces_wrapped (w := 4) rfl rfl negative fits (by decide) rfl)⟩
      exact ⟨_, .inr (announces_wrapped (w := 8) rfl rfl negative least (by decide) rfl)⟩

theorem announces_bool (b : Bool) :
    ∃ marker, Announces (Writer.bool b) marker (.bool b) := by
  cases b
  · exact ⟨.false, .alone rfl rfl⟩
  · exact ⟨.true, .alone rfl rfl⟩

theorem announces_float (x : Binary64) : Announces (Writer.float x) .f64 (.float x) := by
  have announced : Announces (Writer.marked .f64 8 x.bits.toNat) .f64
      (.float ⟨UInt64.ofNat x.bits.toNat⟩) :=
    .number (fun n => .float ⟨UInt64.ofNat n⟩) rfl rfl x.bits.toNat_lt
  rwa [UInt64.ofNat_toNat] at announced

theorem announces_binary {bytes : Bytes} (h : bytes.length < 0x100000000) :
    ∃ marker, Announces (Writer.binary bytes) marker (.bin bytes) := by
  unfold Writer.binary Writer.binHead
  split
  next fits => exact ⟨_, .counted .bin rfl rfl fits⟩
  split
  next fits => exact ⟨_, .counted .bin rfl rfl fits⟩
  exact ⟨_, .counted .bin rfl rfl h⟩

theorem announces_mapHead {n : Nat} (h : n < 0x100000000) :
    ∃ marker, Announces (Writer.mapHead n) marker (.map n) := by
  unfold Writer.mapHead
  split
  next small => exact ⟨_, .alone (ofByte_toByte_small.2.2.1 n small) rfl⟩
  split
  next fits => exact ⟨_, .number .map rfl rfl fits⟩
  exact ⟨_, .number .map rfl rfl h⟩

/-! ## Formats -/

theorem enter_yields {depth : Nat} {token : Token} (scalar : token.isContainer = false) :
    Yields (enter depth token) [] depth := by
  simp only [enter, scalar, Bool.false_eq_true, if_false]
  exact .pure depth

theorem enter_map_yields (depth n : Nat) : Yields (enter (depth + 1) (.map n)) [] depth :=
  .pure depth

namespace Format

/-- A token that a format accepts, and the contents that follow it. -/
theorem ofToken_yields {f : Nat → Token → Reader α} {scalar : Token → Except ReadError α}
    {head contents : Bytes} {marker : Marker} {token : Token} {depth inner : Nat} {a : α}
    (announced : Announces head marker token) (entered : Yields (enter depth token) [] inner)
    (reads : Yields (f inner token) contents a) :
    Yields ((ofToken f scalar).read depth) (head ++ contents) a := by
  apply announced.yields
  intro tail tokenYields
  exact tokenYields.bind (entered.bind reads)

/-- A scalar whose marker is read already. -/
theorem scalar_fromMarker_yields {f : Token → Except ReadError α} {tail : Bytes}
    {marker : Marker} {token : Token} {a : α} (tokenYields : Yields (readToken marker) tail token)
    (isScalar : token.isContainer = false) (accepts : f token = .ok a) (depth : Nat) :
    Yields ((Format.scalar f).fromMarker depth marker) (tail ++ []) a :=
  tokenYields.bind ((enter_yields isScalar).bind (.lift accepts))

theorem scalar_yields {f : Token → Except ReadError α} {head : Bytes} {marker : Marker}
    {token : Token} {a : α} (announced : Announces head marker token)
    (isScalar : token.isContainer = false) (accepts : f token = .ok a) (depth : Nat) :
    Yields ((Format.scalar f).read depth) head a := by
  rw [← List.append_nil head]
  apply announced.yields
  intro tail tokenYields
  exact scalar_fromMarker_yields tokenYields isScalar accepts depth

theorem map_yields {format : Format α} {bytes : Bytes} {depth : Nat} {a : α} (f : α → β)
    (h : Yields (format.read depth) bytes a) : Yields ((format.map f).read depth) bytes (f a) := by
  intro rest
  have read := h.map f rest
  simpa only [Format.read, Format.map, map_bind] using read

/-- A natural number is read in whatever width it was written. -/
theorem natural_yields {width n : Nat} (name : String) (fits : n < Nat.pow 2 width)
    (word : n < 0x10000000000000000) (depth : Nat) :
    Yields ((natural width name).read depth) (Writer.natural n) n := by
  obtain ⟨marker, announced, numeric⟩ := announces_natural word
  rw [← List.append_nil (Writer.natural n)]
  apply announced.yields
  intro tail tokenYields
  have accepts : naturalOfToken width name (.unsigned n) = .ok n := by
    simp only [naturalOfToken, fits, if_true]
    rfl
  -- The format looks at the marker first, and lets numbers pass.
  simp only [natural, numeric, if_true]
  exact tokenYields.bind (.lift accepts)

theorem uint64_yields (n : UInt64) (depth : Nat) :
    Yields (uint64.read depth) (Writer.natural n.toNat) n := by
  have read := map_yields UInt64.ofNat
    (natural_yields "u64" (n := n.toNat) n.toNat_lt n.toNat_lt depth)
  rwa [UInt64.ofNat_toNat] at read

theorem uint16_yields (n : UInt16) (depth : Nat) :
    Yields (uint16.read depth) (Writer.natural n.toNat) n := by
  have word : n.toNat < 0x10000000000000000 := Nat.lt_trans n.toNat_lt (by decide)
  have read := map_yields UInt16.ofNat (natural_yields "u16" n.toNat_lt word depth)
  rwa [UInt16.ofNat_toNat] at read

theorem text_yields {s : String} (short : (Utf8.encode s).length < 0x100000000) (depth : Nat) :
    Yields (text.read depth) (Writer.text s) s := by
  obtain ⟨marker, announced, -⟩ := announces_text short
  have accepts : textOfToken (.str (Utf8.encode s)) = .ok s := by
    simp only [textOfToken, Utf8.decode_encode]
    rfl
  exact scalar_yields announced rfl accepts depth

theorem bytes_yields {data : Bytes} (h : data.length < 0x100000000) (depth : Nat) :
    Yields (bytes.read depth) (Writer.binary data) data := by
  obtain ⟨marker, announced⟩ := announces_binary h
  rw [← List.append_nil (Writer.binary data)]
  exact ofToken_yields announced (enter_yields rfl) (.pure data)

/-- A choice is read from the name that stands for it. -/
theorem choice_yields {type name : String} {names : List String} {i : Nat}
    (short : (Utf8.encode name).length < 0x100000000)
    (found : names.findIdx? (· == name) = some i) (depth : Nat) :
    Yields ((choice type names).read depth) (Writer.text name) i := by
  obtain ⟨marker, announced, isText⟩ := announces_text short
  have accepts : choiceOfToken names (.str (Utf8.encode name)) = .ok i := by
    simp only [choiceOfToken, Utf8.decode_encode, found]
    rfl
  have same : (choice type names).fromMarker depth marker =
      (Format.scalar (choiceOfToken names)).fromMarker depth marker := by
    cases marker <;> first | rfl | cases isText
  rw [← List.append_nil (Writer.text name)]
  apply announced.yields
  intro tail tokenYields
  rw [same]
  exact scalar_fromMarker_yields tokenYields rfl accepts depth

theorem readEntries_yields {entry : σ → Reader σ} {n : Nat} {front back : Bytes}
    {before between after : σ} (first : Yields (entry before) front between)
    (others : Yields (readEntries entry n between) back after) :
    Yields (readEntries entry (n + 1) before) (front ++ back) after :=
  first.bind others

end Format

/-! ## Records -/

theorem encode_beq (a b : String) : (Utf8.encode a == Utf8.encode b) = (a == b) := by
  rw [Bool.eq_iff_iff, beq_iff_eq, beq_iff_eq]
  exact ⟨Utf8.encode_injective, fun same => same ▸ rfl⟩

/-- A field reads its value into the draft. -/
theorem Field.of_yields {format : Format α} {depth : Nat} {bytes : Bytes} {a : α} (name : String)
    (get : σ → Option α) (set : α → σ → σ) (mayEnd : Bool) (draft : σ)
    (h : Yields (format.read depth) bytes a) :
    Yields (readMarker >>= fun marker =>
      (Field.of name format get set mayEnd).fromMarker depth marker draft) bytes (set a draft) := by
  have read := h.map fun a => set a draft
  simpa only [Field.of, Format.read, map_eq_pure_bind, bind_assoc] using read

namespace Record

/-- An entry of a map is read into the field that its key names, however the key is written. -/
theorem readEntry_announced (record : Record σ α) {depth : Nat} {name : String} {key bytes : Bytes}
    {marker : Marker} {draft draft' : σ} (field : Field σ)
    (announced : Announces key marker (.str (Utf8.encode name)))
    (found : record.fields.find? (fun field => field.name == name) = some field)
    (fresh : field.isSet draft = false)
    (reads : Yields (readMarker >>= fun marker => field.fromMarker depth marker draft)
      bytes draft') :
    Yields (record.readEntry depth draft) (key ++ bytes) draft' := by
  have named : record.fieldOfKey (.str (Utf8.encode name)) = .ok (some field) := by
    simp only [fieldOfKey, encode_beq, found]
    rfl
  have read := Format.scalar_yields announced rfl named depth
  unfold readEntry
  refine read.bind ?_
  simpa only [fresh, Bool.false_eq_true, if_false] using reads

theorem readEntry_yields (record : Record σ α) {depth : Nat} {name : String} {bytes : Bytes}
    {draft draft' : σ} (field : Field σ) (short : (Utf8.encode name).length < 0x100000000)
    (found : record.fields.find? (fun field => field.name == name) = some field)
    (fresh : field.isSet draft = false)
    (reads : Yields (readMarker >>= fun marker => field.fromMarker depth marker draft)
      bytes draft') :
    Yields (record.readEntry depth draft) (Writer.text name ++ bytes) draft' := by
  obtain ⟨marker, announced, -⟩ := announces_text short
  exact record.readEntry_announced field announced found fresh reads

/-- A map whose entries fill a draft that can be closed is a record. -/
theorem format_yields (record : Record σ α) {depth n : Nat} {entries : Bytes} {draft : σ} {a : α}
    (count : n < 0x100000000)
    (reads : Yields (Format.readEntries (record.readEntry depth) n record.start) entries draft)
    (closes : record.close draft = .ok a) :
    Yields (record.format.read (depth + 1)) (Writer.mapHead n ++ entries) a := by
  obtain ⟨marker, announced⟩ := announces_mapHead count
  refine Format.ofToken_yields announced (enter_map_yields depth n) ?_
  rw [← List.append_nil entries]
  exact reads.bind (.lift closes)

theorem decode_of_yields {record : Record σ α} {bytes : Bytes} {a : α}
    (h : Yields (record.format.read maxDepth) bytes a) (rest : Bytes) :
    record.decode (bytes ++ rest) = .ok a := by
  simp only [decode, h rest]
  rfl

end Record

end TerminalAgent.MessagePack
