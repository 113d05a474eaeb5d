import TerminalAgent.Message.Wire
import TerminalAgent.Proofs.MessagePack.Reading
import TerminalAgent.Proofs.SortedMap

/-! # Messages are read back

Whatever follows a message on the wire, reading gives the message. Each property is told from the
others by the token in front of it, and the properties come in the order of their keys, so that
putting them into a map one after the other makes the map they came from.
-/

namespace TerminalAgent

open MessagePack

/-! ## Properties -/

namespace Property

/-- A text is short enough for the wire; the other scalars always are. -/
def Fits : Property → Prop
  | text s => (Utf8.encode s).length < 0x100000000
  | _ => True

instance : DecidablePred Fits
  | text _ => inferInstanceAs (Decidable (_ < _))
  | bool _ | int _ | float _ => .isTrue trivial

/-- An integer of 64 bits is read from either form that announces it. -/
theorem ofToken?_integer {i : Int64} {token : Token}
    (h : 0 ≤ i.toInt ∧ token = .unsigned i.toInt.toNat ∨ token = .signed i.toInt) :
    ofToken? token = some (.int i) := by
  rcases h with ⟨nonnegative, rfl⟩ | rfl
  · -- Without a sign the integer is below the word that would make it a float.
    have small : i.toInt.toNat < 0x8000000000000000 := by
      have := i.toInt_lt
      omega
    have value : Int64.ofNat i.toInt.toNat = i := by
      rw [← Int64.ofInt_eq_ofNat, Int.toNat_of_nonneg nonnegative, Int64.ofInt_toInt]
    simp only [ofToken?, if_pos small, value]
  · simp only [ofToken?, Int64.ofInt_toInt]

theorem announces_encode (p : Property) (fits : p.Fits) :
    ∃ marker token, Announces p.encode marker token ∧ token.isContainer = false ∧
      ofToken? token = some p := by
  cases p with
  | bool b =>
      obtain ⟨marker, announced⟩ := announces_bool b
      exact ⟨marker, _, announced, rfl, rfl⟩
  | int i =>
      obtain ⟨marker, ⟨nonnegative, announced⟩ | announced⟩ :=
        announces_integer i.minValue_le_toInt i.toInt_lt
      · exact ⟨marker, _, announced, rfl, ofToken?_integer (.inl ⟨nonnegative, rfl⟩)⟩
      · exact ⟨marker, _, announced, rfl, ofToken?_integer (.inr rfl)⟩
  | float x => exact ⟨_, _, announces_float x, rfl, rfl⟩
  | text s =>
      obtain ⟨marker, announced, -⟩ := announces_text fits
      exact ⟨marker, _, announced, rfl, by
        simp only [ofToken?, Utf8.decode?_encode, Option.map_some]⟩

theorem format_yields {p : Property} (fits : p.Fits) (depth : Nat) :
    Yields (format.read depth) p.encode p := by
  obtain ⟨marker, token, announced, isScalar, found⟩ := p.announces_encode fits
  rw [← List.append_nil p.encode]
  refine Format.ofToken_yields announced (enter_yields isScalar) ?_
  simp only [found]
  exact .pure p

end Property

namespace SortedMap

/-- Keys and values are short enough for the wire, and so is their number. -/
structure Fits (props : SortedMap Property) : Prop where
  size : props.size < 0x100000000
  key : ∀ entry ∈ props.entries, (Utf8.encode entry.1).length < 0x100000000
  value : ∀ entry ∈ props.entries, entry.2.Fits

end SortedMap

/-- Entries in ascending order are put behind those read before. -/
theorem readEntries_props {entries : List (String × Property)} {before : SortedMap Property}
    (sorted : (before.entries ++ entries).Pairwise fun a b => a.1 < b.1)
    (key : ∀ entry ∈ entries, (Utf8.encode entry.1).length < 0x100000000)
    (value : ∀ entry ∈ entries, entry.2.Fits) (depth : Nat) :
    ∃ after, after.entries = before.entries ++ entries ∧
      Yields
        (Format.readEntries
          (fun props => do
            let key ← Format.text.read depth
            let value ← Property.format.read depth
            pure (props.insert key value))
          entries.length before)
        (entries.flatMap fun entry => Writer.text entry.1 ++ entry.2.encode) after := by
  induction entries generalizing before with
  | nil => exact ⟨before, (List.append_nil _).symm, .pure before⟩
  | cons entry rest ih =>
      -- Each key is above those before it, so inserting it puts it last.
      have above : ∀ other ∈ before.entries, other.1 < entry.1 := fun other member =>
        (List.pairwise_append.mp sorted).2.2 other member entry List.mem_cons_self
      have behind : (before.insert entry.1 entry.2).entries = before.entries ++ [entry] :=
        SortedMap.insertEntry_last above entry.2
      have first : Yields
          (do
            let key ← Format.text.read depth
            let value ← Property.format.read depth
            pure (before.insert key value))
          (Writer.text entry.1 ++ (entry.2.encode ++ [])) (before.insert entry.1 entry.2) :=
        (Format.text_yields (key entry List.mem_cons_self) depth).bind
          ((Property.format_yields (value entry List.mem_cons_self) depth).bind (.pure _))
      rw [List.append_nil] at first
      have split : before.entries ++ entry :: rest =
          (before.insert entry.1 entry.2).entries ++ rest := by
        rw [behind, List.append_assoc, List.singleton_append]
      rw [split] at sorted
      obtain ⟨after, entries, others⟩ := ih sorted
        (fun other member => key other (List.mem_cons_of_mem _ member))
        (fun other member => value other (List.mem_cons_of_mem _ member))
      refine ⟨after, by rw [entries, split], ?_⟩
      rw [List.length_cons, List.flatMap_cons]
      exact Format.readEntries_yields first others

theorem propertiesFormat_yields {props : SortedMap Property} (fits : props.Fits) (depth : Nat) :
    Yields (propertiesFormat.read (depth + 1)) (Header.encodeProps props) props := by
  have sorted : ((∅ : SortedMap Property).entries ++ props.entries).Pairwise
      fun a b => a.1 < b.1 := props.sorted
  obtain ⟨after, entries, reads⟩ := readEntries_props sorted fits.key fits.value depth
  obtain rfl : after = props := by
    cases after
    cases props
    cases entries
    rfl
  obtain ⟨marker, announced⟩ := announces_mapHead fits.size
  exact Format.ofToken_yields announced (enter_map_yields depth _) reads

/-! ## Headers and messages -/

namespace Header

structure Fits (header : Header) : Prop where
  typ : (Utf8.encode header.typ).length < 0x100000000
  props : header.props.Fits

theorem wire_yields {header : Header} (fits : header.Fits) (depth : Nat) :
    Yields (wire.format.read (depth + 2)) header.encode header := by
  obtain ⟨proto, typ, props⟩ := header
  have front {n : Nat} {more : Bytes} {draft : Draft}
      (others : Yields (Format.readEntries (wire.readEntry (depth + 1)) n
        ⟨some proto, some typ, none⟩) more draft) :
      Yields (Format.readEntries (wire.readEntry (depth + 1)) (n + 2) wire.start)
        (Writer.text "proto" ++ Writer.natural proto.toNat ++
          (Writer.text "typ" ++ Writer.text typ ++ more)) draft := by
    apply Format.readEntries_yields
    · exact wire.readEntry_yields _ (by decide) rfl rfl
        (Field.of_yields _ _ _ _ _ (Format.uint16_yields proto _))
    apply Format.readEntries_yields
    · exact wire.readEntry_yields _ (by decide) rfl rfl
        (Field.of_yields _ _ _ _ _ (Format.text_yields fits.typ _))
    exact others
  unfold encode Writer.record
  -- Empty properties are left out, and what is left out is read as empty.
  cases isEmpty : props.isEmpty with
  | true =>
      obtain rfl : props = ∅ := by
        cases props
        cases List.isEmpty_iff.mp isEmpty
        rfl
      exact wire.format_yields (show 2 < 0x100000000 by decide) (front (.pure _)) rfl
  | false =>
      have propsEntry : Yields (wire.readEntry (depth + 1) ⟨some proto, some typ, none⟩)
          (Writer.text "props" ++ encodeProps props) ⟨some proto, some typ, some props⟩ :=
        wire.readEntry_yields _ (by decide) rfl rfl
          (Field.of_yields _ _ _ _ _ (propertiesFormat_yields fits.props depth))
      exact wire.format_yields (show 3 < 0x100000000 by decide)
        (front (Format.readEntries_yields propsEntry (.pure _))) rfl

end Header

namespace Message

/-- Every length in the message is a word of 32 bits. -/
structure Fits (m : Message) : Prop where
  header : m.toHeader.Fits
  body : m.body.length < 0x100000000

/-- A message that only says how things went, and with which session, is short enough if its parts
    are. -/
theorem fits_of_entries {m : Message} (id? : Option String) (word : String)
    (entries : m.props.entries = (id?.map fun id => (Key.sessionId, Property.text id)).toList ++
      [(Key.status, .text word)])
    (typ : (Utf8.encode m.typ).length < 0x100000000)
    (idShort : ∀ id ∈ id?, (Property.text id).Fits) (wordShort : (Property.text word).Fits)
    (body : m.body.length < 0x100000000) : m.Fits := by
  have sessionKey : (Utf8.encode Key.sessionId).length < 0x100000000 := by decide
  have statusKey : (Utf8.encode Key.status).length < 0x100000000 := by decide
  refine ⟨⟨typ, ⟨?size, ?key, ?value⟩⟩, body⟩
  all_goals cases id?
  case size.none | size.some => simp [SortedMap.size, entries]
  case key.none | key.some => simp [entries, sessionKey, statusKey]
  case value.none => simpa [entries] using wordShort
  case value.some id => simpa [entries] using ⟨idShort id rfl, wordShort⟩

theorem wire_yields {m : Message} (fits : m.Fits) :
    Yields (wire.format.read maxDepth) m.encode m := by
  obtain ⟨header, body⟩ := m
  have hdrEntry : Yields (wire.readEntry 1022 wire.start)
      (Writer.text "hdr" ++ header.encode) ⟨some header, none⟩ :=
    wire.readEntry_yields _ (by decide) rfl rfl
      (Field.of_yields _ _ _ _ _ (Header.wire_yields fits.header 1020))
  unfold encode Writer.record
  cases isEmpty : body.isEmpty with
  | true =>
      cases List.isEmpty_iff.mp isEmpty
      exact wire.format_yields (show 1 < 0x100000000 by decide)
        (Format.readEntries_yields hdrEntry (.pure _)) rfl
  | false =>
      have bodyEntry : Yields (wire.readEntry 1022 ⟨some header, none⟩)
          (Writer.text "body" ++ Writer.binary body) ⟨some header, some body⟩ :=
        wire.readEntry_yields _ (by decide) rfl rfl
          (Field.of_yields _ _ _ _ _ (Format.bytes_yields fits.body _))
      exact wire.format_yields (show 2 < 0x100000000 by decide)
        (Format.readEntries_yields hdrEntry (Format.readEntries_yields bodyEntry (.pure _))) rfl

theorem decode_encode {m : Message} (fits : m.Fits) : decode m.encode = .ok m := by
  have read := Record.decode_of_yields (wire_yields fits) []
  rw [List.append_nil] at read
  simp only [decode, read]
  rfl

/-- A message is read back from its bytes, whatever follows them. -/
theorem decode_encode_append {m : Message} (fits : m.Fits) (rest : Bytes) :
    decode (m.encode ++ rest) = .ok m := by
  have read := Record.decode_of_yields (wire_yields fits) rest
  unfold decode
  rw [read]
  rfl

/-- A NaN, an integer of five bytes and text beyond ASCII, in front of a byte that begins no value. -/
theorem decode_encode_append_scalars :
    let props := (((∅ : SortedMap Property).insert "ratio" (.float ⟨0x7FF8000000000001⟩)).insert
      "count" (.int (-0x8001))).insert "name" (.text "\u00e9")
    let message : Message := ⟨⟨0xFFFF, "shell", props⟩, [0, 0xC1]⟩
    message.Fits ∧ decode (message.encode ++ [0xC1]) = .ok message := by
  intro props message
  have fits : message.Fits :=
    ⟨⟨by decide, ⟨by decide, by decide, by decide⟩⟩, by decide⟩
  exact ⟨fits, decode_encode_append fits [0xC1]⟩

end Message

end TerminalAgent
