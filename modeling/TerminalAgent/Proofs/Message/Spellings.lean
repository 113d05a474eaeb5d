import TerminalAgent.Proofs.Message.RoundTrip
import TerminalAgent.Proofs.MessagePack.Spellings

/-! # Every spelling of a message is read

Others write messages in other ways than the one short form: fields in another order and some more,
records as arrays, longer numbers and lengths. `Message.Spelling` says what spells a message, and
whatever spells it is read as that message.
-/

namespace TerminalAgent

open MessagePack

/-! ## Properties -/

inductive Property.Spelling : Property → Bytes → Prop
  | bool (b : Bool) : Property.Spelling (.bool b) [if b then 0xC3 else 0xC2]
  | int {i : Int64} {bytes : Bytes} (value : IntegerSpelling i.toInt bytes) :
      Property.Spelling (.int i) bytes
  | float {x : Binary64} {bytes : Bytes} (value : FloatSpelling x bytes) :
      Property.Spelling (.float x) bytes
  | text {s : String} {bytes : Bytes} (value : Head.str.Counted (Utf8.encode s) bytes) :
      Property.Spelling (.text s) bytes

/-- The properties of a message as a map, in any order. -/
inductive PropertiesSpelling (props : SortedMap Property) : Bytes → Prop
  | mk {entries : List (String × Property)} {front back : Bytes}
      (order : entries.Perm props.entries) (head : Head.map.Spelling entries.length front)
      (written : EntriesSpelling Property.Spelling entries back) :
      PropertiesSpelling props (front ++ back)

theorem Property.announces_spelling {p : Property} {bytes : Bytes} (h : Property.Spelling p bytes) :
    ∃ marker token, Announces bytes marker token ∧ token.isContainer = false ∧
      ofToken? token = some p := by
  cases h with
  | bool b =>
      obtain ⟨marker, announced⟩ := announces_boolSpelling b
      exact ⟨marker, _, announced, rfl, rfl⟩
  | int value =>
      obtain ⟨marker, token, announced, -, found⟩ := MessagePack.announces_spelling value
      refine ⟨marker, token, announced, ?_, ofToken?_integer found⟩
      rcases found with ⟨-, rfl⟩ | rfl <;> rfl
  | float value =>
      obtain ⟨marker, announced⟩ := announces_floatSpelling value
      exact ⟨marker, _, announced, rfl, rfl⟩
  | text value =>
      obtain ⟨marker, announced⟩ := announces_str value
      exact ⟨marker, _, announced, rfl, by
        simp only [ofToken?, Utf8.decode?_encode, Option.map_some]⟩

theorem Property.format_spelling {p : Property} {bytes : Bytes} (h : Property.Spelling p bytes)
    (depth : Nat) : Yields (Property.format.read depth) bytes p := by
  obtain ⟨marker, token, announced, isScalar, found⟩ := announces_spelling h
  rw [← List.append_nil bytes]
  refine Format.ofToken_yields announced (enter_yields isScalar) ?_
  simp only [found]
  exact .pure p

/-- Entries are put into the map one after the other. -/
theorem readEntries_spelling {entries : List (String × Property)} {bytes : Bytes}
    (h : EntriesSpelling Property.Spelling entries bytes) (depth : Nat) (before : SortedMap Property) :
    Yields
      (Format.readEntries
        (fun props => do
          let key ← Format.text.read depth
          let value ← Property.format.read depth
          pure (props.insert key value))
        entries.length before)
      bytes (entries.foldl (fun props entry => props.insert entry.1 entry.2) before) := by
  induction h generalizing before with
  | nil => exact .pure before
  | @cons name value key bytes rest entries named held others ih =>
      have first : Yields
          (do
            let key ← Format.text.read depth
            let value ← Property.format.read depth
            pure (before.insert key value))
          (key ++ (bytes ++ [])) (before.insert name value) :=
        (Format.text_spelling named depth).bind
          ((Property.format_spelling held depth).bind (.pure _))
      rw [List.append_nil] at first
      exact Format.readEntries_yields first (ih (before.insert name value))

theorem propertiesFormat_spelling {props : SortedMap Property} {bytes : Bytes}
    (h : PropertiesSpelling props bytes) (depth : Nat) :
    Yields (propertiesFormat.read (depth + 1)) bytes props := by
  cases h with
  | mk order head written =>
      obtain ⟨marker, announced⟩ := announces_map head
      have reads := readEntries_spelling written depth ∅
      rw [SortedMap.foldl_insert_of_perm order] at reads
      exact Format.ofToken_yields announced (enter_map_yields depth _) reads

/-! ## Headers -/

namespace Header

/-- A header with properties that may be left out if there are none. Other fields may hold as many
    containers inside one another as are left inside message and header. -/
inductive Spelling (header : Header) : Bytes → Prop
  | mk {proto typ bytes : Bytes} {props : List (String × Bytes)}
      (protoSpelled : IntegerSpelling header.proto.toNat proto)
      (typSpelled : Head.str.Counted (Utf8.encode header.typ) typ)
      (propsSpelled : Omissible "props" (header.props = ∅) (PropertiesSpelling header.props) props)
      (record : RecordSpelling ["proto", "typ", "props"] (maxDepth - 2)
        (("proto", proto) :: ("typ", typ) :: props) bytes) :
      Spelling header bytes

/-- What is known of a header when the fields of these names were met. -/
def draftOf (header : Header) (seen : List String) : Draft where
  proto := if "proto" ∈ seen then some header.proto else none
  typ := if "typ" ∈ seen then some header.typ else none
  props := if "props" ∈ seen then some header.props else none

theorem wire_drafts {header : Header} {proto typ : Bytes} {props : List (String × Bytes)}
    (protoSpelled : IntegerSpelling header.proto.toNat proto)
    (typSpelled : Head.str.Counted (Utf8.encode header.typ) typ)
    (propsSpelled : Omissible "props" (header.props = ∅) (PropertiesSpelling header.props) props)
    (depth : Nat) :
    wire.Drafts (depth + 1) (("proto", proto) :: ("typ", typ) :: props) header.draftOf where
  start := rfl
  same := by
    intro seen seen' agree
    simp only [wire, List.forall_mem_cons, Field.of] at agree
    simp only [draftOf, agree]
  each := by
    simp only [wire, List.forall_mem_cons, List.not_mem_nil, false_imp_iff, implies_true, and_true]
    refine ⟨.of header.proto ?_ ?_ fun {bytes} member => ?_, .of header.typ ?_ ?_ fun {bytes} member => ?_,
      .of header.props ?_ ?_ fun {bytes} member => ?_⟩
    · simp +contextual [draftOf]
    · simp [draftOf]
    · obtain rfl : bytes = proto := by
        cases propsSpelled <;> simpa using member
      exact Format.uint16_spelling protoSpelled (depth + 1)
    · simp +contextual [draftOf]
    · simp [draftOf]
    · obtain rfl : bytes = typ := by
        cases propsSpelled <;> simpa using member
      exact Format.text_spelling typSpelled (depth + 1)
    · simp +contextual [draftOf]
    · simp [draftOf]
    · have held : ("props", bytes) ∈ props := by simpa using member
      exact propertiesFormat_spelling (propsSpelled.spelled held).2 depth
  order := by
    cases propsSpelled with
    | omitted => exact ⟨wire.fields.take 2, wire.fields.drop 2, rfl, rfl, by simp [wire, Field.of]⟩
    | written => exact ⟨wire.fields, [], rfl, rfl, by simp⟩
  distinct := by decide

theorem wire_spelling {header : Header} {bytes : Bytes} (h : Spelling header bytes) :
    Yields (wire.format.read (maxDepth - 1)) bytes header := by
  cases h with
  | mk protoSpelled typSpelled propsSpelled record =>
      refine (wire_drafts protoSpelled typSpelled propsSpelled (maxDepth - 3)).format_yields rfl record ?_
      cases propsSpelled with
      | omitted none =>
          obtain ⟨proto, typ, props⟩ := header
          cases none
          rfl
      | written => rfl

end Header

/-! ## Messages -/

namespace Message

/-- A message with a body that may be left out if it is empty. -/
inductive Spelling (m : Message) : Bytes → Prop
  | mk {header bytes : Bytes} {body : List (String × Bytes)}
      (headerSpelled : m.toHeader.Spelling header)
      (bodySpelled : Omissible "body" (m.body = []) (Head.bin.Counted m.body) body)
      (record : RecordSpelling ["hdr", "body"] (maxDepth - 1) (("hdr", header) :: body) bytes) :
      Spelling m bytes

/-- What is known of a message when the fields of these names were met. -/
def draftOf (m : Message) (seen : List String) : Draft where
  header := if "hdr" ∈ seen then some m.toHeader else none
  body := if "body" ∈ seen then some m.body else none

theorem wire_drafts {m : Message} {header : Bytes} {body : List (String × Bytes)}
    (headerSpelled : m.toHeader.Spelling header)
    (bodySpelled : Omissible "body" (m.body = []) (Head.bin.Counted m.body) body) :
    wire.Drafts (maxDepth - 1) (("hdr", header) :: body) m.draftOf where
  start := rfl
  same := by
    intro seen seen' agree
    simp only [wire, List.forall_mem_cons, Field.of] at agree
    simp only [draftOf, agree]
  each := by
    simp only [wire, List.forall_mem_cons, List.not_mem_nil, false_imp_iff, implies_true, and_true]
    refine ⟨.of m.toHeader ?_ ?_ fun {bytes} member => ?_, .of m.body ?_ ?_ fun {bytes} member => ?_⟩
    · simp +contextual [draftOf]
    · simp [draftOf]
    · obtain rfl : bytes = header := by
        cases bodySpelled <;> simpa using member
      exact Header.wire_spelling headerSpelled
    · simp +contextual [draftOf]
    · simp [draftOf]
    · have held : ("body", bytes) ∈ body := by simpa using member
      exact Format.bytes_spelling (bodySpelled.spelled held).2 (maxDepth - 1)
  order := by
    cases bodySpelled with
    | omitted => exact ⟨wire.fields.take 1, wire.fields.drop 1, rfl, rfl, by simp [wire, Field.of]⟩
    | written => exact ⟨wire.fields, [], rfl, rfl, by simp⟩
  distinct := by decide

/-- Whatever spells a message is read as the message, whatever follows it. -/
theorem decode_spelling {m : Message} {bytes : Bytes} (h : m.Spelling bytes) (rest : Bytes) :
    decode (bytes ++ rest) = .ok m := by
  cases h with
  | mk headerSpelled bodySpelled record =>
      have reads : Yields (wire.format.read maxDepth) bytes m := by
        refine (wire_drafts headerSpelled bodySpelled).format_yields rfl record ?_
        obtain ⟨header, body⟩ := m
        cases bodySpelled with
        | omitted empty =>
            cases empty
            rfl
        | written => rfl
      have read := Record.decode_of_yields reads rest
      unfold decode
      rw [read]
      rfl

/-- An array in which the body is left out, around a header that has an unknown field in front and its
    fields the other way round, with a number in single precision and lengths in more bytes than needed. -/
theorem decode_spelling_foreign :
    let props := ((∅ : SortedMap Property).insert "a" (.float ⟨0x3FE0000000000000⟩)).insert "n" (.int 5)
    let message : Message := ⟨⟨1, "shell", props⟩, []⟩
    let bytes : Bytes :=
      [0xDC, 0, 1, 0x84, 0xA1, 0x78, 0x91, 0x81, 0xC0, 0xC3,
        0xA5, 0x70, 0x72, 0x6F, 0x70, 0x73, 0xDE, 0, 2, 0xA1, 0x6E, 0xD1, 0, 5, 0xA1, 0x61, 0xCA, 0x3F, 0, 0, 0,
        0xA3, 0x74, 0x79, 0x70, 0xD9, 5, 0x73, 0x68, 0x65, 0x6C, 0x6C,
        0xA5, 0x70, 0x72, 0x6F, 0x74, 0x6F, 0xD2, 0, 0, 0, 1]
    message.Spelling bytes ∧ decode (bytes ++ [0xC1]) = .ok message := by
  intro props message bytes
  let extra : Bytes := [0x91, 0x81, 0xC0, 0xC3]
  let held : Bytes := [0xDE, 0, 2, 0xA1, 0x6E, 0xD1, 0, 5, 0xA1, 0x61, 0xCA, 0x3F, 0, 0, 0]
  let typ : Bytes := [0xD9, 5, 0x73, 0x68, 0x65, 0x6C, 0x6C]
  let proto : Bytes := [0xD2, 0, 0, 0, 1]
  have key (s : String) (few : (Utf8.encode s).length < 32) : Head.str.Counted (Utf8.encode s)
      (UInt8.ofNat (0xA0 + (Utf8.encode s).length) :: Utf8.encode s) := .mk (.short few)
  have half : Binary64.ofBinary32 0x3F000000 = ⟨0x3FE0000000000000⟩ := by decide +kernel
  have entries : EntriesSpelling Property.Spelling
      [("n", Property.int 5), ("a", Property.float ⟨0x3FE0000000000000⟩)] (held.drop 3) :=
    .cons (key "n" (by decide))
      (Property.Spelling.int (.signed (show (0xD1, 2) ∈ _ by decide) (by decide) (by decide)))
      (.cons (key "a" (by decide)) (Property.Spelling.float (.single half)) .nil)
  have two : Head.map.Spelling 2 (held.take 3) :=
    .wide (show (0xDE, 2) ∈ Head.map.wide by decide) (by decide)
  have properties : PropertiesSpelling props (held.take 3 ++ held.drop 3) := by
    refine .mk ?_ ?_ entries
    · exact .swap _ _ []
    · exact two
  have unknown : Whole (maxDepth - 2) extra := by
    have inner : Whole (maxDepth - 3) [0x81, 0xC0, 0xC3] := by
      refine .map (.short (show [([0xC0], [0xC3])].length < 16 by decide)) ?_ ?_
      · simp [Whole.nil]
      · simpa using Whole.bool true
    refine .array (.short (show [[0x81, 0xC0, 0xC3]].length < 16 by decide)) fun bytes member => ?_
    rwa [List.mem_singleton.mp member]
  have fields : EntriesSpelling Eq [("x", extra), ("props", held), ("typ", typ), ("proto", proto)]
      (bytes.drop 4) :=
    .cons (key "x" (by decide)) rfl (.cons (key "props" (by decide)) rfl
      (.cons (key "typ" (by decide)) rfl (.cons (key "proto" (by decide)) rfl .nil)))
  have foreign : ∀ entry ∈ [("x", extra)],
      entry.1 ∉ ["proto", "typ", "props"] ∧ Whole (maxDepth - 2) entry.2 := by
    simpa using unknown
  have order : [("x", extra), ("props", held), ("typ", typ), ("proto", proto)].Perm
      ([("proto", proto), ("typ", typ), ("props", held)] ++ [("x", extra)]) :=
    (List.reverse_perm _).symm
  have protoSpelled : IntegerSpelling (1 : UInt16).toNat proto :=
    .signed (show (0xD2, 4) ∈ _ by decide) (by decide) (by decide)
  have typSpelled : Head.str.Counted (Utf8.encode "shell") typ :=
    .mk (.wide (show (0xD9, 1) ∈ Head.str.wide by decide) (by decide))
  have header : message.toHeader.Spelling (bytes.drop 3) :=
    .mk protoSpelled typSpelled (.written properties) (.map order foreign (.short (by decide)) fields)
  have one : Head.array.Spelling 1 (bytes.take 3) :=
    .wide (show (0xDC, 2) ∈ Head.array.wide by decide) (by decide)
  have record : RecordSpelling ["hdr", "body"] (maxDepth - 1) [("hdr", bytes.drop 3)]
      (bytes.take 3 ++ [("hdr", bytes.drop 3)].flatMap Prod.snd) := .array one
  have spelled : message.Spelling bytes := .mk header (.omitted rfl) record
  exact ⟨spelled, decode_spelling spelled [0xC1]⟩

end Message

end TerminalAgent
