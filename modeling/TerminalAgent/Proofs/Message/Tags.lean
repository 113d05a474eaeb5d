import TerminalAgent.Message.Wire
import TerminalAgent.Proofs.Message.ErrorBody
import TerminalAgent.Proofs.MessagePack.Passing

/-! # Namespace and type are recovered

Whoever sent something that is no message is answered under the namespace and the type that it names.
They are found wherever they stand in a map in a map, whatever the other fields hold.
-/

namespace TerminalAgent.Message

open MessagePack

variable {proto : UInt16} {typ : String}

/-- A map with a header that is a map with namespace and type. Their other fields hold what they will. -/
inductive TagSpelling (proto : UInt16) (typ : String) : Bytes → Prop
  | mk {protoBytes typBytes header bytes : Bytes}
      (protoSpelled : IntegerSpelling proto.toNat protoBytes)
      (typSpelled : Head.str.Counted (Utf8.encode typ) typBytes)
      (headerSpelled : LooseSpelling ["proto", "typ"] (maxDepth - 2)
        [("proto", protoBytes), ("typ", typBytes)] header)
      (spelled : LooseSpelling ["hdr"] (maxDepth - 1) [("hdr", header)] bytes) :
      TagSpelling proto typ bytes

/-! ## The header -/

/-- What is known of namespace and type when the fields of these names were met. -/
def tagDraftOf (proto : UInt16) (typ : String) (seen : List String) : TagDraft where
  proto := if "proto" ∈ seen then some (some proto) else none
  typ := if "typ" ∈ seen then some (some typ) else none

theorem optional_uint16_spelling {bytes : Bytes} (h : IntegerSpelling proto.toNat bytes) (depth : Nat) :
    Yields ((Format.optional .uint16).read depth) bytes (some proto) := by
  obtain ⟨marker, token, announced, -, found⟩ := announces_spelling h
  refine Format.optional_yields announced ?_ (Format.uint16_spelling h depth)
  rcases found with ⟨-, rfl⟩ | rfl <;> exact nofun

theorem optional_text_spelling {bytes : Bytes} (h : Head.str.Counted (Utf8.encode typ) bytes)
    (depth : Nat) : Yields ((Format.optional .text).read depth) bytes (some typ) := by
  obtain ⟨marker, announced⟩ := announces_str h
  exact Format.optional_yields announced nofun (Format.text_spelling h depth)

theorem tagWire_drafts {protoBytes typBytes : Bytes}
    (protoSpelled : IntegerSpelling proto.toNat protoBytes)
    (typSpelled : Head.str.Counted (Utf8.encode typ) typBytes) (depth : Nat) :
    tagWire.Drafts depth [("proto", protoBytes), ("typ", typBytes)] (tagDraftOf proto typ) where
  start := rfl
  same := by
    intro seen seen' agree
    simp only [tagWire, List.forall_mem_cons, Field.of] at agree
    simp only [tagDraftOf, agree]
  each := by
    simp only [tagWire, List.forall_mem_cons, List.not_mem_nil, false_imp_iff, implies_true, and_true]
    refine ⟨.of (some proto) ?_ ?_ fun {bytes} member => ?_,
      .of (some typ) ?_ ?_ fun {bytes} member => ?_⟩
    · simp +contextual [tagDraftOf]
    · simp [tagDraftOf]
    · obtain rfl : bytes = protoBytes := by simpa using member
      exact optional_uint16_spelling protoSpelled depth
    · simp +contextual [tagDraftOf]
    · simp [tagDraftOf]
    · obtain rfl : bytes = typBytes := by simpa using member
      exact optional_text_spelling typSpelled depth
  order := ⟨tagWire.fields, [], rfl, rfl, by simp⟩
  distinct := by decide

/-! ## The message -/

/-- What is known of the header when the fields of these names were met. -/
def taggedDraftOf (proto : UInt16) (typ : String) (seen : List String) :
    Option (Option (Option UInt16 × Option String)) :=
  if "hdr" ∈ seen then some (some (some proto, some typ)) else none

theorem optional_tagWire_spelling {protoBytes typBytes header : Bytes}
    (protoSpelled : IntegerSpelling proto.toNat protoBytes)
    (typSpelled : Head.str.Counted (Utf8.encode typ) typBytes) {depth : Nat}
    (spelled : LooseSpelling ["proto", "typ"] depth [("proto", protoBytes), ("typ", typBytes)] header) :
    Yields ((Format.optional tagWire.format).read (depth + 1)) header (some (some proto, some typ)) := by
  have read : Yields (tagWire.format.read (depth + 1)) header (some proto, some typ) :=
    (tagWire_drafts protoSpelled typSpelled depth).format_yields_loose rfl spelled rfl
  cases spelled with
  | mk order head written =>
      obtain ⟨marker, announced⟩ := announces_map head
      exact Format.optional_contents_yields announced nofun read

theorem taggedWire_drafts {header : Bytes} {depth : Nat}
    (read : Yields ((Format.optional tagWire.format).read depth) header (some (some proto, some typ))) :
    taggedWire.Drafts depth [("hdr", header)] (taggedDraftOf proto typ) where
  start := rfl
  same := by
    intro seen seen' agree
    simp only [taggedWire, List.forall_mem_cons, Field.of] at agree
    simp only [taggedDraftOf, agree]
  each := by
    simp only [taggedWire, List.forall_mem_cons, List.not_mem_nil, false_imp_iff, implies_true,
      and_true]
    refine .of (some (some proto, some typ)) ?_ ?_ fun {bytes} member => ?_
    · simp +contextual [taggedDraftOf]
    · simp [taggedDraftOf]
    · obtain rfl : bytes = header := by simpa using member
      exact read
  order := ⟨taggedWire.fields, [], rfl, rfl, by simp⟩
  distinct := by decide

/-- Namespace and type are recovered from whatever spells them, be it a message or not. -/
theorem decodeHeader?_spelling {bytes : Bytes} (h : TagSpelling proto typ bytes) (rest : Bytes) :
    decodeHeader? (bytes ++ rest) = some (proto, typ) := by
  cases h with
  | mk protoSpelled typSpelled headerSpelled spelled =>
      have header := optional_tagWire_spelling protoSpelled typSpelled headerSpelled
      have reads : Yields (taggedWire.format.read maxDepth) bytes (some (some proto, some typ)) :=
        (taggedWire_drafts header).format_yields_loose rfl spelled rfl
      have read := Record.decode_of_yields reads rest
      simp only [decodeHeader?, read, Option.getD_some]

/-- A body that is an extension and comes twice, properties that are not there, and a field whose name is
    no text: no message, but namespace and type are in it. -/
theorem decodeHeader?_spelling_damaged :
    let header : Bytes :=
      [0x84, 0xA5, 0x70, 0x72, 0x6F, 0x70, 0x73, 0xC0,
        0xA3, 0x74, 0x79, 0x70, 0xDA, 0, 5, 0x73, 0x68, 0x65, 0x6C, 0x6C,
        0xA1, 0xFF, 0x91, 0xD4, 0, 0, 0xA5, 0x70, 0x72, 0x6F, 0x74, 0x6F, 0xD1, 0, 1]
    let bytes : Bytes :=
      [0xDE, 0, 3, 0xA4, 0x62, 0x6F, 0x64, 0x79, 0xC7, 1, 5, 0xFF, 0xA3, 0x68, 0x64, 0x72] ++ header ++
        [0xA4, 0x62, 0x6F, 0x64, 0x79, 0x81, 0xC3, 0xC2]
    TagSpelling 1 "shell" bytes ∧ (∃ e, decode (bytes ++ []) = .error e) ∧
      decodeHeader? (bytes ++ []) = some (1, "shell") := by
  intro header bytes
  have key (s : String) (few : (Utf8.encode s).length < 32) : Head.str.Counted (Utf8.encode s)
      (UInt8.ofNat (0xA0 + (Utf8.encode s).length) :: Utf8.encode s) := .mk (.short few)
  have proto : IntegerSpelling (1 : UInt16).toNat [0xD1, 0, 1] :=
    .signed (show (0xD1, 2) ∈ _ by decide) (by decide) (by decide)
  have typ : Head.str.Counted (Utf8.encode "shell") [0xDA, 0, 5, 0x73, 0x68, 0x65, 0x6C, 0x6C] :=
    .mk (.wide (show (0xDA, 2) ∈ Head.str.wide by decide) (by decide))
  have noText : Complete (maxDepth - 2) [0x91, 0xD4, 0, 0] := by
    have inner : Complete (maxDepth - 3) [0xD4, 0, 0] :=
      .extension (.fixed (k := 0) (by decide) rfl)
    refine .array (.short (show [[0xD4, 0, 0]].length < 16 by decide)) fun bytes member => ?_
    rwa [List.mem_singleton.mp member]
  have fields : LooseEntries ["proto", "typ"] (maxDepth - 2)
      [("typ", [0xDA, 0, 5, 0x73, 0x68, 0x65, 0x6C, 0x6C]), ("proto", [0xD1, 0, 1])] 4 (header.drop 1) :=
    .other (key "props" (by decide)) (by decide) (.whole .nil) <|
      .field (key "typ" (by decide)) <|
      .other (.mk (.short (show [0xFF].length < 32 by decide))) (by decide) noText <|
      .field (key "proto" (by decide)) .nil
  have headerSpelled : LooseSpelling ["proto", "typ"] (maxDepth - 2)
      [("proto", [0xD1, 0, 1]), ("typ", [0xDA, 0, 5, 0x73, 0x68, 0x65, 0x6C, 0x6C])] header :=
    .mk (.swap _ _ []) (.short (show 4 < 16 by decide)) fields
  have extension : Complete (maxDepth - 1) [0xC7, 1, 5, 0xFF] :=
    .extension (@ExtensionSpelling.wide 0xC7 5 1 [0xFF] (by decide) (by decide))
  have map : Complete (maxDepth - 1) [0x81, 0xC3, 0xC2] := by
    refine .whole (.map (.short (show [([0xC3], [0xC2])].length < 16 by decide)) ?_ ?_)
    · simpa using Whole.bool true
    · simpa using Whole.bool false
  have body : Head.str.Counted (Utf8.encode "body") [0xA4, 0x62, 0x6F, 0x64, 0x79] :=
    key "body" (by decide)
  have other : ∀ name ∈ ["hdr"], Utf8.encode name ≠ Utf8.encode "body" := by decide
  have last : LooseEntries ["hdr"] (maxDepth - 1) [] 1 [0xA4, 0x62, 0x6F, 0x64, 0x79, 0x81, 0xC3, 0xC2] :=
    .other body other map .nil
  have later : LooseEntries ["hdr"] (maxDepth - 1) [("hdr", header)] 2 _ :=
    .field (key "hdr" (by decide)) last
  have entries := LooseEntries.other body other extension later
  have three : Head.map.Spelling 3 [0xDE, 0, 3] :=
    .wide (show (0xDE, 2) ∈ Head.map.wide by decide) (by decide)
  have whole := LooseSpelling.mk (.refl _) three entries
  have spelled : TagSpelling 1 "shell" bytes := .mk proto typ headerSpelled whole
  exact ⟨spelled, ⟨_, rfl⟩, decodeHeader?_spelling spelled []⟩

end TerminalAgent.Message
