import TerminalAgent.Message.Wire
import TerminalAgent.Proofs.MessagePack.Following

/-! # Two readers of one header

Namespace and type of a message can be read alone, too, which agrees with reading the message, whatever
form it has, but for records that are arrays. An array must not hold more elements than are asked for,
so nothing is recovered from a message that is an array with a body in it, or whose header is an array
with properties in it.
-/

namespace TerminalAgent

open MessagePack

/-! ## Heads -/

namespace MessagePack

/-- Reads the token that begins a value, and tells the depth left inside it. -/
def readHead (depth : Nat) : Reader (Token × Nat) := do
  let token ← readToken (← readMarker)
  let inner ← enter depth token
  pure (token, inner)

/-- The token that the input begins with. -/
def headOf? (input : Bytes) : Option Token :=
  (readHead maxDepth input).toOption.map fun head => head.1.1

variable {input rest : Bytes} {depth : Nat}

/-- Whether two readers one after the other succeed, and what they give. -/
theorem toOption_bind (first : Reader α) (next : α → Reader β) (input : Bytes) :
    ((first >>= next) input).toOption =
      (first input).toOption.bind fun read => (next read.1 read.2).toOption := by
  simp only [bind, StateT.bind, Except.bind]
  cases first input <;> rfl

theorem toOption_map (f : α → β) (reader : Reader α) (input : Bytes) :
    ((f <$> reader : Reader β) input).toOption =
      (reader input).toOption.map fun read => (f read.1, read.2) := by
  rw [map_eq_pure_bind, toOption_bind]
  cases (reader input).toOption <;> rfl

theorem Format.ofToken_read (f : Nat → Token → Reader α) (scalar : Token → Except ReadError α) :
    (ofToken f scalar).read depth = readHead depth >>= fun head => f head.2 head.1 := by
  simp only [ofToken, Format.read, readHead, bind_assoc, pure_bind]

theorem headOf?_of_readHead {head : Token × Nat} (read : readHead depth input = .ok (head, rest)) :
    headOf? input = some head.1 := by
  obtain ⟨marker, between, marked, read⟩ := reader_bind_eq_ok.mp read
  obtain ⟨token, behind, announced, read⟩ := reader_bind_eq_ok.mp read
  obtain ⟨inner, _, _, same⟩ := reader_bind_eq_ok.mp read
  cases same
  have anyway : ∃ inner, enter maxDepth token behind = .ok (inner, behind) := by
    cases token <;> exact ⟨_, rfl⟩
  obtain ⟨inner, entered⟩ := anyway
  have begins : readHead maxDepth input = .ok ((token, inner), behind) :=
    reader_bind_eq_ok.mpr ⟨_, _, marked, reader_bind_eq_ok.mpr ⟨_, _, announced,
      reader_bind_eq_ok.mpr ⟨_, _, entered, rfl⟩⟩⟩
  rw [headOf?, begins]
  rfl

/-- Where something is there, it is read as such. -/
theorem Format.optional_read_of_head {head : Token × Nat} (format : Format α)
    (read : readHead depth input = .ok (head, rest)) (some_ : head.1 ≠ .nil) :
    (optional format).read depth input = (some <$> format.read depth : Reader (Option α)) input := by
  obtain ⟨marker, between, marked, read⟩ := reader_bind_eq_ok.mp read
  obtain ⟨token, behind, announced, read⟩ := reader_bind_eq_ok.mp read
  obtain ⟨inner, _, _, same⟩ := reader_bind_eq_ok.mp read
  cases same
  have notNull : marker ≠ .null := by
    rintro rfl
    cases announced
    exact some_ rfl
  simp only [Format.read, optional, Functor.map, StateT.map, bind, StateT.bind, Except.bind, marked,
    if_neg notNull]

end MessagePack

/-! ## Properties -/

theorem Property.format_passable : Property.format.Passable := by
  refine Format.ofToken_passable fun inner token => ?_
  cases found : ofToken? token with
  | some p =>
      have nothing : skipContents (skip inner) token = pure () := by
        cases token <;> first | rfl | cases found
      rw [nothing]
      exact .pure (f := fun _ => ()) p
  | none =>
      constructor
      intro input p rest read
      obtain ⟨_, _, _, read⟩ := reader_bind_eq_ok.mp read
      cases read

theorem propertiesFormat_passable : propertiesFormat.Passable := by
  refine Format.ofToken_passable fun inner token => ?_
  cases token with
  | map n =>
      dsimp only
      generalize (∅ : SortedMap Property) = props
      induction n generalizing props with
      | zero => exact .pure (f := fun _ => ()) props
      | succ n ih =>
          simp only [Format.readEntries, bind_assoc, pure_bind]
          exact (Format.text_passable inner).bind fun key =>
            (Property.format_passable inner).bind fun value => ih _
  | nil | bool | unsigned | signed | float | str | bin | array | ext => exact .throw _ _

/-! ## Headers -/

namespace Header

/-- What is known of namespace and type in what is known of the header. -/
def Draft.tag (draft : Draft) : Message.TagDraft where
  proto := draft.proto.map some
  typ := draft.typ.map some

theorem optional_uint16_follows (depth : Nat) :
    Follows (Format.uint16.read depth) ((Format.optional .uint16).read depth) some :=
  Format.optional_follows (fun _ => ⟨_, rfl⟩) depth

theorem optional_text_follows (depth : Nat) :
    Follows (Format.text.read depth) ((Format.optional .text).read depth) some :=
  Format.optional_follows (fun _ => ⟨_, rfl⟩) depth

theorem tag_prefix : Message.tagWire.fields.map Field.name <+: wire.fields.map Field.name :=
  ⟨["props"], rfl⟩

/-- Both readers take the entries of a header in step. -/
theorem tagEntry_follows (depth : Nat) (draft : Draft) :
    Follows (wire.readEntry depth draft) (Message.tagWire.readEntry depth draft.tag) Draft.tag := by
  constructor
  intro input draft' rest read
  obtain ⟨found, between, key, read⟩ := Record.readEntry_cases read
  obtain ⟨i, rfl, key'⟩ := Record.readKey_prefix tag_prefix key
  match i with
  | 0 =>
      obtain ⟨fresh, read⟩ := read
      obtain ⟨proto, value, rfl⟩ := Field.read_eq_ok.mp read
      have fresh' : draft.tag.proto.isSome = false := (Option.isSome_map ..).trans fresh
      refine (Record.readEntry_some key' fresh').trans ?_
      exact Field.read_eq_ok.mpr ⟨some proto, (optional_uint16_follows depth).reads value, rfl⟩
  | 1 =>
      obtain ⟨fresh, read⟩ := read
      obtain ⟨typ, value, rfl⟩ := Field.read_eq_ok.mp read
      have fresh' : draft.tag.typ.isSome = false := (Option.isSome_map ..).trans fresh
      refine (Record.readEntry_some key' fresh').trans ?_
      exact Field.read_eq_ok.mpr ⟨some typ, (optional_text_follows depth).reads value, rfl⟩
  | 2 =>
      obtain ⟨-, read⟩ := read
      obtain ⟨props, value, rfl⟩ := Field.read_eq_ok.mp read
      exact Record.readEntry_none key' ((propertiesFormat_passable depth).reads value)
  | i + 3 =>
      obtain ⟨passed, rfl⟩ := read
      exact Record.readEntry_none key' passed

theorem tagClose_follows (draft : Draft) : Follows (liftM (wire.close draft) : Reader Header)
    (liftM (Message.tagWire.close draft.tag)) fun header => (some header.proto, some header.typ) := by
  refine .lift fun header closed => ?_
  obtain ⟨proto, typ, props⟩ := draft
  cases proto with
  | none => cases closed
  | some proto =>
      cases typ with
      | none => cases closed
      | some typ =>
          cases closed
          rfl

/-- An array holds namespace and type, which both readers take, and whatever is left. -/
theorem elements_cases {depth n : Nat} {draft : Draft} {input rest : Bytes}
    (read : wire.readElements depth 0 n wire.fields wire.start input = .ok (draft, rest)) :
    ∃ left proto typ between, n = left + 2 ∧
      wire.readElements depth 2 left (wire.fields.drop 2) ⟨some proto, some typ, none⟩ between =
        .ok (draft, rest) ∧
      Message.tagWire.readElements depth 0 n Message.tagWire.fields Message.tagWire.start input =
        Message.tagWire.readElements depth 2 left [] ⟨some (some proto), some (some typ)⟩ between := by
  match n with
  | 0 => cases read
  | 1 =>
      rw [wire, Record.readElements_cons] at read
      obtain ⟨_, _, _, read⟩ := reader_bind_eq_ok.mp read
      cases read
  | left + 2 =>
      rw [wire, Record.readElements_cons] at read
      obtain ⟨_, behind, protoRead, read⟩ := reader_bind_eq_ok.mp read
      rw [Record.readElements_cons] at read
      obtain ⟨_, between, typRead, read⟩ := reader_bind_eq_ok.mp read
      obtain ⟨proto, protoValue, rfl⟩ := Field.read_eq_ok.mp protoRead
      obtain ⟨typ, typValue, rfl⟩ := Field.read_eq_ok.mp typRead
      refine ⟨left, proto, typ, between, rfl, read, ?_⟩
      rw [Message.tagWire, Record.readElements_cons]
      refine (reader_bind_of_ok (Field.read_eq_ok.mpr
        ⟨_, (optional_uint16_follows depth).reads protoValue, rfl⟩) _).trans ?_
      rw [Record.readElements_cons]
      exact reader_bind_of_ok (Field.read_eq_ok.mpr
        ⟨_, (optional_text_follows depth).reads typValue, rfl⟩) _

/-- No byte is a type. -/
theorem fieldsOfBytes_error (bytes : Bytes) :
    ∃ e, wire.fieldsOfBytes 0 bytes wire.fields wire.start = .error e := by
  cases bytes with
  | nil => exact ⟨_, rfl⟩
  | cons b bytes =>
      simp only [wire, Record.fieldsOfBytes, Field.of, bind, Except.bind]
      split
      next => exact ⟨_, rfl⟩
      next =>
        cases bytes with
        | nil => exact ⟨_, rfl⟩
        | cons b bytes => exact ⟨_, rfl⟩

/-- Namespace and type are read alone as they are read with the header, unless this is an array with
    properties in it. -/
theorem tagFields_of_read {depth : Nat} {token : Token} {input rest : Bytes} {header : Header}
    (read : wire.readFields depth token input = .ok (header, rest)) :
    (Message.tagWire.readFields depth token input).toOption =
      if token = .array 3 then none else some ((some header.proto, some header.typ), rest) := by
  cases token with
  | map n =>
      have follows : Follows (wire.readFields depth (.map n)) (Message.tagWire.readFields depth (.map n))
          fun header => (some header.proto, some header.typ) :=
        (Format.readEntries_follows (tagEntry_follows depth) n wire.start).bind tagClose_follows
      rw [follows.reads read]
      rfl
  | array n =>
      obtain ⟨draft, behind, elements, closed⟩ := reader_bind_eq_ok.mp read
      obtain ⟨left, proto, typ, between, rfl, others, tagElements⟩ := elements_cases elements
      match left with
      | 0 =>
          cases others
          cases closed
          have taken : Message.tagWire.readFields depth (.array 2) input =
              .ok ((some proto, some typ), rest) := (reader_bind_of_ok tagElements _).trans rfl
          rw [taken]
          rfl
      | 1 =>
          -- What is left is an element too many.
          have refused : Message.tagWire.readFields depth (.array 3) input = .error (.wrongLength 2) := by
            simp only [Record.readFields, bind, StateT.bind, tagElements]
            rfl
          rw [refused]
          rfl
      | left + 2 =>
          have one : wire.fields.drop 2 = [wire.fields[2]] := rfl
          rw [one, Record.readElements_cons] at others
          obtain ⟨_, _, _, others⟩ := reader_bind_eq_ok.mp others
          cases others
  | bin bytes =>
      obtain ⟨e, refused⟩ := fieldsOfBytes_error bytes
      simp only [Record.readFields, refused] at read
      cases read
  | nil | bool | unsigned | signed | float | str | ext => cases read

theorem optional_tagWire_of_read {depth : Nat} {input rest : Bytes} {header : Header}
    (read : wire.format.read depth input = .ok (header, rest)) :
    ((Format.optional Message.tagWire.format).read depth input).toOption =
      if headOf? input = some (.array 3) then none
      else some (some (some header.proto, some header.typ), rest) := by
  rw [Record.format, Format.ofToken_read] at read
  obtain ⟨⟨token, inner⟩, between, head, read⟩ := reader_bind_eq_ok.mp read
  have there : token ≠ .nil := by
    rintro rfl
    cases read
  have alone : (Format.optional Message.tagWire.format).read depth input =
      (some <$> Message.tagWire.readFields inner token : Reader _) between := by
    rw [Format.optional_read_of_head _ head there, Record.format, Format.ofToken_read, map_bind]
    exact reader_bind_of_ok head _
  rw [headOf?_of_readHead head, alone, toOption_map, tagFields_of_read read]
  simp only [Option.some.injEq]
  split <;> rfl

end Header

/-! ## Messages -/

namespace Message

/-- The input from the header on, which is sought in so many entries of a message. -/
def seekHeader (depth : Nat) : (count : Nat) → Bytes → Option Bytes
  | 0, _ => none
  | count + 1, input => do
      let (field, input) ← (wire.readKey depth input).toOption
      if field.any (·.name == "hdr") then some input
      else
        let (_, input) ← (skip depth input).toOption
        seekHeader depth count input

/-- The input from the header on, behind the token that begins the message. -/
def headerIn? (depth : Nat) : Token → Bytes → Option Bytes
  | .map count, input => seekHeader depth count input
  | .array _, input => some input
  | _, _ => none

/-- The input from the header of a message on. -/
def headerOf? (input : Bytes) : Option Bytes := do
  let ((token, inner), input) ← (readHead maxDepth input).toOption
  headerIn? inner token input

variable {depth : Nat} {draft draft' : Draft} {input rest : Bytes}

theorem tagged_prefix : taggedWire.fields.map Field.name <+: wire.fields.map Field.name :=
  ⟨["body"], rfl⟩

/-- What one entry of a message is to both readers. -/
inductive Entry (depth : Nat) (draft draft' : Draft) (input rest : Bytes) : Prop
  | header {header : Header} {between : Bytes} (fresh : draft.header = none)
      (held : draft'.header = some header)
      (read : Header.wire.format.read depth between = .ok (header, rest))
      (sought : ∀ count, seekHeader depth (count + 1) input = some between)
      (alone : taggedWire.readEntry depth none input =
        (some <$> (Format.optional tagWire.format).read depth : Reader _) between)
  | other (same : draft'.header = draft.header)
      (sought : ∀ count, seekHeader depth (count + 1) input = seekHeader depth count rest)
      (alone : ∀ tag, taggedWire.readEntry depth tag input = .ok (tag, rest))

theorem seekHeader_past {field : Option (MessagePack.Field Draft)} {between : Bytes}
    (key : wire.readKey depth input = .ok (field, between)) (other : field.any (·.name == "hdr") = false)
    (passed : skip depth between = .ok ((), rest)) (count : Nat) :
    seekHeader depth (count + 1) input = seekHeader depth count rest := by
  simp only [seekHeader, key, Except.toOption, bind, Option.bind, other, passed, Bool.false_eq_true,
    if_false]

theorem entry_of_read (read : wire.readEntry depth draft input = .ok (draft', rest)) :
    Entry depth draft draft' input rest := by
  obtain ⟨found, between, key, read⟩ := Record.readEntry_cases read
  obtain ⟨i, rfl, key'⟩ := Record.readKey_prefix tagged_prefix key
  match i with
  | 0 =>
      obtain ⟨fresh, read⟩ := read
      obtain ⟨header, value, rfl⟩ := Field.read_eq_ok.mp read
      have none : draft.header = none :=
        Option.isNone_iff_eq_none.mp (Option.isSome_eq_false_iff.mp fresh)
      refine .header none rfl value ?_ ?_
      · intro count
        simp only [seekHeader, key]
        rfl
      · refine (Record.readEntry_some key' rfl).trans ?_
        simp only [Field.read, Field.of, Format.read, map_eq_pure_bind, bind_assoc]
  | 1 =>
      obtain ⟨-, read⟩ := read
      obtain ⟨body, value, rfl⟩ := Field.read_eq_ok.mp read
      have passed := (Format.bytes_passable depth).reads value
      exact .other rfl (seekHeader_past key rfl passed) fun tag => Record.readEntry_none key' passed
  | i + 2 =>
      obtain ⟨passed, rfl⟩ := read
      exact .other rfl (seekHeader_past key rfl passed) fun tag => Record.readEntry_none key' passed

/-- Behind the header there is nothing for the reader of namespace and type. -/
theorem taggedEntries_after {count : Nat} {header : Header} (known : draft.header = some header)
    (read : Format.readEntries (wire.readEntry depth) count draft input = .ok (draft', rest)) :
    draft'.header = some header ∧ ∀ tag,
      Format.readEntries (taggedWire.readEntry depth) count tag input = .ok (tag, rest) := by
  induction count generalizing draft input with
  | zero =>
      cases read
      exact ⟨known, fun tag => rfl⟩
  | succ count ih =>
      obtain ⟨next, between, first, others⟩ := reader_bind_eq_ok.mp read
      cases entry_of_read first with
      | header fresh => simp [fresh] at known
      | other same _ alone =>
          obtain ⟨held, later⟩ := ih (same.trans known) others
          exact ⟨held, fun tag => reader_bind_eq_ok.mpr ⟨tag, between, alone tag, later tag⟩⟩

theorem taggedEntries_of_read {count : Nat} {header : Header} (unknown : draft.header = none)
    (held : draft'.header = some header)
    (read : Format.readEntries (wire.readEntry depth) count draft input = .ok (draft', rest)) :
    (Format.readEntries (taggedWire.readEntry depth) count none input).toOption =
      if (seekHeader depth count input).bind headOf? = some (.array 3) then none
      else some (some (some (some header.proto, some header.typ)), rest) := by
  induction count generalizing draft input with
  | zero =>
      cases read
      simp [unknown] at held
  | succ count ih =>
      obtain ⟨next, between, first, others⟩ := reader_bind_eq_ok.mp read
      cases entry_of_read first with
      | @header found behind _ now value sought alone =>
          obtain ⟨kept, later⟩ := taggedEntries_after now others
          obtain rfl : found = header := Option.some.inj (kept.symm.trans held)
          rw [sought, Option.bind_some, Format.readEntries, toOption_bind, alone, toOption_map,
            Header.optional_tagWire_of_read value]
          split
          next => rfl
          next => exact congrArg Except.toOption (later _)
      | other same sought alone =>
          rw [sought, ← ih (same.trans unknown) others]
          exact congrArg Except.toOption (reader_bind_of_ok (alone none) _)

theorem taggedClose (reader : Reader (Option (Option (Option UInt16 × Option String)))) (input : Bytes) :
    ((reader >>= fun draft => liftM (taggedWire.close draft)) input).toOption =
      (reader input).toOption.map fun read => (read.1.join, read.2) := by
  rw [toOption_bind]
  cases (reader input).toOption <;> rfl

/-- The one element that the reader of namespace and type asks for. -/
theorem taggedElements (depth left : Nat) (input : Bytes) :
    taggedWire.readElements depth 0 (left + 1) taggedWire.fields taggedWire.start input =
      ((Format.optional tagWire.format).read depth >>= fun tag =>
        taggedWire.readElements depth 1 left [] (some tag)) input := by
  rw [taggedWire, Record.readElements_cons]
  simp only [Field.read, Field.of, Format.read, bind_assoc, pure_bind]

/-- No byte is a header. -/
theorem fieldsOfBytes_error (bytes : Bytes) :
    ∃ e, wire.fieldsOfBytes 0 bytes wire.fields wire.start = .error e := by
  cases bytes <;> exact ⟨_, rfl⟩

theorem taggedFields_of_read {token : Token} {m : Message}
    (read : wire.readFields depth token input = .ok (m, rest)) :
    (taggedWire.readFields depth token input).toOption =
      if token = .array 2 ∨ (headerIn? depth token input).bind headOf? = some (.array 3) then none
      else some (some (some m.proto, some m.typ), rest) := by
  cases token with
  | map count =>
      obtain ⟨draft, between, entries, closed⟩ := reader_bind_eq_ok.mp read
      obtain ⟨header, body⟩ := draft
      cases header with
      | none => cases closed
      | some header =>
          cases closed
          have tagged := taggedEntries_of_read rfl rfl entries
          refine (taggedClose _ input).trans ?_
          rw [show taggedWire.start = none from rfl, tagged]
          simp only [reduceCtorEq, false_or, headerIn?]
          split <;> rfl
  | array n =>
      obtain ⟨draft, behind, elements, closed⟩ := reader_bind_eq_ok.mp read
      refine (taggedClose _ input).trans ?_
      match n with
      | 0 => cases elements
      | 1 =>
          rw [wire, Record.readElements_cons] at elements
          obtain ⟨_, between, headerRead, elements⟩ := reader_bind_eq_ok.mp elements
          obtain ⟨header, value, rfl⟩ := Field.read_eq_ok.mp headerRead
          cases elements
          cases closed
          have short : Token.array 1 ≠ .array 2 := nofun
          rw [taggedElements, toOption_bind, Header.optional_tagWire_of_read value]
          simp only [short, false_or, headerIn?, Option.bind_some]
          split <;> rfl
      | 2 =>
          rw [taggedElements, toOption_bind]
          cases ((Format.optional tagWire.format).read depth input).toOption <;> rfl
      | n + 3 =>
          rw [wire, Record.readElements_cons] at elements
          obtain ⟨_, _, _, elements⟩ := reader_bind_eq_ok.mp elements
          rw [Record.readElements_cons] at elements
          obtain ⟨_, _, _, elements⟩ := reader_bind_eq_ok.mp elements
          cases elements
  | bin bytes =>
      obtain ⟨e, refused⟩ := fieldsOfBytes_error bytes
      simp only [Record.readFields, refused] at read
      cases read
  | nil | bool | unsigned | signed | float | str | ext => cases read

theorem read_of_decode {input : Bytes} {m : Message} (read : decode input = .ok m) :
    ∃ rest, wire.format.read maxDepth input = .ok (m, rest) := by
  unfold decode Record.decode at read
  cases found : wire.format.read maxDepth input with
  | error e =>
      rw [found] at read
      cases read
  | ok result =>
      rw [found] at read
      cases read
      exact ⟨result.2, rfl⟩

theorem decodeHeader?_eq (input : Bytes) :
    decodeHeader? input = (taggedWire.decode input).toOption.join.bind fun tag =>
      tag.1.map fun proto => (proto, tag.2.getD "") := by
  unfold decodeHeader?
  match taggedWire.decode input with
  | .error e => rfl
  | .ok none => rfl
  | .ok (some (none, typ)) => rfl
  | .ok (some (some proto, typ)) => rfl

/-- Namespace and type are recovered from whatever is read as a message, unless it is an array with a
    body in it, or its header is an array with properties in it. From these nothing is recovered. -/
theorem decodeHeader?_of_decode {input : Bytes} {m : Message} (read : decode input = .ok m) :
    decodeHeader? input =
      if headOf? input = some (.array 2) ∨ (headerOf? input).bind headOf? = some (.array 3) then none
      else some (m.proto, m.typ) := by
  obtain ⟨rest, read⟩ := read_of_decode read
  rw [Record.format, Format.ofToken_read] at read
  obtain ⟨⟨token, inner⟩, between, head, read⟩ := reader_bind_eq_ok.mp read
  have alone : (taggedWire.decode input).toOption =
      (taggedWire.readFields inner token between).toOption.map Prod.fst := by
    unfold Record.decode
    rw [Record.format, Format.ofToken_read, reader_bind_of_ok head]
    cases taggedWire.readFields inner token between <;> rfl
  have header : headerOf? input = headerIn? inner token between := by
    simp only [headerOf?, head]
    rfl
  rw [headOf?_of_readHead head, header, decodeHeader?_eq, alone, taggedFields_of_read read]
  simp only [Option.some.injEq]
  split <;> rfl

/-- The header is all there is in an array, and its fields stand in another order and without a name. -/
theorem decodeHeader?_of_decode_single :
    let bytes : Bytes :=
      [0x91, 0x83, 0xA3, 0x74, 0x79, 0x70, 0xA5, 0x73, 0x68, 0x65, 0x6C, 0x6C, 2, 0x80, 0, 0xCD, 0, 1]
    decode bytes = .ok ⟨⟨1, "shell", ∅⟩, []⟩ ∧ decodeHeader? bytes = some (1, "shell") := by
  intro bytes
  have read : decode bytes = .ok ⟨⟨1, "shell", ∅⟩, []⟩ := rfl
  refine ⟨read, (decodeHeader?_of_decode read).trans (if_neg ?_)⟩
  decide +kernel

/-- Of a message that is an array with a body in it the header is not recovered. -/
theorem decodeHeader?_array :
    let bytes : Bytes :=
      [0x92, 0x82, 0xA5, 0x70, 0x72, 0x6F, 0x74, 0x6F, 1, 0xA3, 0x74, 0x79, 0x70,
        0xA5, 0x73, 0x68, 0x65, 0x6C, 0x6C, 0xC4, 2, 0x78, 0x79]
    decode bytes = .ok ⟨⟨1, "shell", ∅⟩, [0x78, 0x79]⟩ ∧ decodeHeader? bytes = none :=
  ⟨rfl, rfl⟩

end Message

end TerminalAgent
