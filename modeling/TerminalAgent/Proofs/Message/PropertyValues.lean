import TerminalAgent.Proofs.Message.Spellings
import TerminalAgent.Proofs.Message.TwoReaders
import TerminalAgent.Proofs.MessagePack.Seeking

/-! # Integers among the properties

The value that a message has for a key is found on the wire without reading the properties, and what
the message has at the key is what is read there. An integer stays the integer it is, in whatever form
it is written, as long as a signed word of 64 bits holds it. Beyond that it becomes a float.
-/

namespace TerminalAgent

open MessagePack

/-! ## Integers -/

namespace MessagePack

/-- Bounds of what a spelling can hold. -/
theorem IntegerSpelling.bounds {i : Int} {bytes : Bytes} (h : IntegerSpelling i bytes) :
    -0x8000000000000000 ≤ i ∧ i < 0x10000000000000000 := by
  cases h with
  | positive least most => omega
  | negative least most => omega
  | unsigned listed least most =>
      simp only [List.mem_cons, Prod.mk.injEq, List.not_mem_nil, or_false] at listed
      rcases listed with ⟨-, rfl⟩ | ⟨-, rfl⟩ | ⟨-, rfl⟩ | ⟨-, rfl⟩ <;> simp at most <;> omega
  | signed listed least most =>
      simp only [List.mem_cons, Prod.mk.injEq, List.not_mem_nil, or_false] at listed
      rcases listed with ⟨-, rfl⟩ | ⟨-, rfl⟩ | ⟨-, rfl⟩ | ⟨-, rfl⟩ <;> simp at least most <;> omega

/-- What no signed word holds has no spelling with a sign. -/
theorem IntegerSpelling.announces_large {i : Int} {bytes : Bytes} (h : IntegerSpelling i bytes)
    (large : 0x8000000000000000 ≤ i) : ∃ marker, Announces bytes marker (.unsigned i.toNat) := by
  cases h with
  | positive least most => omega
  | negative least most => omega
  | @unsigned first w listed least most =>
      have word : i.toNat < Nat.pow 256 w := by omega
      simp only [List.mem_cons, Prod.mk.injEq, List.not_mem_nil, or_false] at listed
      rcases listed with ⟨rfl, rfl⟩ | ⟨rfl, rfl⟩ | ⟨rfl, rfl⟩ | ⟨rfl, rfl⟩
      all_goals exact ⟨_, .word word rfl⟩
  | signed listed least most =>
      simp only [List.mem_cons, Prod.mk.injEq, List.not_mem_nil, or_false] at listed
      rcases listed with ⟨-, rfl⟩ | ⟨-, rfl⟩ | ⟨-, rfl⟩ | ⟨-, rfl⟩ <;> simp at most <;> omega

end MessagePack

namespace Property

theorem format_small {i : Int} {bytes : Bytes} (h : IntegerSpelling i bytes)
    (small : i < 0x8000000000000000) (depth : Nat) :
    Yields (format.read depth) bytes (.int (Int64.ofInt i)) ∧ (Int64.ofInt i).toInt = i := by
  have value : (Int64.ofInt i).toInt = i :=
    Int64.toInt_ofInt_of_le (by simpa using h.bounds.1) (by omega)
  rw [← value] at h
  exact ⟨format_spelling (.int h) depth, value⟩

theorem format_large {i : Int} {bytes : Bytes} (h : IntegerSpelling i bytes)
    (large : 0x8000000000000000 ≤ i) (depth : Nat) :
    Yields (format.read depth) bytes (.float (Binary64.ofInt i)) := by
  obtain ⟨marker, announced⟩ := h.announces_large large
  have found : ofToken? (.unsigned i.toNat) = some (.float (Binary64.ofInt i)) := by
    have beyond : ¬ i.toNat < 0x8000000000000000 := by omega
    have same : (i.toNat : Int) = i := Int.toNat_of_nonneg (by omega)
    simp only [ofToken?, if_neg beyond, same]
  rw [← List.append_nil bytes]
  refine Format.ofToken_yields announced (enter_yields rfl) ?_
  simp only [found]
  exact .pure _

end Property

/-! ## The value of a key -/

/-- Reading one of the properties and putting it where it belongs. -/
def readProperty (depth : Nat) (props : SortedMap Property) : Reader (SortedMap Property) := do
  let key ← Format.text.read depth
  let value ← Property.format.read depth
  pure (props.insert key value)

/-- The last value for a key is the one that stays. -/
theorem readProperties_readsAt (key : String) {depth count : Nat} {before props : SortedMap Property}
    {input rest : Bytes}
    (read : Format.readEntries (readProperty depth) count before input = .ok (props, rest)) :
    ∃ found, Property.format.ReadsAt depth (lastValue key depth count input) found ∧
      props.get? key = found.or (before.get? key) := by
  induction count generalizing before input with
  | zero =>
      cases read
      exact ⟨none, .nothing, rfl⟩
  | succ count ih =>
      obtain ⟨_, between, first, others⟩ := reader_bind_eq_ok.mp read
      obtain ⟨name, behind, named, first⟩ := reader_bind_eq_ok.mp first
      obtain ⟨p, _, value, same⟩ := reader_bind_eq_ok.mp first
      cases same
      have passed := (Property.format_passable depth).reads value
      obtain ⟨found, later, kept⟩ := ih others
      rw [lastValue_succ named passed]
      generalize lastValue key depth count between = place at later
      cases later with
      | value taken => exact ⟨_, .value taken, kept⟩
      | nothing =>
          rw [kept, SortedMap.get?_insert]
          by_cases own : name = key
          · subst own
            simp only [if_true]
            exact ⟨some p, .value value, rfl⟩
          · simp only [if_neg own, if_neg (Ne.symm own)]
            exact ⟨none, .nothing, rfl⟩

namespace Header

theorem wire_takes : wire.Takes "props" propertiesFormat Draft.props where
  unset := rfl
  each := by
    simp only [wire, List.forall_mem_cons, List.not_mem_nil, false_imp_iff, implies_true, and_true]
    refine ⟨.other (by decide) ?_ fun _ _ => rfl, .other (by decide) Format.text_passable fun _ _ => rfl,
      .own fun _ _ => rfl⟩
    exact Format.map_passable (Format.natural_passable 16 "u16") UInt16.ofNat

theorem props_of_close {draft : Draft} {header : Header} (closed : wire.close draft = .ok header) :
    header.props = draft.props.getD ∅ := by
  obtain ⟨proto, typ, props⟩ := draft
  cases proto with
  | none => cases closed
  | some proto =>
      cases typ with
      | none => cases closed
      | some typ =>
          cases closed
          rfl

end Header

/-- The input from the value of a key on, behind the token that begins the properties. -/
def propertyIn? (key : String) (depth : Nat) : Token → Bytes → Option Bytes
  | .map count, input => lastValue key depth count input
  | _, _ => none

theorem properties_readsAt (key : String) {depth : Nat} {props : SortedMap Property} {input rest : Bytes}
    (read : propertiesFormat.read depth input = .ok (props, rest)) :
    ∃ token inner between, readHead depth input = .ok ((token, inner), between) ∧
      Property.format.ReadsAt inner (propertyIn? key inner token between) (props.get? key) := by
  rw [propertiesFormat, Format.ofToken_read] at read
  obtain ⟨⟨token, inner⟩, between, head, read⟩ := reader_bind_eq_ok.mp read
  refine ⟨token, inner, between, head, ?_⟩
  cases token with
  | map count =>
      obtain ⟨found, reads, kept⟩ := readProperties_readsAt key read
      rw [kept, SortedMap.get?_empty, Option.or_none]
      exact reads
  | nil | bool | unsigned | signed | float | str | bin | array | ext => cases read

namespace Message

theorem wire_takes : wire.Takes "hdr" Header.wire.format Draft.header where
  unset := rfl
  each := by
    simp only [wire, List.forall_mem_cons, List.not_mem_nil, false_imp_iff, implies_true, and_true]
    exact ⟨.own fun _ _ => rfl, .other (by decide) Format.bytes_passable fun _ _ => rfl⟩

theorem header_of_close {draft : Draft} {m : Message} (closed : wire.close draft = .ok m) :
    draft.header = some m.toHeader := by
  obtain ⟨header, body⟩ := draft
  cases header with
  | none => cases closed
  | some header =>
      cases closed
      rfl

/-- The input from the value on that a message has for a key. -/
def valueOf? (key : String) (input : Bytes) : Option Bytes := do
  let ((token, depth), input) ← (readHead maxDepth input).toOption
  let input ← wire.place? "hdr" depth token input
  let ((token, depth), input) ← (readHead depth input).toOption
  let input ← Header.wire.place? "props" depth token input
  let ((token, depth), input) ← (readHead depth input).toOption
  propertyIn? key depth token input

/-- What a message has for a key is what is read where its value stands. -/
theorem property?_readsAt {input : Bytes} {m : Message} (read : decode input = .ok m) (key : String) :
    ∃ depth, Property.format.ReadsAt depth (valueOf? key input) (m.property? key) := by
  obtain ⟨rest, read⟩ := read_of_decode read
  rw [Record.format, Format.ofToken_read] at read
  obtain ⟨⟨token, inner⟩, between, head, read⟩ := reader_bind_eq_ok.mp read
  obtain ⟨draft, closed, header⟩ := wire_takes.readFields (by decide) fieldsOfBytes_error read
  simp only [valueOf?, head, Except.toOption, bind, Option.bind]
  rw [header_of_close closed] at header
  generalize wire.place? "hdr" inner token between = place at header
  cases header with
  | value read =>
      rw [Record.format, Format.ofToken_read] at read
      obtain ⟨⟨token, inner⟩, between, head, read⟩ := reader_bind_eq_ok.mp read
      obtain ⟨draft, closed, props⟩ :=
        Header.wire_takes.readFields (by decide) Header.fieldsOfBytes_error read
      simp only [head, property?, Header.props_of_close closed]
      generalize draft.props = held, Header.wire.place? "props" inner token between = place at props
      cases props with
      | nothing => exact ⟨0, .nothing⟩
      | value read =>
          obtain ⟨token, inner, between, head, reads⟩ := properties_readsAt key read
          simp only [head]
          exact ⟨inner, reads⟩

/-- A message has a property exactly if it has a value for the key. An integer of any spelling is the
    property if 64 bits with a sign hold it, and any other integer becomes a float. -/
theorem property?_of_integer {input : Bytes} {m : Message} (read : decode input = .ok m) (key : String) :
    (m.property? key).isSome = (valueOf? key input).isSome ∧
    ∀ {i : Int} {spelled rest : Bytes}, valueOf? key input = some (spelled ++ rest) →
      IntegerSpelling i spelled →
      (i < 0x8000000000000000 → ∃ n : Int64, n.toInt = i ∧ m.property? key = some (.int n)) ∧
      (0x8000000000000000 ≤ i → m.property? key = some (.float (Binary64.ofInt i))) := by
  obtain ⟨depth, reads⟩ := property?_readsAt read key
  refine ⟨reads.isSome_eq, ?_⟩
  intro i spelled rest stands spelling
  rw [stands] at reads
  have same {p : Property} (yields : Yields (Property.format.read depth) spelled p) :
      m.property? key = some p := by
    generalize m.property? key = found at reads
    cases reads with
    | value read =>
        cases (yields rest).symm.trans read
        rfl
  constructor
  · intro small
    obtain ⟨yields, value⟩ := Property.format_small spelling small depth
    exact ⟨Int64.ofInt i, value, same yields⟩
  · intro large
    exact same (Property.format_large spelling large depth)

/-- Of two values for one key the later one counts, in a message and a header that are arrays. -/
theorem property?_of_integer_later :
    let bytes : Bytes :=
      [0x91, 0x93, 1, 0xA5, 0x73, 0x68, 0x65, 0x6C, 0x6C,
        0x82, 0xA1, 0x6E, 0xC3, 0xA1, 0x6E, 0xD1, 0xFF, 0x38]
    ∃ m n, decode bytes = .ok m ∧ m.property? "n" = some (.int n) ∧ n.toInt = -200 := by
  intro bytes
  let m : Message := ⟨⟨1, "shell", (∅ : SortedMap Property).insert "n" (.int (-200))⟩, []⟩
  have read : decode bytes = .ok m := by
    have found : (decode bytes).toOption = some m := by decide +kernel
    cases outcome : decode bytes with
    | error e => simp [outcome, Except.toOption] at found
    | ok m' => simpa [outcome, Except.toOption] using found
  have stands : valueOf? "n" bytes = some ([0xD1, 0xFF, 0x38] ++ []) := by decide +kernel
  have spelling : IntegerSpelling (-200) [0xD1, 0xFF, 0x38] :=
    .signed (show (0xD1, 2) ∈ _ by decide) (by decide) (by decide)
  obtain ⟨n, value, held⟩ := ((property?_of_integer read "n").2 stands spelling).1 (by decide)
  exact ⟨m, n, read, held, value⟩

/-- The least integer that no signed word holds is accepted, and is no integer any more. -/
theorem property?_large_integer :
    let bytes : Bytes :=
      [0x81, 0xA3, 0x68, 0x64, 0x72, 0x83, 0xA5, 0x70, 0x72, 0x6F, 0x74, 0x6F, 1,
        0xA3, 0x74, 0x79, 0x70, 0xA5, 0x73, 0x68, 0x65, 0x6C, 0x6C,
        0xA5, 0x70, 0x72, 0x6F, 0x70, 0x73, 0x81, 0xA1, 0x6E, 0xCF, 0x80, 0, 0, 0, 0, 0, 0, 0]
    ∃ m spelled, decode bytes = .ok m ∧ valueOf? "n" bytes = some spelled ∧
      IntegerSpelling 0x8000000000000000 spelled ∧
      m.property? "n" = some (.float ⟨0x43E0000000000000⟩) := by
  intro bytes
  let large : Property := .float (Binary64.ofInt 0x8000000000000000)
  let m : Message := ⟨⟨1, "shell", (∅ : SortedMap Property).insert "n" large⟩, []⟩
  have read : decode bytes = .ok m := rfl
  have stands : valueOf? "n" bytes = some [0xCF, 0x80, 0, 0, 0, 0, 0, 0, 0] := by decide +kernel
  have spelling : IntegerSpelling 0x8000000000000000 [0xCF, 0x80, 0, 0, 0, 0, 0, 0, 0] :=
    .unsigned (show (0xCF, 8) ∈ _ by decide) (by decide) (by decide)
  have rounded : Binary64.ofInt 0x8000000000000000 = ⟨0x43E0000000000000⟩ := by decide +kernel
  exact ⟨m, _, read, stands, spelling, congrArg (fun x => some (Property.float x)) rounded⟩

end Message

end TerminalAgent
