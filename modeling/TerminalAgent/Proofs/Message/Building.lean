import Mathlib.Data.List.Induction
import Mathlib.Data.List.Nodup
import TerminalAgent.Proofs.Message.RoundTrip
import TerminalAgent.Proofs.Text.ByteOrder

/-! # Messages built step by step

A message is built by setting properties and the body one after the other, and what is set later takes
the place of what was set before. The bytes of the message show the last value at each key and the last
body, and nothing of the steps that led there.
-/

namespace TerminalAgent

open MessagePack

/-- A step in building a message. -/
inductive BuildStep where
  | property (key : String) (value : Property)
  | status (outcome : Status)
  | sessionId (id : String)
  | body (bytes : Bytes)
  deriving Repr, DecidableEq

namespace BuildStep

/-- The message after a step. -/
def apply (m : Message) : BuildStep → Message
  | property key value => m.withProperty key value
  | status outcome => m.withStatus outcome
  | sessionId id => m.withSessionId id
  | body bytes => m.withBody bytes

/-- The key that a step sets and its value, unless it sets the body. -/
def entry? : BuildStep → Option (String × Property)
  | property key value => some (key, value)
  | status outcome => some ("status", .text outcome.word)
  | sessionId id => some ("session_id", .text id)
  | body _ => none

/-- The value that a step gives a key. -/
def value? (key : String) (step : BuildStep) : Option Property :=
  step.entry?.bind fun entry => if entry.1 = key then some entry.2 else none

/-- The body that a step sets. -/
def body? : BuildStep → Option Bytes
  | body bytes => some bytes
  | _ => none

variable (m : Message) (step : BuildStep)

theorem value?_eq_some {step : BuildStep} {key : String} {value : Property} :
    step.value? key = some value ↔ step.entry? = some (key, value) := by
  unfold value?
  cases step.entry? with
  | none => simp
  | some entry =>
      rw [Option.bind_some, Option.ite_none_right_eq_some, Option.some.injEq, Option.some.injEq,
        Prod.ext_iff]

@[simp] theorem proto_apply : (apply m step).proto = m.proto := by cases step <;> rfl

@[simp] theorem typ_apply : (apply m step).typ = m.typ := by cases step <;> rfl

theorem body_apply : (apply m step).body = step.body?.getD m.body := by cases step <;> rfl

theorem get?_apply (key : String) :
    (apply m step).props.get? key = (step.value? key).or (m.props.get? key) := by
  have put (name : String) (held : Property) : (m.props.insert name held).get? key =
      (if name = key then some held else none).or (m.props.get? key) := by
    rw [SortedMap.get?_insert]
    by_cases same : name = key
    · simp [same]
    · simp [same, Ne.symm same]
  cases step with
  | property name held => exact put name held
  | status outcome => exact put Key.status (.text outcome.word)
  | sessionId id => exact put Key.sessionId (.text id)
  | body bytes => rfl

end BuildStep

namespace Message

open BuildStep

/-- The message that steps build from an empty one. -/
def build (proto : UInt16) (typ : String) (steps : List BuildStep) : Message :=
  steps.foldl BuildStep.apply (new proto typ)

/-! ## What is set in the end -/

/-- The last value that steps give a key. -/
def lastValue? (key : String) (steps : List BuildStep) : Option Property :=
  (steps.filterMap (value? key)).getLast?

/-- The last body that steps set; it is empty if they set none. -/
def lastBody (steps : List BuildStep) : Bytes :=
  (steps.filterMap body?).getLast?.getD []

/-- The keys that steps set, each once and with its last value. -/
def lastEntries : List BuildStep → List (String × Property)
  | [] => []
  | step :: later =>
      match step.entry? with
      | some entry =>
          if (lastValue? entry.1 later).isSome then lastEntries later
          else entry :: lastEntries later
      | none => lastEntries later

/-- Steps that set each key once, to its last value, and then the body. -/
def lastSteps (steps : List BuildStep) : List BuildStep :=
  (lastEntries steps).map (fun entry => .property entry.1 entry.2) ++ [.body (lastBody steps)]

theorem lastValue?_append (key : String) (steps later : List BuildStep) :
    lastValue? key (steps ++ later) = (lastValue? key later).or (lastValue? key steps) := by
  rw [lastValue?, List.filterMap_append, List.getLast?_append]
  rfl

theorem lastValue?_singleton (key : String) (step : BuildStep) :
    lastValue? key [step] = step.value? key := by
  unfold lastValue?
  cases held : step.value? key <;> simp [held]

theorem lastValue?_cons (key : String) (step : BuildStep) (later : List BuildStep) :
    lastValue? key (step :: later) = (lastValue? key later).or (step.value? key) := by
  rw [← List.singleton_append, lastValue?_append, lastValue?_singleton]

theorem lastBody_concat (steps : List BuildStep) (step : BuildStep) :
    lastBody (steps ++ [step]) = step.body?.getD (lastBody steps) := by
  unfold lastBody
  cases held : step.body? <;> simp [held]

/-- What steps that set no key twice set last is what they set. -/
theorem lastValue?_of_distinct {steps : List BuildStep}
    (distinct : ((steps.filterMap entry?).map Prod.fst).Nodup) {key : String} {value : Property} :
    lastValue? key steps = some value ↔ (key, value) ∈ steps.filterMap entry? := by
  induction steps generalizing value with
  | nil => simp [lastValue?]
  | cons step later ih =>
      rw [lastValue?_cons]
      cases set : step.entry? with
      | none =>
          have unset : step.value? key = none := by simp [value?, set]
          rw [List.filterMap_cons_none set] at distinct ⊢
          rw [unset, Option.or_none, ih distinct]
      | some entry =>
          rw [List.filterMap_cons_some set] at distinct ⊢
          obtain ⟨apart, distinct⟩ := List.nodup_cons.mp distinct
          by_cases same : entry.1 = key
          · have unset : lastValue? key later = none := Option.eq_none_iff_forall_ne_some.mpr
              fun held found => apart (same ▸ List.mem_map_of_mem ((ih distinct).mp found))
            have elsewhere : (key, value) ∉ later.filterMap entry? := fun member =>
              apart (same ▸ List.mem_map_of_mem member)
            rw [unset, Option.none_or, value?_eq_some, set, List.mem_cons, or_iff_left elsewhere,
              Option.some.injEq, eq_comm]
          · have unset : step.value? key = none := by simp [value?, set, same]
            have other : (key, value) ≠ entry := fun here => same (here ▸ rfl)
            rw [unset, Option.or_none, ih distinct, List.mem_cons, or_iff_right other]

theorem mem_lastEntries {steps : List BuildStep} {key : String} {value : Property} :
    (key, value) ∈ lastEntries steps ↔ lastValue? key steps = some value := by
  induction steps with
  | nil => simp [lastEntries, lastValue?]
  | cons step later ih =>
      rw [lastValue?_cons, lastEntries]
      cases set : step.entry? with
      | none =>
          have unset : step.value? key = none := by simp [value?, set]
          rw [unset, Option.or_none]
          exact ih
      | some entry =>
          dsimp only
          by_cases same : entry.1 = key
          · subst same
            cases again : lastValue? entry.1 later with
            | some held => simp [again, ih]
            | none =>
                have elsewhere : (entry.1, value) ∉ lastEntries later := by simp [ih, again]
                rw [if_neg (by simp), List.mem_cons, or_iff_left elsewhere, Option.none_or,
                  value?_eq_some, set, Option.some.injEq, eq_comm]
          · have unset : step.value? key = none := by simp [value?, set, same]
            have other : (key, value) ≠ entry := fun here => same (here ▸ rfl)
            rw [unset, Option.or_none, ← ih]
            split
            next => rfl
            next => rw [List.mem_cons, or_iff_right other]

theorem nodup_lastEntries (steps : List BuildStep) : ((lastEntries steps).map Prod.fst).Nodup := by
  induction steps with
  | nil => exact List.nodup_nil
  | cons step later ih =>
      rw [lastEntries]
      split
      next entry _ =>
        split
        next => exact ih
        next unset =>
          refine List.nodup_cons.mpr ⟨fun member => ?_, ih⟩
          obtain ⟨⟨key, value⟩, there, rfl⟩ := List.mem_map.mp member
          rw [mem_lastEntries.mp there] at unset
          exact unset rfl
      next => exact ih

/-! ## The message that is built -/

variable (proto : UInt16) (typ : String)

theorem build_concat (steps : List BuildStep) (step : BuildStep) :
    build proto typ (steps ++ [step]) = apply (build proto typ steps) step := by
  rw [build, List.foldl_append]
  rfl

theorem proto_build (steps : List BuildStep) : (build proto typ steps).proto = proto := by
  induction steps using List.reverseRecOn with
  | nil => rfl
  | append_singleton steps step ih => rw [build_concat, proto_apply, ih]

theorem typ_build (steps : List BuildStep) : (build proto typ steps).typ = typ := by
  induction steps using List.reverseRecOn with
  | nil => rfl
  | append_singleton steps step ih => rw [build_concat, typ_apply, ih]

theorem body_build (steps : List BuildStep) : (build proto typ steps).body = lastBody steps := by
  induction steps using List.reverseRecOn with
  | nil => rfl
  | append_singleton steps step ih => rw [build_concat, body_apply, ih, lastBody_concat]

theorem get?_build (steps : List BuildStep) (key : String) :
    (build proto typ steps).props.get? key = lastValue? key steps := by
  induction steps using List.reverseRecOn with
  | nil => rfl
  | append_singleton steps step ih =>
      rw [build_concat, get?_apply, ih, lastValue?_append, lastValue?_singleton]

/-- Steps build the same message if they set the same in the end, and only then. -/
theorem build_eq_iff (steps others : List BuildStep) :
    build proto typ steps = build proto typ others ↔
      (∀ key, lastValue? key steps = lastValue? key others) ∧ lastBody steps = lastBody others := by
  constructor
  · intro same
    refine ⟨fun key => ?_, ?_⟩
    · rw [← get?_build proto typ, same, get?_build]
    · rw [← body_build proto typ, same, body_build]
  · rintro ⟨values, bodies⟩
    have protos : (build proto typ steps).proto = (build proto typ others).proto := by
      rw [proto_build, proto_build]
    have typs : (build proto typ steps).typ = (build proto typ others).typ := by
      rw [typ_build, typ_build]
    have props : (build proto typ steps).props = (build proto typ others).props :=
      SortedMap.eq_of_get? fun key => by rw [get?_build, get?_build, values]
    rw [← body_build proto typ, ← body_build proto typ] at bodies
    generalize build proto typ steps = m at *
    generalize build proto typ others = n at *
    obtain ⟨⟨_, _, _⟩, _⟩ := m
    obtain ⟨⟨_, _, _⟩, _⟩ := n
    simp_all

/-- It makes no difference what was replaced on the way, nor in which order the rest is set. -/
theorem build_of_perm_lastSteps {steps once : List BuildStep} (order : once.Perm (lastSteps steps)) :
    build proto typ once = build proto typ steps := by
  have entries : (once.filterMap entry?).Perm (lastEntries steps) := by
    refine (order.filterMap entry?).trans (.of_eq ?_)
    simp [lastSteps, entry?, List.filterMap_append, List.filterMap_map, Function.comp_def]
  have bodies : once.filterMap body? = [lastBody steps] := by
    refine List.perm_singleton.mp ((order.filterMap body?).trans (.of_eq ?_))
    simp [lastSteps, body?, List.filterMap_append, List.filterMap_map, Function.comp_def]
  have distinct : ((once.filterMap entry?).map Prod.fst).Nodup :=
    (entries.map Prod.fst).nodup_iff.mpr (nodup_lastEntries steps)
  refine (build_eq_iff proto typ once steps).mpr ⟨fun key => Option.ext fun value => ?_, ?_⟩
  · rw [lastValue?_of_distinct distinct, entries.mem_iff, mem_lastEntries]
  · rw [lastBody, bodies]
    rfl

theorem entries_build (steps : List BuildStep) :
    (build proto typ steps).props.entries.Perm (lastEntries steps) := by
  refine (List.perm_ext_iff_of_nodup (SortedMap.nodup_entries _)
    (List.Nodup.of_map _ (nodup_lastEntries steps))).mpr ?_
  rintro ⟨key, value⟩
  rw [← SortedMap.get?_eq_some, get?_build, mem_lastEntries]

/-! ## Its bytes -/

/-- The bytes of a message that has properties in this order. -/
def layout (proto : UInt16) (typ : String) (entries : List (String × Property)) (body : Bytes) :
    Bytes :=
  let props := Writer.mapHead entries.length ++
    entries.flatMap fun entry => Writer.text entry.1 ++ entry.2.encode
  let header := Writer.record (
    [("proto", Writer.natural proto.toNat), ("typ", Writer.text typ)] ++
      if entries.isEmpty then [] else [("props", props)])
  Writer.record ([("hdr", header)] ++ if body.isEmpty then [] else [("body", Writer.binary body)])

theorem encode_eq_layout (m : Message) :
    m.encode = layout m.proto m.typ m.props.entries m.body := rfl

/-- Whatever steps set in the end is short enough for the wire. What was replaced does not count. -/
structure FitsLast (typ : String) (steps : List BuildStep) : Prop where
  typ : (Utf8.encode typ).length < 0x100000000
  count : (lastEntries steps).length < 0x100000000
  key : ∀ entry ∈ lastEntries steps, (Utf8.encode entry.1).length < 0x100000000
  value : ∀ entry ∈ lastEntries steps, entry.2.Fits
  body : (lastBody steps).length < 0x100000000

theorem fits_build {typ : String} {steps : List BuildStep} (fits : FitsLast typ steps) :
    (build proto typ steps).Fits := by
  have entries := entries_build proto typ steps
  refine ⟨⟨?typ, ⟨?size, ?key, ?value⟩⟩, ?body⟩
  case typ => exact (typ_build proto typ steps).symm ▸ fits.typ
  case size => exact lt_of_eq_of_lt entries.length_eq fits.count
  case key => exact fun entry member => fits.key entry (entries.mem_iff.mp member)
  case value => exact fun entry member => fits.value entry (entries.mem_iff.mp member)
  case body => exact (body_build proto typ steps).symm ▸ fits.body

theorem eq_of_encode_eq {m n : Message} (fits : m.Fits) (others : n.Fits)
    (same : m.encode = n.encode) : m = n := by
  have read := decode_encode fits
  rw [same, decode_encode others] at read
  exact (Except.ok.inj read).symm

/-- The bytes of a message that is built step by step depend only on what is set in the end: they are
    those of the message built by setting that alone, in any order. The properties stand in the order
    of the bytes of their keys, each key once. And what is set in the end can be told from the bytes. -/
theorem encode_build (proto : UInt16) (typ : String) (steps : List BuildStep)
    (fits : FitsLast typ steps) :
    (∀ once, once.Perm (lastSteps steps) →
      (build proto typ once).encode = (build proto typ steps).encode) ∧
    (∃ entries, entries.Perm (lastEntries steps) ∧
      entries.Pairwise (fun a b => Utf8.encode a.1 < Utf8.encode b.1) ∧
      (build proto typ steps).encode = layout proto typ entries (lastBody steps)) ∧
    ∀ others, FitsLast typ others →
      ((build proto typ steps).encode = (build proto typ others).encode ↔
        (∀ key, lastValue? key steps = lastValue? key others) ∧ lastBody steps = lastBody others) := by
  refine ⟨fun once order => ?_, ⟨(build proto typ steps).props.entries, ?_, ?_, ?_⟩, fun others same => ?_⟩
  · rw [build_of_perm_lastSteps proto typ order]
  · exact entries_build proto typ steps
  · exact (build proto typ steps).props.sorted.imp Utf8.encode_lt_encode.mpr
  · rw [encode_eq_layout, proto_build, typ_build, body_build]
  · rw [← build_eq_iff proto typ]
    exact ⟨eq_of_encode_eq (fits_build proto fits) (fits_build proto same), congrArg encode⟩

/-- A status that is set by two kinds of steps, a body that is set twice, and two different NaNs. -/
theorem encode_build_clashing :
    let steps : List BuildStep := [.property "b" (.int 5), .status .error, .body [1], .sessionId "s",
      .property "status" (.text "normal"), .property "b" (.float ⟨0x7FF8000000000000⟩), .body [2]]
    let once : List BuildStep := [.body [2], .property "b" (.float ⟨0x7FF8000000000000⟩),
      .property "status" (.text "normal"), .property "session_id" (.text "s")]
    let others : List BuildStep := [.status .normal, .sessionId "s",
      .property "b" (.float ⟨0x7FF8000000000001⟩), .body [2]]
    FitsLast "shell" steps ∧ FitsLast "shell" others ∧ once.Perm (lastSteps steps) ∧
      (build 1 "shell" once).encode = (build 1 "shell" steps).encode ∧
      (build 1 "shell" steps).encode ≠ (build 1 "shell" others).encode := by
  intro steps once others
  have fits : FitsLast "shell" steps := ⟨by decide, by decide, by decide, by decide, by decide⟩
  have fitsOthers : FitsLast "shell" others := ⟨by decide, by decide, by decide, by decide, by decide⟩
  have order : once.Perm (lastSteps steps) := by decide
  obtain ⟨anyOrder, -, told⟩ := encode_build 1 "shell" steps fits
  refine ⟨fits, fitsOthers, order, anyOrder once order, fun same => ?_⟩
  have differs : lastValue? "b" steps ≠ lastValue? "b" others := by decide
  exact differs (((told others fitsOthers).mp same).1 "b")

end Message

end TerminalAgent
