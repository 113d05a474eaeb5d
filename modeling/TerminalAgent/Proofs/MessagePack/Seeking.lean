import TerminalAgent.Proofs.MessagePack.Following

/-! # Where a value stands

What is read for a field of a record, or for a key of a map, depends on the bytes from one place on. The
place is found without the reader, by passing over whatever is not asked for.
-/

namespace TerminalAgent.MessagePack

/-- What a format reads at a place, if there is one. -/
inductive Format.ReadsAt (format : Format α) (depth : Nat) : Option Bytes → Option α → Prop
  | nothing : ReadsAt format depth none none
  | value {input rest : Bytes} {a : α} (read : format.read depth input = .ok (a, rest)) :
      ReadsAt format depth (some input) (some a)

theorem Format.ReadsAt.isSome_eq {format : Format α} {depth : Nat} {place : Option Bytes} {a : Option α}
    (h : format.ReadsAt depth place a) : a.isSome = place.isSome := by
  cases h <;> rfl

namespace Record

/-- The input from the field of a name on, which is sought in so many entries. -/
def seek (record : Record σ α) (name : String) (depth : Nat) : (count : Nat) → Bytes → Option Bytes
  | 0, _ => none
  | count + 1, input => do
      let (field, input) ← (record.readKey depth input).toOption
      if field.any (·.name == name) then some input
      else
        let (_, input) ← (skip depth input).toOption
        seek record name depth count input

variable {record : Record σ α} {format : Format β} {get : σ → Option β} {name : String}
  {field : Field σ} {found : Option (Field σ)} {draft draft' : σ} {depth : Nat} {input between rest : Bytes}

theorem mem_of_readKey (key : record.readKey depth input = .ok (some field, rest)) :
    field ∈ record.fields := by
  obtain ⟨i, known, -⟩ := readKey_prefix (List.prefix_refl (record.fields.map Field.name)) key
  exact List.mem_of_getElem? known.symm

theorem seek_here (key : record.readKey depth input = .ok (some field, between))
    (own : field.name = name) (count : Nat) :
    record.seek name depth (count + 1) input = some between := by
  simp [seek, key, Except.toOption, own]

theorem seek_past (key : record.readKey depth input = .ok (found, between))
    (other : ∀ field ∈ found, field.name ≠ name) (passed : skip depth between = .ok ((), rest))
    (count : Nat) :
    record.seek name depth (count + 1) input = record.seek name depth count rest := by
  have no : found.any (·.name == name) = false := by
    cases found with
    | none => rfl
    | some field => simpa using other field rfl
  simp only [seek, key, passed, Except.toOption, bind, Option.bind, no, Bool.false_eq_true, if_false]

/-- The input from the element for a name on, in an array of so many elements for these fields. -/
def element (name : String) (depth : Nat) : (left : Nat) → (fields : List String) → Bytes → Option Bytes
  | 0, _, _ => none
  | _ + 1, [], _ => none
  | left + 1, field :: fields, input =>
      if field = name then some input
      else do
        let (_, input) ← (skip depth input).toOption
        element name depth left fields input

theorem element_zero (name : String) (depth : Nat) (fields : List String) (input : Bytes) :
    element name depth 0 fields input = none := by
  cases fields <;> rfl

/-- The input from the field of a name on, behind the token that begins a record. -/
def place? (record : Record σ α) (name : String) (depth : Nat) : Token → Bytes → Option Bytes
  | .map count, input => record.seek name depth count input
  | .array length, input => element name depth length (record.fields.map Field.name) input
  | _, _ => none

/-- What a field has to do with the part of a draft that the field of a name has: it is that field, or
    it leaves the part alone and may be passed over. -/
inductive Plays (name : String) (format : Format β) (get : σ → Option β) : Field σ → Prop
  | own {set : β → σ → σ} {mayEnd : Bool} (sets : ∀ b draft, get (set b draft) = some b) :
      Plays name format get (.of name format get set mayEnd)
  | other {γ : Type} {name' : String} {format' : Format γ} {get' : σ → Option γ} {set' : γ → σ → σ}
      {mayEnd : Bool} (apart : name' ≠ name) (passable : format'.Passable)
      (leaves : ∀ c draft, get (set' c draft) = get draft) :
      Plays name format get (.of name' format' get' set' mayEnd)

/-- A part of the draft is what the field of a name has, and no other field has a part in it. -/
structure Takes (record : Record σ α) (name : String) (format : Format β) (get : σ → Option β) :
    Prop where
  unset : get record.start = none
  each : ∀ field ∈ record.fields, Plays name format get field

namespace Takes

theorem own (h : record.Takes name format get) (member : field ∈ record.fields)
    (named : field.name = name) :
    field.isSet draft = (get draft).isSome ∧
      (field.read depth draft input = .ok (draft', rest) →
        ∃ b, format.read depth input = .ok (b, rest) ∧ get draft' = some b) := by
  cases h.each field member with
  | other apart => exact absurd named apart
  | own sets =>
      refine ⟨rfl, fun read => ?_⟩
      obtain ⟨b, value, rfl⟩ := Field.read_eq_ok.mp read
      exact ⟨b, value, sets b draft⟩

theorem other (h : record.Takes name format get) (member : field ∈ record.fields)
    (named : field.name ≠ name) (read : field.read depth draft input = .ok (draft', rest)) :
    get draft' = get draft ∧ skip depth input = .ok ((), rest) := by
  cases h.each field member with
  | own => exact absurd rfl named
  | other apart passable leaves =>
      obtain ⟨c, value, rfl⟩ := Field.read_eq_ok.mp read
      exact ⟨leaves c draft, (passable depth).reads value⟩

/-! ### In a map -/

/-- An entry is where the field stands, or it is passed over. -/
theorem entry (h : record.Takes name format get)
    (read : record.readEntry depth draft input = .ok (draft', rest)) :
    (get draft = none ∧ ∃ place b, (∀ count, record.seek name depth (count + 1) input = some place) ∧
      format.read depth place = .ok (b, rest) ∧ get draft' = some b) ∨
    (get draft' = get draft ∧
      ∀ count, record.seek name depth (count + 1) input = record.seek name depth count rest) := by
  obtain ⟨found, between, key, read⟩ := readEntry_cases read
  cases found with
  | none =>
      obtain ⟨passed, rfl⟩ := read
      exact .inr ⟨rfl, seek_past key (by simp) passed⟩
  | some field =>
      obtain ⟨fresh, read⟩ := read
      have member := mem_of_readKey key
      by_cases named : field.name = name
      · obtain ⟨isSet, held⟩ := h.own member named
        obtain ⟨b, value, held⟩ := held read
        have unknown : get draft = none :=
          Option.isNone_iff_eq_none.mp (Option.isSome_eq_false_iff.mp (isSet.symm.trans fresh))
        exact .inl ⟨unknown, between, b, seek_here key named, value, held⟩
      · obtain ⟨same, passed⟩ := h.other member named read
        exact .inr ⟨same, seek_past key (by simpa using named) passed⟩

/-- A field that was met is not met again. -/
theorem kept (h : record.Takes name format get) {b : β} {count : Nat} (known : get draft = some b)
    (read : Format.readEntries (record.readEntry depth) count draft input = .ok (draft', rest)) :
    get draft' = some b := by
  induction count generalizing draft input with
  | zero =>
      cases read
      exact known
  | succ count ih =>
      obtain ⟨next, between, first, others⟩ := reader_bind_eq_ok.mp read
      rcases h.entry first with ⟨unknown, -⟩ | ⟨same, -⟩
      · simp [known] at unknown
      · exact ih (same.trans known) others

theorem entries (h : record.Takes name format get) {count : Nat} (unknown : get draft = none)
    (read : Format.readEntries (record.readEntry depth) count draft input = .ok (draft', rest)) :
    format.ReadsAt depth (record.seek name depth count input) (get draft') := by
  induction count generalizing draft input with
  | zero =>
      cases read
      rw [unknown]
      exact .nothing
  | succ count ih =>
      obtain ⟨next, between, first, others⟩ := reader_bind_eq_ok.mp read
      rcases h.entry first with ⟨-, place, b, sought, value, held⟩ | ⟨same, sought⟩
      · rw [sought, h.kept held others]
        exact .value value
      · rw [sought]
        exact ih (same.trans unknown) others

/-! ### In an array -/

variable {index left : Nat} {fields : List (Field σ)}

/-- Elements for other fields leave what is known. -/
theorem keptElements (h : record.Takes name format get) (known : fields ⊆ record.fields)
    (others : ∀ field ∈ fields, field.name ≠ name)
    (read : record.readElements depth index left fields draft input = .ok (draft', rest)) :
    get draft' = get draft := by
  induction fields generalizing index left draft input with
  | nil =>
      cases left with
      | zero =>
          cases read
          rfl
      | succ left => cases read
  | cons field fields ih =>
      obtain ⟨member, known⟩ := List.cons_subset.mp known
      obtain ⟨other, others⟩ := List.forall_mem_cons.mp others
      cases left with
      | zero =>
          simp only [readElements] at read
          split at read
          next => exact ih known others read
          next => cases read
      | succ left =>
          rw [readElements_cons] at read
          obtain ⟨next, between, first, read⟩ := reader_bind_eq_ok.mp read
          exact (ih known others read).trans (h.other member other first).1

theorem elements (h : record.Takes name format get) (known : fields ⊆ record.fields)
    (distinct : (fields.map Field.name).Nodup) (unknown : get draft = none)
    (read : record.readElements depth index left fields draft input = .ok (draft', rest)) :
    format.ReadsAt depth (element name depth left (fields.map Field.name) input) (get draft') := by
  induction fields generalizing index left draft input with
  | nil =>
      cases left with
      | zero =>
          cases read
          rw [unknown]
          exact .nothing
      | succ left => cases read
  | cons field fields ih =>
      obtain ⟨member, known⟩ := List.cons_subset.mp known
      obtain ⟨fresh, distinct⟩ := List.nodup_cons.mp distinct
      cases left with
      | zero =>
          simp only [readElements] at read
          split at read
          next =>
            have shorter := ih known distinct unknown read
            rw [element_zero] at shorter ⊢
            exact shorter
          next => cases read
      | succ left =>
          rw [readElements_cons] at read
          obtain ⟨next, between, first, read⟩ := reader_bind_eq_ok.mp read
          rw [List.map_cons, element]
          split
          next named =>
            obtain ⟨b, value, held⟩ := (h.own member named).2 first
            have others : ∀ field' ∈ fields, field'.name ≠ name := by
              intro field' listed same
              exact fresh (List.mem_map.mpr ⟨field', listed, same.trans named.symm⟩)
            rw [h.keptElements known others read, held]
            exact .value value
          next other =>
            obtain ⟨same, passed⟩ := h.other member other first
            simp only [passed, Except.toOption, bind, Option.bind]
            exact ih known distinct (same.trans unknown) read

/-! ### In a record -/

/-- In the draft that a record was made of is what is read where the field of a name stands. -/
theorem readFields (h : record.Takes name format get) (distinct : (record.fields.map Field.name).Nodup)
    (noBytes : ∀ bytes, ∃ e, record.fieldsOfBytes 0 bytes record.fields record.start = .error e)
    {token : Token} {a : α} (read : record.readFields depth token input = .ok (a, rest)) :
    ∃ draft, record.close draft = .ok a ∧
      format.ReadsAt depth (record.place? name depth token input) (get draft) := by
  have closed {draft : σ} {between : Bytes}
      (done : (liftM (record.close draft) : Reader α) between = .ok (a, rest)) :
      record.close draft = .ok a := by
    cases outcome : record.close draft with
    | error e =>
        rw [outcome] at done
        cases done
    | ok b =>
        rw [outcome] at done
        cases done
        rfl
  cases token with
  | map count =>
      obtain ⟨draft, between, entries, done⟩ := reader_bind_eq_ok.mp read
      exact ⟨draft, closed done, h.entries h.unset entries⟩
  | array length =>
      obtain ⟨draft, between, elements, done⟩ := reader_bind_eq_ok.mp read
      exact ⟨draft, closed done, h.elements (List.Subset.refl _) distinct h.unset elements⟩
  | bin bytes =>
      obtain ⟨e, refused⟩ := noBytes bytes
      simp only [Record.readFields, refused] at read
      cases read
  | nil | bool | unsigned | signed | float | str | ext => cases read

end Takes

end Record

/-! ## Maps with texts as keys -/

/-- The input from the value of the last entry with a key on, among so many. -/
def lastValue (key : String) (depth : Nat) : (count : Nat) → Bytes → Option Bytes
  | 0, _ => none
  | count + 1, input => do
      let (name, value) ← (Format.text.read depth input).toOption
      let (_, rest) ← (skip depth value).toOption
      (lastValue key depth count rest).or (if name = key then some value else none)

theorem lastValue_succ {key name : String} {depth count : Nat} {input value rest : Bytes}
    (named : Format.text.read depth input = .ok (name, value))
    (passed : skip depth value = .ok ((), rest)) :
    lastValue key depth (count + 1) input =
      (lastValue key depth count rest).or (if name = key then some value else none) := by
  simp only [lastValue, named, passed, Except.toOption, bind, Option.bind]

end TerminalAgent.MessagePack
