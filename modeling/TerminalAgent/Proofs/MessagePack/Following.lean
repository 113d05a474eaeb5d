import TerminalAgent.Proofs.MessagePack.Bounds

/-! # One reader after another

A reader follows another one if it succeeds wherever that one does, takes the same bytes and gives what
a function makes of the value. So to pass over a value is to follow whoever reads it.
-/

namespace TerminalAgent.MessagePack

/-- Where the first reader succeeds, the second one does so at the same bytes. -/
structure Follows (first : Reader α) (second : Reader β) (f : α → β) : Prop where
  reads : ∀ {input a rest}, first input = .ok (a, rest) → second input = .ok (f a, rest)

theorem reader_bind_eq_ok {first : Reader α} {next : α → Reader β} {input rest : Bytes} {b : β} :
    (first >>= next) input = .ok (b, rest) ↔
      ∃ a between, first input = .ok (a, between) ∧ next a between = .ok (b, rest) := by
  simp only [Bind.bind, StateT.bind, Except.bind]
  cases first input with
  | error e => simp
  | ok result =>
      obtain ⟨a, between⟩ := result
      constructor
      · intro read
        exact ⟨a, between, rfl, read⟩
      · rintro ⟨_, _, ⟨⟩, read⟩
        exact read

theorem reader_bind_of_ok {first : Reader α} {input between : Bytes} {a : α}
    (read : first input = .ok (a, between)) (next : α → Reader β) :
    (first >>= next) input = next a between := by
  simp only [Bind.bind, StateT.bind, Except.bind, read]

namespace Follows

variable {f : α → β} {g : γ → δ}

theorem refl (reader : Reader α) : Follows reader reader id := ⟨fun read => read⟩

theorem pure (a : α) : Follows (Pure.pure a) (Pure.pure (f a)) f where
  reads := by
    rintro input _ rest ⟨⟩
    rfl

theorem throw (e : ReadError) (second : Reader β) : Follows (MonadExcept.throw e) second f where
  reads := nofun

theorem bind {first : Reader α} {second : Reader β} {next : α → Reader γ} {next' : β → Reader δ}
    (h : Follows first second f) (h' : ∀ a, Follows (next a) (next' (f a)) g) :
    Follows (first >>= next) (second >>= next') g where
  reads read := by
    obtain ⟨a, between, taken, others⟩ := reader_bind_eq_ok.mp read
    exact reader_bind_eq_ok.mpr ⟨f a, between, h.reads taken, (h' a).reads others⟩

/-- Both may begin in the same way. -/
theorem after (first : Reader α) {next : α → Reader γ} {next' : α → Reader δ}
    (h : ∀ a, Follows (next a) (next' a) g) : Follows (first >>= next) (first >>= next') g :=
  (refl first).bind h

theorem lift {outcome : Except ReadError α} {outcome' : Except ReadError β}
    (h : ∀ a, outcome = .ok a → outcome' = .ok (f a)) :
    Follows (liftM outcome : Reader α) (liftM outcome' : Reader β) f where
  reads := by
    intro input a rest read
    cases outcome with
    | error e => cases read
    | ok a =>
        cases read
        rw [h a rfl]
        rfl

/-- A check takes nothing. -/
theorem check (outcome : Except ReadError α) (b : β) :
    Follows (liftM outcome : Reader α) (Pure.pure b) fun _ => b where
  reads := by
    intro input a rest read
    cases outcome with
    | error e => cases read
    | ok a =>
        cases read
        rfl

theorem map {first : Reader α} {second : Reader δ} {g : β → δ} (f : α → β)
    (h : Follows first second fun a => g (f a)) : Follows (f <$> first) second g where
  reads := by
    intro input b rest read
    rw [map_eq_pure_bind] at read
    obtain ⟨a, between, taken, same⟩ := reader_bind_eq_ok.mp read
    cases same
    exact h.reads taken

theorem mapped (first : Reader α) (f : α → β) : Follows first (f <$> first) f where
  reads := by
    intro input a rest read
    rw [map_eq_pure_bind]
    exact reader_bind_eq_ok.mpr ⟨a, rest, read, rfl⟩

end Follows

/-! ## Passing over -/

theorem skipFrom_eq (depth : Nat) (marker : Marker) :
    skipFrom depth marker = (do
      let token ← readToken marker
      let inner ← enter depth token
      skipContents (skip inner) token) := by
  cases depth with
  | zero =>
      simp only [skipFrom]
      congr 1
      funext token
      cases token <;> rfl
  | succ depth =>
      simp only [skipFrom]
      congr 1
      funext token
      cases token <;> rfl

namespace Format

/-- What the format reads may also be passed over. -/
def Passable (format : Format α) : Prop :=
  ∀ depth, Follows (format.read depth) (skip depth) fun _ => ()

theorem passable_of_fromMarker {format : Format α}
    (h : ∀ depth marker, Follows (format.fromMarker depth marker) (skipFrom depth marker) fun _ => ()) :
    format.Passable := fun depth => .after readMarker (h depth)

theorem ofToken_passable {f : Nat → Token → Reader α} {scalar : Token → Except ReadError α}
    (h : ∀ inner token, Follows (f inner token) (skipContents (skip inner) token) fun _ => ()) :
    (ofToken f scalar).Passable := by
  refine passable_of_fromMarker fun depth marker => ?_
  rw [skipFrom_eq]
  exact .after _ fun token => .after _ fun inner => h inner token

/-- A check that no container passes. -/
theorem check_follows {f : Token → Except ReadError α}
    (scalar : ∀ token, token.isContainer = true → ∃ e, f token = .error e) (inner : Nat) (token : Token) :
    Follows (liftM (f token)) (skipContents (skip inner) token) fun _ => () := by
  cases container : token.isContainer with
  | true =>
      obtain ⟨e, refused⟩ := scalar token container
      rw [refused]
      exact .throw e _
  | false =>
      have nothing : skipContents (skip inner) token = pure () := by
        cases token <;> first | rfl | cases container
      rw [nothing]
      exact .check _ ()

theorem text_passable : text.Passable := by
  refine ofToken_passable (check_follows fun token container => ?_)
  cases token <;> first | exact ⟨_, rfl⟩ | cases container

theorem natural_passable (width : Nat) (name : String) : (natural width name).Passable := by
  refine passable_of_fromMarker fun depth marker => ?_
  rw [skipFrom_eq]
  simp only [natural]
  split
  next =>
    refine .after _ fun token => ?_
    cases token with
    | unsigned | signed => exact .check _ ()
    | nil | bool | float | str | bin | array | map | ext => exact .throw _ _
  next => exact .throw _ _

theorem map_passable {format : Format α} (h : format.Passable) (f : α → β) : (format.map f).Passable := by
  intro depth
  have same : (format.map f).read depth = f <$> format.read depth := by
    simp only [Format.read, Format.map, map_bind]
  rw [same]
  exact .map f (h depth)

theorem readMany_follows {format : Format α} (h : format.Passable) (depth n : Nat) (before : List α) :
    Follows (readMany format depth n before) (times (skip depth) n) fun _ => () := by
  induction n generalizing before with
  | zero => exact .pure (f := fun _ => ()) _
  | succ n ih => exact (h depth).bind fun a => ih (a :: before)

theorem bytes_passable : bytes.Passable := by
  refine ofToken_passable fun inner token => ?_
  cases token with
  | bin | str => exact .pure (f := fun _ => ()) _
  | array n => exact readMany_follows (map_passable (natural_passable 8 "u8") UInt8.ofNat) inner n []
  | nil | bool | unsigned | signed | float | map | ext => exact .throw _ _

/-- What is there is read as such. -/
theorem optional_follows {format : Format α} (h : ∀ depth, ∃ e, format.fromMarker depth .null = throw e)
    (depth : Nat) : Follows (format.read depth) ((optional format).read depth) some := by
  refine .after readMarker fun marker => ?_
  simp only [optional]
  split
  next null =>
    obtain ⟨e, refused⟩ := h depth
    rw [null, refused]
    exact .throw e _
  next => exact .mapped _ some

end Format

theorem Format.readEntries_follows {entry : σ → Reader σ} {entry' : τ → Reader τ} {f : σ → τ}
    (h : ∀ s, Follows (entry s) (entry' (f s)) f) (n : Nat) (start : σ) :
    Follows (readEntries entry n start) (readEntries entry' n (f start)) f := by
  induction n generalizing start with
  | zero => exact .pure start
  | succ n ih => exact (h start).bind ih

/-! ## Records -/

/-- The value of a field, read into the draft. -/
def Field.read (field : Field σ) (depth : Nat) (draft : σ) : Reader σ := do
  field.fromMarker depth (← readMarker) draft

theorem Field.read_eq_ok {format : Format α} {name : String} {get : σ → Option α} {set : α → σ → σ}
    {mayEnd : Bool} {depth : Nat} {draft draft' : σ} {input rest : Bytes} :
    (Field.of name format get set mayEnd).read depth draft input = .ok (draft', rest) ↔
      ∃ a, format.read depth input = .ok (a, rest) ∧ draft' = set a draft := by
  have same : (Field.of name format get set mayEnd).read depth draft =
      format.read depth >>= fun a => pure (set a draft) := by
    simp only [Field.read, Field.of, Format.read, bind_assoc]
  rw [same, reader_bind_eq_ok]
  constructor
  · rintro ⟨a, _, read, ⟨⟩⟩
    exact ⟨a, read, rfl⟩
  · rintro ⟨a, read, rfl⟩
    exact ⟨a, rest, read, rfl⟩

namespace Record

variable {record : Record σ α} {record' : Record τ β} {depth : Nat} {draft draft' : σ}
  {input between rest : Bytes}

/-- Of two lists of fields of which one goes on, both find a name at the same position. -/
theorem find?_prefix (named : String → Bool) {fields : List (Field σ)} {fields' : List (Field τ)}
    (names : fields'.map Field.name <+: fields.map Field.name) :
    ∃ i : Nat, fields.find? (fun field => named field.name) = fields[i]? ∧
      fields'.find? (fun field => named field.name) = fields'[i]? := by
  induction fields generalizing fields' with
  | nil =>
      obtain rfl : fields' = [] := by simpa using names
      exact ⟨0, rfl, rfl⟩
  | cons field fields ih =>
      cases fields' with
      | nil => exact ⟨_, List.find?_eq_getElem?_findIdx, by simp⟩
      | cons field' fields' =>
          obtain ⟨same, names⟩ := List.cons_prefix_cons.mp names
          cases met : named field.name with
          | true => exact ⟨0, by simp [met], by simp [same, met]⟩
          | false =>
              obtain ⟨i, found, found'⟩ := ih names
              exact ⟨i + 1, by simp [met, found], by simp [same, met, found']⟩

/-- A record with only the first of the fields finds a key at the same position. -/
theorem fieldOfKey_prefix (names : record'.fields.map Field.name <+: record.fields.map Field.name)
    {key : Token} {found : Option (Field σ)} (known : record.fieldOfKey key = .ok found) :
    ∃ i : Nat, found = record.fields[i]? ∧ record'.fieldOfKey key = .ok record'.fields[i]? := by
  cases key with
  | unsigned n =>
      cases known
      exact ⟨n, rfl, rfl⟩
  | str bytes | bin bytes =>
      cases known
      obtain ⟨i, found, found'⟩ := find?_prefix (fun name => Utf8.encode name == bytes) names
      exact ⟨i, found, congrArg Except.ok found'⟩
  | nil | bool | signed | float | array | map | ext => cases known

/-- Reading the key of an entry. -/
def readKey (record : Record σ α) (depth : Nat) : Reader (Option (Field σ)) :=
  (Format.scalar record.fieldOfKey).read depth

theorem readKey_prefix (names : record'.fields.map Field.name <+: record.fields.map Field.name)
    {found : Option (Field σ)} (read : record.readKey depth input = .ok (found, rest)) :
    ∃ i : Nat, found = record.fields[i]? ∧
      record'.readKey depth input = .ok (record'.fields[i]?, rest) := by
  obtain ⟨marker, between, marked, read⟩ := reader_bind_eq_ok.mp read
  obtain ⟨token, behind, announced, read⟩ := reader_bind_eq_ok.mp read
  obtain ⟨inner, inside, entered, read⟩ := reader_bind_eq_ok.mp read
  dsimp only at read
  cases known : record.fieldOfKey token with
  | error e =>
      rw [known] at read
      cases read
  | ok field =>
      rw [known] at read
      cases read
      obtain ⟨i, same, known'⟩ := fieldOfKey_prefix names known
      refine ⟨i, same, reader_bind_eq_ok.mpr ⟨_, _, marked, reader_bind_eq_ok.mpr ⟨_, _, announced,
        reader_bind_eq_ok.mpr ⟨_, _, entered, ?_⟩⟩⟩⟩
      dsimp only
      rw [known']
      rfl

/-- An entry is a field that was not there before, or is passed over. -/
theorem readEntry_cases (read : record.readEntry depth draft input = .ok (draft', rest)) :
    ∃ found between, record.readKey depth input = .ok (found, between) ∧
      match found with
      | none => skip depth between = .ok ((), rest) ∧ draft' = draft
      | some field =>
          field.isSet draft = false ∧ field.read depth draft between = .ok (draft', rest) := by
  obtain ⟨found, between, key, read⟩ := reader_bind_eq_ok.mp read
  refine ⟨found, between, key, ?_⟩
  cases found with
  | none =>
      obtain ⟨⟨⟩, _, passed, same⟩ := reader_bind_eq_ok.mp read
      cases same
      exact ⟨passed, rfl⟩
  | some field =>
      dsimp only at read ⊢
      cases isSet : field.isSet draft with
      | true =>
          rw [isSet] at read
          cases read
      | false =>
          rw [isSet] at read
          exact ⟨rfl, read⟩

theorem readEntry_none (key : record.readKey depth input = .ok (none, between))
    (passed : skip depth between = .ok ((), rest)) :
    record.readEntry depth draft input = .ok (draft, rest) :=
  reader_bind_eq_ok.mpr ⟨_, _, key, reader_bind_eq_ok.mpr ⟨_, _, passed, rfl⟩⟩

theorem readEntry_some {field : Field σ} (key : record.readKey depth input = .ok (some field, between))
    (fresh : field.isSet draft = false) :
    record.readEntry depth draft input = field.read depth draft between := by
  rw [readKey] at key
  simp only [readEntry, bind, StateT.bind, Except.bind, key, fresh, Bool.false_eq_true, if_false]
  rfl

theorem readElements_cons (record : Record σ α) (depth index left : Nat) (field : Field σ)
    (fields : List (Field σ)) (draft : σ) :
    record.readElements depth index (left + 1) (field :: fields) draft =
      field.read depth draft >>= record.readElements depth (index + 1) left fields := by
  simp only [readElements, Field.read, bind_assoc]

end Record

end TerminalAgent.MessagePack
