import TerminalAgent.Proofs.SortedMap
import TerminalAgent.Storage.Volume

/-! # What files hold

`Volume.file?` is what a name shows of a volume. In a sound volume, where every file has one name,
each operation changes what one or two names show and nothing else.
-/

namespace TerminalAgent.Volume

/-- The bytes of the file with a name. -/
def file? (volume : Volume) (name : String) : Option Bytes :=
  match volume.node? name with
  | some (.file id) => some (volume.content id)
  | _ => none

/-- Names stand for contents that are there, and for different ones. -/
structure Sound (volume : Volume) : Prop where
  inRange : ∀ {name id}, volume.node? name = some (.file id) → id < volume.contents.length
  apart : ∀ {a b id}, volume.node? a = some (.file id) → volume.node? b = some (.file id) → a = b

variable {volume volume' : Volume} {name : String}

theorem file?_of_node? {id : Nat} (h : volume.node? name = some (.file id)) :
    volume.file? name = some (volume.content id) := by
  simp only [file?, h]

theorem exists_node?_of_file? {bytes : Bytes} (h : volume.file? name = some bytes) :
    ∃ id, volume.node? name = some (.file id) ∧ volume.content id = bytes := by
  unfold file? at h
  split at h
  next id found => exact ⟨id, found, Option.some.inj h⟩
  next => cases h

theorem file?_eq_none (h : volume.node? name = none) : volume.file? name = none := by
  simp only [file?, h]

/-- What a name shows depends on what it stands for and on the contents there. -/
theorem file?_congr {other : String} (nodes : volume'.node? name = volume.node? other)
    (contents : ∀ id, volume.node? other = some (.file id) →
      volume'.content id = volume.content id) :
    volume'.file? name = volume.file? other := by
  simp only [file?, nodes]
  split
  next id found => rw [contents id found]
  next => rfl

theorem read_eq {bytes : Bytes} (h : volume.file? name = some bytes) :
    volume.read name = .ok bytes := by
  obtain ⟨id, found, rfl⟩ := exists_node?_of_file? h
  simp only [read, found]
  rfl

/-! ## Making a file -/

theorem createNew_ok {id : Nat} (h : volume.createNew name = .ok (volume', id)) :
    volume.present = true ∧ volume.node? name = none ∧ id = volume.contents.length ∧
      volume' = { volume with
        nodes := volume.nodes.insert name (.file id), contents := volume.contents ++ [[]] } := by
  unfold createNew at h
  split at h
  next => cases h
  next present =>
    split at h
    next => cases h
    next free =>
      cases h
      exact ⟨by simpa using present, free, rfl, rfl⟩

section
variable {id : Nat} (made : volume.createNew name = .ok (volume', id))
include made

theorem node?_createNew (other : String) :
    volume'.node? other = if other = name then some (.file id) else volume.node? other := by
  obtain ⟨-, -, -, rfl⟩ := createNew_ok made
  simp [node?]

theorem Sound.createNew (h : volume.Sound) : volume'.Sound := by
  obtain ⟨-, -, rfl, after⟩ := createNew_ok made
  have nodes := node?_createNew made
  have length : volume'.contents.length = volume.contents.length + 1 := by simp [after]
  constructor
  case inRange =>
    intro other id found
    rw [nodes] at found
    split at found
    next => cases found; omega
    next => have := h.inRange found; omega
  case apart =>
    intro a b id foundA foundB
    rw [nodes] at foundA foundB
    split at foundA
    next atName =>
      cases foundA
      split at foundB
      next sameName => rw [atName, sameName]
      next => exact absurd (h.inRange foundB) (Nat.lt_irrefl _)
    next =>
      split at foundB
      next => cases foundB; exact absurd (h.inRange foundA) (Nat.lt_irrefl _)
      next => exact h.apart foundA foundB

theorem Sound.file?_createNew (h : volume.Sound) (other : String) :
    volume'.file? other = if other = name then some [] else volume.file? other := by
  obtain ⟨-, -, rfl, after⟩ := createNew_ok made
  have nodes := node?_createNew made other
  split
  next here =>
    rw [if_pos here] at nodes
    rw [file?_of_node? nodes, after]
    simp [content]
  next elsewhere =>
    rw [if_neg elsewhere] at nodes
    refine file?_congr nodes fun id found => ?_
    simp [after, content, List.getElem?_append_left (h.inRange found)]

end

/-! ## Adding bytes -/

@[simp] theorem node?_append (volume : Volume) (id : Nat) (bytes : Bytes) (other : String) :
    (volume.append id bytes).node? other = volume.node? other := rfl

theorem content_append {id : Nat} (inRange : id < volume.contents.length) (bytes : Bytes)
    (other : Nat) :
    (volume.append id bytes).content other =
      if other = id then volume.content id ++ bytes else volume.content other := by
  simp only [append, content, List.getD_eq_getElem?_getD, List.getElem?_modify]
  by_cases here : other = id
  · simp [here, inRange]
  · simp [here, Ne.symm here]

theorem truncate_append (volume : Volume) (id : Nat) (bytes : Bytes) :
    (volume.append id bytes).truncate id (volume.content id).length = volume := by
  have same : (volume.contents.modify id (· ++ bytes)).modify id (·.take (volume.content id).length) =
      volume.contents := by
    apply List.ext_getElem?
    intro other
    simp only [List.getElem?_modify, content, List.getD_eq_getElem?_getD]
    cases found : volume.contents[other]? with
    | none => simp
    | some bytes =>
        by_cases here : id = other
        · subst here
          simp [found]
        · simp [here]
  rw [truncate, append, same]

theorem Sound.append (h : volume.Sound) (id : Nat) (bytes : Bytes) :
    (volume.append id bytes).Sound where
  inRange found := by simpa [Volume.append] using h.inRange found
  apart foundA foundB := h.apart foundA foundB

theorem Sound.file?_append (h : volume.Sound) {id : Nat}
    (held : volume.node? name = some (.file id)) (bytes : Bytes) (other : String) :
    (volume.append id bytes).file? other =
      if other = name then some (volume.content id ++ bytes) else volume.file? other := by
  have contents := content_append (h.inRange held) bytes
  split
  next here =>
    have still : (volume.append id bytes).node? name = some (.file id) := held
    rw [here, file?_of_node? still, contents, if_pos rfl]
  next elsewhere =>
    refine file?_congr (by simp) fun other found => ?_
    rw [contents, if_neg]
    rintro rfl
    exact elsewhere (h.apart found held)

/-! ## Renaming a file -/

theorem rename_ok {target : String} (h : volume.rename name target = .ok volume') :
    ∃ node, volume.node? name = some node ∧
      volume' = { volume with nodes := (volume.nodes.erase name).insert target node } := by
  unfold rename at h
  split at h
  next => cases h
  next node found =>
    refine ⟨node, found, ?_⟩
    split at h
    next => cases h
    next => cases h
    next => exact (Except.ok.inj h).symm

section
variable {target : String} (renamed : volume.rename name target = .ok volume')
include renamed

theorem node?_rename (other : String) :
    volume'.node? other =
      if other = target then volume.node? name
      else if other = name then none else volume.node? other := by
  obtain ⟨node, found, rfl⟩ := rename_ok renamed
  rw [found]
  simp [node?]

theorem contents_rename : volume'.contents = volume.contents := by
  obtain ⟨node, -, rfl⟩ := rename_ok renamed
  rfl

theorem Sound.rename (h : volume.Sound) : volume'.Sound := by
  have nodes := node?_rename renamed
  have contents := contents_rename renamed
  constructor
  case inRange =>
    intro other id found
    rw [nodes] at found
    rw [contents]
    split at found
    next => exact h.inRange found
    next =>
      split at found
      next => cases found
      next => exact h.inRange found
  case apart =>
    intro a b id foundA foundB
    rw [nodes] at foundA foundB
    split at foundA <;> split at foundB
    next atA atB => rw [atA, atB]
    next =>
      split at foundB
      next => cases foundB
      next notName => exact absurd (h.apart foundB foundA) notName
    next =>
      split at foundA
      next => cases foundA
      next notName => exact absurd (h.apart foundA foundB) notName
    next =>
      split at foundA
      next => cases foundA
      next =>
        split at foundB
        next => cases foundB
        next => exact h.apart foundA foundB

theorem file?_rename (other : String) :
    volume'.file? other =
      if other = target then volume.file? name
      else if other = name then none else volume.file? other := by
  have nodes := node?_rename renamed other
  have contents (id : Nat) : volume'.content id = volume.content id := by
    simp only [content, contents_rename renamed]
  split at nodes
  next here => rw [if_pos here, file?_congr nodes fun id _ => contents id]
  next elsewhere =>
    rw [if_neg elsewhere]
    split at nodes
    next gone => rw [if_pos gone, file?_eq_none nodes]
    next other => rw [if_neg other, file?_congr nodes fun id _ => contents id]

end

/-- A file gets a name that is free or that stands for a file. -/
theorem exists_rename {id : Nat} {target : String} (found : volume.node? name = some (.file id))
    (free : volume.node? target ≠ some .directory) :
    ∃ volume', volume.rename name target = .ok volume' := by
  simp only [rename, found]
  cases taken : volume.node? target with
  | none => exact ⟨_, rfl⟩
  | some node =>
      cases node with
      | directory => exact absurd taken free
      | file => exact ⟨_, rfl⟩

/-! ## Taking a name away -/

theorem remove_ok (h : volume.remove name = .ok volume') :
    volume' = { volume with nodes := volume.nodes.erase name } := by
  unfold remove at h
  split at h
  next => cases h
  next => cases h
  next => cases h; rfl

section
variable (removed : volume.remove name = .ok volume')
include removed

theorem node?_remove (other : String) :
    volume'.node? other = if other = name then none else volume.node? other := by
  rw [remove_ok removed]
  simp [node?]

theorem Sound.remove (h : volume.Sound) : volume'.Sound := by
  have nodes := node?_remove removed
  have contents : volume'.contents = volume.contents := by rw [remove_ok removed]
  constructor
  case inRange =>
    intro other id found
    rw [nodes] at found
    rw [contents]
    split at found
    next => cases found
    next => exact h.inRange found
  case apart =>
    intro a b id foundA foundB
    rw [nodes] at foundA foundB
    split at foundA
    next => cases foundA
    next =>
      split at foundB
      next => cases foundB
      next => exact h.apart foundA foundB

theorem file?_remove (other : String) :
    volume'.file? other = if other = name then none else volume.file? other := by
  have nodes := node?_remove removed other
  split at nodes
  next here => rw [if_pos here, file?_eq_none nodes]
  next elsewhere =>
    rw [if_neg elsewhere]
    refine file?_congr nodes fun id _ => ?_
    rw [remove_ok removed]
    rfl

end

end TerminalAgent.Volume
