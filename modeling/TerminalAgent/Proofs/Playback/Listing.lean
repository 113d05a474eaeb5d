import TerminalAgent.Proofs.Recording.Contract
import TerminalAgent.Proofs.Text.ByteOrder

/-! # The list of recordings

What is listed is what can be loaded. Stores list names and sizes; whether there is a recording behind a
name shows when it is loaded, and what cannot be loaded is left out of the list.
-/

namespace TerminalAgent

/-! ## Lists of what can be loaded -/

/-- An archive lists at least what can be read, each key once and in order, with the right sizes. -/
structure Archive.Exact (archive : Archive) (infos : List RecordingInfo) : Prop where
  listed : archive.list = .ok infos
  ascending : infos.Pairwise fun a b => a.key < b.key
  complete : ∀ {key bytes}, archive.read key = .ok bytes → ∃ info ∈ infos, info.key = key
  sized : ∀ {info bytes}, info ∈ infos → archive.read info.key = .ok bytes → info.size = bytes.length

namespace Playback

/-- A list has each recording that can be loaded, and nothing else, in the order of the bytes of the ids
    and with the size and the number of chunks of each. -/
structure Listing (archive : Archive) (summaries : List RecordingSummary) : Prop where
  ascending : summaries.Pairwise fun a b => Utf8.encode a.id < Utf8.encode b.id
  loaded : ∀ id, (∃ summary ∈ summaries, summary.id = id) ↔ ∃ chunks, load archive id = .ok chunks
  described : ∀ summary ∈ summaries, ∃ bytes chunks, archive.read summary.id = .ok bytes ∧
    load archive summary.id = .ok chunks ∧ summary.size = bytes.length ∧ summary.chunks = chunks.length

/-- The entry for an info, if the recording can be loaded. -/
def summary? (archive : Archive) (info : RecordingInfo) : Option RecordingSummary :=
  match load archive info.key with
  | .ok chunks => some ⟨info.key, info.size, chunks.length⟩
  | .error _ => none

theorem summary?_eq_some {archive : Archive} {info : RecordingInfo} {summary : RecordingSummary} :
    summary? archive info = some summary ↔
      ∃ chunks, load archive info.key = .ok chunks ∧ summary = ⟨info.key, info.size, chunks.length⟩ := by
  unfold summary?
  cases load archive info.key with
  | error error => simp
  | ok chunks => simp [eq_comm]

theorem list_of_exact {archive : Archive} {infos : List RecordingInfo} (h : archive.Exact infos) :
    list archive = .ok (infos.filterMap (summary? archive)) ∧
      Listing archive (infos.filterMap (summary? archive)) := by
  have answered : list archive = .ok (infos.filterMap (summary? archive)) := by
    unfold list
    rw [h.listed]
    rfl
  refine ⟨answered, ?_, fun id => ?_, fun summary member => ?_⟩
  · refine List.pairwise_filterMap.mpr (h.ascending.imp ?_)
    intro a b less first firstOf second secondOf
    obtain ⟨_, -, rfl⟩ := summary?_eq_some.mp firstOf
    obtain ⟨_, -, rfl⟩ := summary?_eq_some.mp secondOf
    exact Utf8.encode_lt_encode.mpr less
  · constructor
    · rintro ⟨summary, member, rfl⟩
      obtain ⟨info, -, made⟩ := List.mem_filterMap.mp member
      obtain ⟨chunks, loads, rfl⟩ := summary?_eq_some.mp made
      exact ⟨chunks, loads⟩
    · rintro ⟨chunks, loads⟩
      obtain ⟨bytes, read, -⟩ := load_ok loads
      obtain ⟨info, member, rfl⟩ := h.complete read
      exact ⟨_, List.mem_filterMap.mpr ⟨info, member, summary?_eq_some.mpr ⟨chunks, loads, rfl⟩⟩, rfl⟩
  · obtain ⟨info, listed, made⟩ := List.mem_filterMap.mp member
    obtain ⟨chunks, loads, rfl⟩ := summary?_eq_some.mp made
    obtain ⟨bytes, read, -⟩ := load_ok loads
    exact ⟨bytes, chunks, read, loads, h.sized listed read, rfl⟩

end Playback

/-! ## Stores in memory -/

theorem MemoryStore.read_eq_ok {store : MemoryStore} {key : String} {bytes : Bytes} :
    store.read key = .ok bytes ↔ store.recordings.get? key = some ⟨bytes, true⟩ := by
  unfold MemoryStore.read
  cases store.recordings.get? key with
  | none => simp [throw, throwThe, MonadExceptOf.throw]
  | some recording =>
      obtain ⟨held, isSealed⟩ := recording
      cases isSealed <;> simp [throw, throwThe, MonadExceptOf.throw, pure, Except.pure]

theorem MemoryStore.mem_list {store : MemoryStore} {info : RecordingInfo} :
    info ∈ store.list ↔ ∃ bytes, store.read info.key = .ok bytes ∧ info.size = bytes.length := by
  simp only [MemoryStore.list, List.mem_filterMap, read_eq_ok, SortedMap.get?_eq_some]
  constructor
  · rintro ⟨⟨key, bytes, isSealed⟩, member, listed⟩
    cases isSealed with
    | false => cases listed
    | true =>
        cases listed
        exact ⟨bytes, member, rfl⟩
  · rintro ⟨bytes, member, size⟩
    exact ⟨_, member, by simp [← size]⟩

theorem MemoryStore.exact_list (store : MemoryStore) : store.archive.Exact store.list where
  listed := rfl
  ascending := by
    refine List.pairwise_filterMap.mpr (store.recordings.sorted.imp ?_)
    intro a b less first firstOf second secondOf
    obtain ⟨-, ⟨⟩⟩ := Option.ite_none_right_eq_some.mp firstOf
    obtain ⟨-, ⟨⟩⟩ := Option.ite_none_right_eq_some.mp secondOf
    exact less
  complete {key bytes} read := ⟨⟨key, bytes.length⟩, mem_list.mpr ⟨bytes, read, rfl⟩, rfl⟩
  sized member read := by
    obtain ⟨bytes, same, size⟩ := mem_list.mp member
    cases same.symm.trans read
    exact size

/-! ## Directories -/

/-- What the system may tell of a directory: its entries in any order, each once and with its size if it
    is a file. Names are bytes, and need not be text. -/
structure Volume.Tells (volume : Volume) (met : List (Bytes × Nat)) : Prop where
  distinct : (met.map Prod.fst).Nodup
  complete : ∀ {name node}, volume.node? name = some node → ∃ size, (Utf8.encode name, size) ∈ met
  exact : ∀ {name size}, (Utf8.encode name, size) ∈ met →
    ∃ node, volume.node? name = some node ∧ ∀ id, node = .file id → size = (volume.content id).length

namespace FileStore

/-- What a store makes of an entry of its directory. -/
def info? (entry : Bytes × Nat) : Option RecordingInfo := do
  let name ← Utf8.decode? entry.1
  let key ← keyOf? sealedEnding name
  some ⟨key, entry.2⟩

/-- What a store lists when it is told these entries. -/
def infosOf (met : List (Bytes × Nat)) : List RecordingInfo :=
  (met.filterMap info?).mergeSort fun a b => decide (a.key ≤ b.key)

/-- A store on a directory, when it is told these entries. -/
def archiveTold (store : FileStore) (volume : Volume) (met : List (Bytes × Nat)) : Archive where
  read key := store.read key volume
  list := .ok (infosOf met)

theorem info?_eq_some {entry : Bytes × Nat} {info : RecordingInfo} :
    info? entry = some info ↔ entry = (Utf8.encode (sealedName info.key), info.size) := by
  obtain ⟨bytes, size⟩ := entry
  constructor
  · intro made
    simp only [info?, Option.bind_eq_bind, Option.bind_eq_some_iff] at made
    obtain ⟨name, text, key, named, same⟩ := made
    cases same
    rw [← Utf8.encode_of_decode? text, keyOf?_eq_some.mp named]
    rfl
  · rintro ⟨⟩
    have named : keyOf? sealedEnding (sealedName info.key) = some info.key := keyOf?_eq_some.mpr rfl
    simp [info?, Utf8.decode?_encode, named]

theorem mem_infosOf {met : List (Bytes × Nat)} {info : RecordingInfo} :
    info ∈ infosOf met ↔ (Utf8.encode (sealedName info.key), info.size) ∈ met := by
  simp only [infosOf, List.mem_mergeSort, List.mem_filterMap, info?_eq_some, exists_eq_right]

theorem exact_archiveTold (store : FileStore) {volume : Volume} {met : List (Bytes × Nat)}
    (h : volume.Tells met) : (store.archiveTold volume met).Exact (infosOf met) where
  listed := rfl
  ascending := by
    refine ascending_mergeSort (List.pairwise_filterMap.mpr ?_)
    refine (List.pairwise_map.mp h.distinct).imp ?_
    intro a b differ first firstOf second secondOf same
    rw [info?_eq_some.mp firstOf, info?_eq_some.mp secondOf, same] at differ
    exact differ rfl
  complete {key bytes} read := by
    obtain ⟨-, file⟩ := read_eq_ok.mp read
    obtain ⟨id, node, -⟩ := Volume.exists_node?_of_file? file
    obtain ⟨size, member⟩ := h.complete node
    exact ⟨⟨key, size⟩, mem_infosOf.mpr member, rfl⟩
  sized {info bytes} member read := by
    obtain ⟨-, file⟩ := read_eq_ok.mp read
    obtain ⟨id, node, content⟩ := Volume.exists_node?_of_file? file
    obtain ⟨node', found, size⟩ := h.exact (mem_infosOf.mp member)
    rw [size id (Option.some.inj (found.symm.trans node)), content]

/-- The entries of a directory in order of names. -/
def toldInOrder (volume : Volume) : List (Bytes × Nat) :=
  volume.nodes.entries.map fun entry => (Utf8.encode entry.1, listedSize volume entry.2)

theorem tells_toldInOrder (volume : Volume) : volume.Tells (toldInOrder volume) where
  distinct := by
    rw [toldInOrder, List.map_map]
    refine List.pairwise_map.mpr (volume.nodes.sorted.imp ?_)
    intro a b less same
    exact String.ne_of_lt less (Utf8.encode_injective same)
  complete {name node} found := by
    have member := (SortedMap.get?_eq_some _).mp found
    exact ⟨listedSize volume node, List.mem_map.mpr ⟨(name, node), member, rfl⟩⟩
  exact {name size} member := by
    obtain ⟨⟨name', node⟩, listed, same⟩ := List.mem_map.mp member
    obtain ⟨names, rfl⟩ := Prod.mk.inj same
    obtain rfl := Utf8.encode_injective names
    refine ⟨node, (SortedMap.get?_eq_some _).mpr listed, ?_⟩
    rintro id rfl
    rfl

/-- The order of names is one in which a directory may be told. -/
theorem archive_eq (store : FileStore) {volume : Volume} (present : volume.present = true) :
    store.archive volume = store.archiveTold volume (toldInOrder volume) := by
  have infos : (toldInOrder volume).filterMap info? = listed volume := by
    rw [toldInOrder, List.filterMap_map, listed]
    congr 1
    funext entry
    simp only [Function.comp_apply, info?, Utf8.decode?_encode, Option.bind_eq_bind, Option.bind_some]
    cases keyOf? sealedEnding entry.1 <;> rfl
  rw [archive, archiveTold, list_eq store present, infosOf, infos]

end FileStore

namespace Playback

section
variable {archive archive' : Archive} {a b : List RecordingSummary}

theorem Listing.nodup (h : Listing archive a) : a.Nodup := by
  refine List.nodup_iff_pairwise_ne.mpr (h.ascending.imp ?_)
  rintro first second less rfl
  exact List.lt_irrefl _ less

/-- What is listed depends on nothing but what is read. -/
theorem Listing.mem_of_mem (same : archive.read = archive'.read) (first : Listing archive a)
    (second : Listing archive' b) {summary : RecordingSummary} (member : summary ∈ a) : summary ∈ b := by
  have loads (id : String) : load archive id = load archive' id := by
    simp only [load, same]
  obtain ⟨bytes, chunks, read, loaded, size, count⟩ := first.described summary member
  obtain ⟨other, listed, sameId⟩ := (second.loaded summary.id).mpr ⟨chunks, (loads _).symm.trans loaded⟩
  obtain ⟨bytes', chunks', read', loaded', size', count'⟩ := second.described other listed
  rw [sameId, ← same, read] at read'
  rw [sameId, ← loads, loaded] at loaded'
  cases read'
  cases loaded'
  have equal : summary = other := by
    obtain ⟨id, _, _⟩ := summary
    obtain ⟨id', _, _⟩ := other
    simp_all
  exact equal ▸ listed

/-- There is one list of what can be loaded. -/
theorem Listing.unique (same : archive.read = archive'.read) (first : Listing archive a)
    (second : Listing archive' b) : a = b := by
  have perm : a.Perm b := (List.perm_ext_iff_of_nodup first.nodup second.nodup).mpr fun summary =>
    ⟨first.mem_of_mem same second, second.mem_of_mem same.symm first⟩
  refine perm.eq_of_pairwise ?_ first.ascending second.ascending
  intro x y _ _ less greater
  exact absurd greater (List.lt_asymm less)

end

/-- Every store lists exactly what can be loaded, in the order of the bytes of the ids and with the right
    sizes and numbers of chunks: a store in memory with any recordings, and a store on a directory with
    any files and directories, in whatever order the system tells of them and with whatever names that
    are no text. -/
theorem list_agrees :
    (∀ store : MemoryStore, ∃ summaries,
      list store.archive = .ok summaries ∧ Listing store.archive summaries) ∧
    ∀ (store : FileStore) (volume : Volume), volume.present = true → ∃ summaries,
      list (store.archive volume) = .ok summaries ∧ Listing (store.archive volume) summaries ∧
      ∀ met, volume.Tells met → list (store.archiveTold volume met) = .ok summaries := by
  refine ⟨fun store => ⟨_, list_of_exact store.exact_list⟩, fun store volume present => ?_⟩
  have own := list_of_exact (store.exact_archiveTold (FileStore.tells_toldInOrder volume))
  rw [← store.archive_eq present] at own
  refine ⟨_, own.1, own.2, fun met tells => ?_⟩
  have told := list_of_exact (store.exact_archiveTold tells)
  have sameReads : (store.archiveTold volume met).read = (store.archive volume).read := rfl
  rw [told.1, told.2.unique sameReads own.2]

/-- A recording without chunks, and a directory and a name that is no text beside it. -/
theorem list_agrees_beside :
    let volume : Volume := ⟨true, .ofList [("a.rec", .file 0), ("b.rec", .directory)], [[]]⟩
    let met : List (Bytes × Nat) :=
      [([0xFF, 0x2E, 0x72, 0x65, 0x63], 7), (Utf8.encode "b.rec", 60), (Utf8.encode "a.rec", 0)]
    let store : FileStore := ⟨"recordings", ∅⟩
    volume.Tells met ∧ ∃ summaries, list (store.archive volume) = .ok summaries ∧
      list (store.archiveTold volume met) = .ok summaries ∧ ∃ summary ∈ summaries, summary.id = "a" := by
  intro volume met store
  have nodes : volume.nodes.entries = [("a.rec", .file 0), ("b.rec", .directory)] := by decide
  have foreign : Utf8.decode? [0xFF, 0x2E, 0x72, 0x65, 0x63] = none := by decide +kernel
  have tells : volume.Tells met := by
    refine ⟨by decide, ?_, ?_⟩
    · intro name node found
      have member := (SortedMap.get?_eq_some _).mp found
      simp only [nodes, List.mem_cons, List.not_mem_nil, or_false, Prod.mk.injEq] at member
      rcases member with ⟨rfl, -⟩ | ⟨rfl, -⟩
      · exact ⟨0, by simp [met]⟩
      · exact ⟨60, by simp [met]⟩
    · intro name size member
      simp only [met, List.mem_cons, List.not_mem_nil, or_false, Prod.mk.injEq] at member
      rcases member with ⟨bytes, -⟩ | ⟨bytes, rfl⟩ | ⟨bytes, rfl⟩
      · rw [← bytes, Utf8.decode?_encode] at foreign
        cases foreign
      · obtain rfl := Utf8.encode_injective bytes
        exact ⟨.directory, rfl, nofun⟩
      · obtain rfl := Utf8.encode_injective bytes
        exact ⟨.file 0, rfl, by rintro _ ⟨⟩; rfl⟩
  obtain ⟨summaries, listed, listing, told⟩ := list_agrees.2 store volume rfl
  have loads : load (store.archive volume) "a" = .ok [] := load_eq rfl rfl
  exact ⟨tells, summaries, listed, told met tells, (listing.loaded "a").mpr ⟨[], loads⟩⟩

end Playback

end TerminalAgent
