import TerminalAgent.Playback.Service
import TerminalAgent.Playback.Target
import TerminalAgent.Proofs.Recording.Ledger
import TerminalAgent.Proofs.Recording.Log
import TerminalAgent.Proofs.Storage.Disk

/-! # Recordings stay in their directory

What a store does is written once more against any `FileSystem`. On a volume this is what the store
does there. On a disk, where texts may lead anywhere, no key leads the store out of its directory:
keys are checked where recordings begin and where they are read, and all else goes by the handles of
recordings that have begun and by names that end as they should.
-/

namespace TerminalAgent

/-- What a store asks of the directory that it works in. -/
structure FileSystem (φ : Type) where
  hasPath : φ → String → Bool
  createNew : φ → String → Except FileFault (φ × Nat)
  append : φ → Nat → Bytes → φ
  rename : φ → String → String → Except FileFault φ
  read : φ → String → Except FileFault Bytes
  entries : φ → Except FileFault (List (String × Nat))

/-- The directory that is the volume. -/
def Volume.system : FileSystem Volume :=
  ⟨hasPath, createNew, append, rename, read, entries⟩

/-- A directory of a disk. -/
def Disk.system (home : Nat) : FileSystem Disk where
  hasPath disk := disk.hasPath home
  createNew disk := disk.createNew home
  append := append
  rename disk := disk.rename home
  read disk := disk.read home
  entries disk := disk.entries home

namespace FileStore

/-! ## A store on a file system -/

section
variable {φ : Type} (system : FileSystem φ) (store : FileStore)

def createOn (key : String) (files : φ) : Except StoreError Unit × FileStore × φ :=
  if !RecordingKey.isValid key then (throw (.invalidKey key), store, files)
  else if system.hasPath files (sealedName key) then (throw (.sealed key), store, files)
  else
    match system.createNew files (openName key) with
    | .ok (files, id) => (pure (), { store with handles := store.handles.insert key id }, files)
    | .error fault => (throw (.io (store.filePath (openName key)) fault), store, files)

def notOpenOn (key : String) (files : φ) : StoreError :=
  if system.hasPath files (sealedName key) then .sealed key else .notFound key

def appendOn (key : String) (bytes : Bytes) (files : φ) : Except StoreError Unit × FileStore × φ :=
  match store.handles.get? key with
  | some id => (pure (), store, system.append files id bytes)
  | none => (throw (notOpenOn system key files), store, files)

def sealOn (key : String) (files : φ) : Except StoreError Unit × FileStore × φ :=
  match store.handles.get? key with
  | none => (throw (notOpenOn system key files), store, files)
  | some _ =>
      let store := { store with handles := store.handles.erase key }
      match system.rename files (openName key) (sealedName key) with
      | .ok files => (pure (), store, files)
      | .error fault => (throw (.io (store.filePath (sealedName key)) fault), store, files)

def readOn (key : String) (files : φ) : Except StoreError Bytes :=
  if !RecordingKey.isValid key then throw (.invalidKey key)
  else
    match system.read files (sealedName key) with
    | .ok bytes => pure bytes
    | .error .notFound => throw (.notFound key)
    | .error fault => throw (.io (store.filePath (sealedName key)) fault)

def listOn (files : φ) : Except StoreError (List RecordingInfo) :=
  match system.entries files with
  | .error fault => throw (.io store.path fault)
  | .ok entries =>
      let infos := entries.filterMap fun entry =>
        (keyOf? sealedEnding entry.1).map fun key => ⟨key, entry.2⟩
      pure (infos.mergeSort fun a b => decide (a.key ≤ b.key))

def recoverKeysOn : List String → (count : Nat) → φ → Except StoreError Nat × FileStore × φ
  | [], count, files => (pure count, store, files)
  | key :: keys, count, files =>
      match system.rename files (openName key) (sealedName key) with
      | .ok files => recoverKeysOn keys (count + 1) files
      | .error fault => (throw (.io (store.filePath (sealedName key)) fault), store, files)

def recoverOn (files : φ) : Except StoreError Nat × FileStore × φ :=
  match system.entries files with
  | .error fault => (throw (.io store.path fault), store, files)
  | .ok entries =>
      let keys := entries.filterMap fun entry =>
        (keyOf? openEnding entry.1).filter RecordingKey.isValid
      recoverKeysOn system store keys 0 files

def archiveOn (files : φ) : Archive where
  read key := readOn system store key files
  list := listOn system store files

end

/-- What is asked of a store. -/
inductive Request where
  | create (key : String)
  | append (key : String) (bytes : Bytes)
  | sealRecording (key : String)
  | read (key : String)
  | recover

namespace Request

/-- The store and the files after a request. -/
def performOn {φ : Type} (system : FileSystem φ) : Request → FileStore × φ → FileStore × φ
  | create key, (store, files) => (createOn system store key files).2
  | append key bytes, (store, files) => (appendOn system store key bytes files).2
  | sealRecording key, (store, files) => (sealOn system store key files).2
  | read _, files => files
  | recover, (store, files) => (recoverOn system store files).2

def operation : Request → Operation
  | create key => .act (.create key)
  | append key bytes => .act (.append key bytes)
  | sealRecording key => .act (.sealRecording key)
  | read key => .read key
  | recover => .recover

end Request

def runOn {φ : Type} (system : FileSystem φ) (requests : List Request) (files : FileStore × φ) :
    FileStore × φ :=
  requests.foldl (fun files request => request.performOn system files) files

/-! ## On a volume -/

section
variable (store : FileStore) (volume : Volume)

theorem createOn_volume (key : String) :
    createOn Volume.system store key volume = store.create key volume := by
  simp only [createOn, create, Volume.system]
  cases volume.createNew (openName key) <;> rfl

theorem appendOn_volume (key : String) (bytes : Bytes) :
    appendOn Volume.system store key bytes volume = store.append key bytes volume := by
  cases handle : store.handles.get? key with
  | none =>
      rw [append_of_noHandle handle, appendOn, handle]
      rfl
  | some id =>
      rw [append_of_handle handle, appendOn, handle]
      rfl

theorem sealOn_volume (key : String) :
    sealOn Volume.system store key volume = store.sealRecording key volume := by
  simp only [sealOn, sealRecording, Volume.system]
  cases volume.rename (openName key) (sealedName key) <;> rfl

theorem recoverKeysOn_volume (keys : List String) (count : Nat) :
    recoverKeysOn Volume.system store keys count volume = store.recoverKeys keys count volume := by
  induction keys generalizing count volume with
  | nil => rfl
  | cons key keys ih =>
      rw [recoverKeysOn, recoverKeys, show Volume.system.rename = Volume.rename from rfl]
      cases volume.rename (openName key) (sealedName key) with
      | error fault => rfl
      | ok volume => exact ih volume (count + 1)

theorem recoverOn_volume : recoverOn Volume.system store volume = store.recoverLeftovers volume := by
  simp only [recoverOn, recoverLeftovers, recoverKeysOn_volume]
  rfl

theorem archiveOn_volume : archiveOn Volume.system store volume = store.archive volume := rfl

/-- On a volume, a request does what the store's operation does. -/
theorem performOn_volume (request : Request) (files : FileStore × Volume) :
    request.performOn Volume.system files = (request.operation.perform files).2 := by
  cases request with
  | create key => exact congrArg Prod.snd (createOn_volume ..)
  | append key bytes => exact congrArg Prod.snd (appendOn_volume ..)
  | sealRecording key => exact congrArg Prod.snd (sealOn_volume ..)
  | read key => rfl
  | recover => exact congrArg Prod.snd (recoverOn_volume ..)

theorem runOn_volume (requests : List Request) (files : FileStore × Volume) :
    runOn Volume.system requests files =
      requests.foldl (fun files request => (request.operation.perform files).2) files := by
  simp only [runOn, performOn_volume]

end

/-! ## On a disk -/

section
variable {key : String}

theorem plain_name {ending : String} (valid : RecordingKey.isValid key)
    (plain : Disk.Plain ending) (long : 2 < ending.length) : Disk.Plain (key ++ ending) := by
  simp only [RecordingKey.isValid, Bool.and_eq_true, List.all_eq_true] at valid
  have longer {other : String} (short : other.length ≤ 2) : key ++ ending ≠ other := by
    rintro rfl
    rw [String.length_append] at short
    omega
  refine ⟨?_, longer (by decide), longer (by decide), longer (by decide)⟩
  rw [String.toList_append, List.mem_append]
  rintro (inKey | inEnding)
  · exact absurd (valid.2 '/' inKey) (by decide)
  · exact plain.noSlash inEnding

theorem plain_openName (valid : RecordingKey.isValid key) : Disk.Plain (openName key) :=
  plain_name valid ⟨by decide, by decide, by decide, by decide⟩ (by decide)

theorem plain_sealedName (valid : RecordingKey.isValid key) : Disk.Plain (sealedName key) :=
  plain_name valid ⟨by decide, by decide, by decide, by decide⟩ (by decide)

end

/-- The names that a store in a directory may use. -/
def Inside (home within : Nat) (name : String) : Prop :=
  within = home ∧ ∃ key, RecordingKey.isValid key ∧ (name = openName key ∨ name = sealedName key)

/-- The store has touched nothing but its own, and holds only files that it has made. -/
structure Confined (home : Nat) (disk : Disk) (files : FileStore × Disk) : Prop where
  valid : ∀ {key id}, files.1.handles.get? key = some id → RecordingKey.isValid key
  own : ∀ {key id}, files.1.handles.get? key = some id → disk.contents.length ≤ id
  nodes : ∀ {within name}, ¬ Inside home within name →
    files.2.node? within name = disk.node? within name
  contents : ∀ id < disk.contents.length, files.2.contents[id]? = disk.contents[id]?
  grown : disk.contents.length ≤ files.2.contents.length

namespace Confined

variable {home : Nat} {disk : Disk} {store : FileStore} {files : Disk}

theorem begin (path : String) (home : Nat) (disk : Disk) : Confined home disk (⟨path, ∅⟩, disk) where
  valid held := by cases held
  own held := by cases held
  nodes _ := rfl
  contents _ _ := rfl
  grown := Nat.le_refl _

theorem rename (h : Confined home disk (store, files)) {key : String}
    (valid : RecordingKey.isValid key) {after : Disk}
    (renamed : files.rename home (openName key) (sealedName key) = .ok after) :
    Confined home disk (store, after) := by
  have moved := Disk.rename_ok (plain_openName valid) (plain_sealedName valid) renamed
  refine ⟨h.valid, h.own, ?_, ?_, ?_⟩
  · intro within name outside
    rw [moved.nodes, h.nodes outside]
    exact fun ⟨here, same⟩ => outside ⟨here, key, valid, same⟩
  · intro id old
    rw [moved.contents, h.contents id old]
  · rw [moved.contents]
    exact h.grown

theorem forget (h : Confined home disk (store, files)) (key : String) :
    Confined home disk ({ store with handles := store.handles.erase key }, files) := by
  have kept {other : String} {id : Nat} (held : (store.handles.erase key).get? other = some id) :
      store.handles.get? other = some id := by
    rw [SortedMap.get?_erase] at held
    split at held
    next => cases held
    next => exact held
  exact ⟨fun held => h.valid (kept held), fun held => h.own (kept held), h.nodes, h.contents, h.grown⟩

theorem createOn (h : Confined home disk (store, files)) (key : String) :
    Confined home disk (FileStore.createOn (Disk.system home) store key files).2 := by
  unfold FileStore.createOn
  split
  next => exact h
  next checked =>
    have valid : RecordingKey.isValid key := by simpa using checked
    split
    next => exact h
    next =>
      split
      next after id made =>
        have new := Disk.createNew_ok (plain_openName valid) made
        refine ⟨?_, ?_, ?_, ?_, ?_⟩
        · intro other held found
          rw [SortedMap.get?_insert] at found
          split at found
          next same => exact same ▸ valid
          next => exact h.valid found
        · intro other held found
          rw [SortedMap.get?_insert] at found
          split at found
          next =>
            cases found
            rw [new.number]
            exact h.grown
          next => exact h.own found
        · intro within name outside
          rw [new.nodes, if_neg, h.nodes outside]
          exact fun ⟨here, same⟩ => outside ⟨here, key, valid, .inl same⟩
        · intro id old
          rw [new.contents, List.getElem?_append_left (Nat.lt_of_lt_of_le old h.grown)]
          exact h.contents id old
        · rw [new.contents, List.length_append]
          exact Nat.le_add_right_of_le h.grown
      next => exact h

theorem appendOn (h : Confined home disk (store, files)) (key : String) (bytes : Bytes) :
    Confined home disk (FileStore.appendOn (Disk.system home) store key bytes files).2 := by
  unfold FileStore.appendOn
  split
  next id held =>
    refine ⟨h.valid, h.own, fun outside => h.nodes outside, ?_, ?_⟩
    · intro other old
      -- The file that the handle stands for was made by the store.
      have differs : other ≠ id := Nat.ne_of_lt (Nat.lt_of_lt_of_le old (h.own held))
      exact (Disk.contents_append differs files bytes).trans (h.contents other old)
    · exact Nat.le_trans h.grown (Nat.le_of_eq (List.length_modify ..).symm)
  next => exact h

theorem sealOn (h : Confined home disk (store, files)) (key : String) :
    Confined home disk (FileStore.sealOn (Disk.system home) store key files).2 := by
  unfold FileStore.sealOn
  split
  next => exact h
  next id held =>
    dsimp only
    split
    next after renamed => exact (h.forget key).rename (h.valid held) renamed
    next => exact h.forget key

theorem recoverKeysOn (h : Confined home disk (store, files)) {keys : List String}
    (valid : ∀ key ∈ keys, RecordingKey.isValid key) (count : Nat) :
    Confined home disk (FileStore.recoverKeysOn (Disk.system home) store keys count files).2 := by
  induction keys generalizing count files with
  | nil => exact h
  | cons key keys ih =>
      rw [FileStore.recoverKeysOn]
      split
      next after renamed =>
        have one := h.rename (valid key List.mem_cons_self) renamed
        exact ih one (fun key member => valid key (List.mem_cons_of_mem _ member)) _
      next => exact h

theorem recoverOn (h : Confined home disk (store, files)) :
    Confined home disk (FileStore.recoverOn (Disk.system home) store files).2 := by
  unfold FileStore.recoverOn
  split
  next => exact h
  next entries listed =>
    refine h.recoverKeysOn (fun key member => ?_) 0
    obtain ⟨entry, -, found⟩ := List.mem_filterMap.mp member
    exact (Option.filter_eq_some_iff.mp found).2

/-- No request leads the store out of its directory. -/
theorem perform {files : FileStore × Disk} (h : Confined home disk files) (request : Request) :
    Confined home disk (request.performOn (Disk.system home) files) := by
  cases request with
  | create key => exact h.createOn key
  | append key bytes => exact h.appendOn key bytes
  | sealRecording key => exact h.sealOn key
  | read key => exact h
  | recover => exact h.recoverOn

theorem run {files : FileStore × Disk} (h : Confined home disk files) (requests : List Request) :
    Confined home disk (runOn (Disk.system home) requests files) := by
  induction requests generalizing files with
  | nil => exact h
  | cons request requests ih => exact ih (h.perform request)

theorem file? {files : FileStore × Disk} (h : Confined home disk files) {within : Nat}
    {name : String} (outside : ¬ Inside home within name) {bytes : Bytes}
    (shown : disk.file? within name = some bytes) : files.2.file? within name = some bytes := by
  unfold Disk.file? at shown ⊢
  rw [h.nodes outside]
  split at shown
  next id found =>
    have old : id < disk.contents.length := (List.getElem?_eq_some_iff.mp shown).1
    exact (h.contents id old).trans shown
  next => cases shown

end Confined

/-- What is read is what the name of the sealed recording leads to. -/
theorem readOn_ok {home : Nat} {disk : Disk} {store : FileStore} {key : String} {bytes : Bytes}
    (read : readOn (Disk.system home) store key disk = .ok bytes) :
    RecordingKey.isValid key ∧ disk.bytesAt home (sealedName key) = .ok bytes := by
  unfold readOn at read
  split at read
  next => cases read
  next checked =>
    have valid : RecordingKey.isValid key := by simpa using checked
    refine ⟨valid, ?_⟩
    have found : (Disk.system home).read disk (sealedName key) = disk.bytesAt home (sealedName key) :=
      Disk.read_plain (plain_sealedName valid) disk home
    rw [found] at read
    split at read
    next shown =>
      cases read
      exact shown
    next => cases read
    next => cases read

/-- Whatever keys a store is given and whatever targets viewers ask for: nothing changes on the disk
    but recordings in the store's directory, and what is read is the recording with that key. On a
    volume the same requests are the store's own operations. -/
theorem stays_in_directory (path : String) (home : Nat) (disk : Disk) (requests : List Request) :
    let files := runOn (Disk.system home) requests (⟨path, ∅⟩, disk)
    (∀ within name, ¬ Inside home within name →
      files.2.node? within name = disk.node? within name ∧
      ∀ bytes, disk.file? within name = some bytes → files.2.file? within name = some bytes) ∧
    (∀ id < disk.contents.length, files.2.contents[id]? = disk.contents[id]?) ∧
    (∀ key bytes, readOn (Disk.system home) files.1 key files.2 = .ok bytes →
      RecordingKey.isValid key ∧ files.2.bytesAt home (sealedName key) = .ok bytes) ∧
    (∀ text target chunks, PlaybackTarget.parse? text = some target →
      Playback.load (archiveOn (Disk.system home) files.1 files.2) target.id = .ok chunks →
      RecordingKey.isValid target.id ∧ ∃ bytes,
        files.2.bytesAt home (sealedName target.id) = .ok bytes ∧ Log.decode bytes = .ok chunks) ∧
    ∀ volume, runOn Volume.system requests (⟨path, ∅⟩, volume) =
      requests.foldl (fun files request => (request.operation.perform files).2) (⟨path, ∅⟩, volume) := by
  intro files
  have confined : Confined home disk files := (Confined.begin path home disk).run requests
  refine ⟨?_, confined.contents, fun key bytes => readOn_ok, ?_, fun volume => runOn_volume ..⟩
  · intro within name outside
    exact ⟨confined.nodes outside, fun bytes => confined.file? outside⟩
  · intro text target chunks asked loaded
    obtain ⟨bytes, read, decoded⟩ := Playback.load_ok loaded
    obtain ⟨valid, shown⟩ := readOn_ok read
    exact ⟨valid, bytes, shown, decoded⟩

/-- A recording of one chunk. -/
def greeting : Chunk := ⟨0, 0, .enabled, [0x68, 0x69]⟩

/-- A root with a file and a directory "store", in which there is a recording of that name. -/
def besideStore : Disk where
  directories := [⟨0, .ofList [("a.rec", .file 0), ("store", .directory 1)]⟩,
    ⟨0, .ofList [("a.rec", .file 1)]⟩]
  contents := [[7], (Log.encodeChunk .plain greeting).toOption.getD []]

/-- Keys that would lead out of the directory leave the file beside it alone, and the recording is
    played back. -/
theorem stays_in_directory_beside :
    let requests : List Request :=
      [.create "../a", .append "/a" [1], .sealRecording "..", .read "../a"]
    let files := runOn (Disk.system 1) requests (⟨"/store", ∅⟩, besideStore)
    ¬ Inside 1 0 "a.rec" ∧ besideStore.file? 0 "a.rec" = some [7] ∧
      files.2.file? 0 "a.rec" = some [7] ∧
      PlaybackTarget.parse? "/playback/a" = some ⟨"a", 0⟩ ∧
      Playback.load (archiveOn (Disk.system 1) files.1 files.2) "a" = .ok [greeting] ∧
      ∃ bytes, files.2.bytesAt 1 (sealedName "a") = .ok bytes ∧ Log.decode bytes = .ok [greeting] := by
  intro requests files
  obtain ⟨names, -, -, playback, -⟩ := stays_in_directory "/store" 1 besideStore requests
  have beside : ¬ Inside 1 0 "a.rec" := fun inside => absurd inside.1 (by decide)
  have shown : besideStore.file? 0 "a.rec" = some [7] := by decide +kernel
  have asked : PlaybackTarget.parse? "/playback/a" = some ⟨"a", 0⟩ := by decide +kernel
  have recorded : besideStore.read 1 (sealedName "a") = .ok besideStore.contents[1] := by
    rw [Disk.read_plain (plain_sealedName (by decide))]
    decide +kernel
  have read : readOn (Disk.system 1) ⟨"/store", ∅⟩ "a" besideStore = .ok besideStore.contents[1] := by
    simp only [readOn, Disk.system, recorded]
    rfl
  have loaded : Playback.load (archiveOn (Disk.system 1) files.1 files.2) "a" = .ok [greeting] :=
    Playback.load_eq read (by decide +kernel)
  exact ⟨beside, shown, (names 0 "a.rec" beside).2 _ shown, asked, loaded,
    (playback _ _ _ asked loaded).2⟩

end FileStore

end TerminalAgent
