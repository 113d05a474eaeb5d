import TerminalAgent.Proofs.Recording.FileNames
import TerminalAgent.Proofs.Recording.Stores
import TerminalAgent.Proofs.Storage.Volume

/-! # The directory of recordings

Whatever is done with other recordings, and whoever takes or gives up the directory, the file of a
recording stays as it is. `Activity.perform` does one of these things; it leaves a tidy directory
tidy, and what concerns other keys changes nothing under a key.
-/

namespace TerminalAgent

/-! ## The owner -/

namespace DirectoryLock

/-- A process that is about to write its number writes it to the owner's file. -/
def WritesOwn (phase : Phase) (volume : Volume) : Prop :=
  ∀ id, phase = .writing id → volume.node? fileName = some (.file id)

/-- A process touches only the owner's file. -/
structure Frame (volume : Volume) (phase : Phase) (volume' : Volume) : Prop where
  sound : volume'.Sound
  present : volume'.present = volume.present
  writesOwn : WritesOwn phase volume'
  node : ∀ other ≠ fileName, volume'.node? other = volume.node? other
  file : ∀ other ≠ fileName, volume'.file? other = volume.file? other

theorem Frame.same {volume : Volume} {phase : Phase} (sound : volume.Sound)
    (notWriting : ∀ id, phase ≠ .writing id) : Frame volume phase volume where
  sound := sound
  present := rfl
  writesOwn id writing := absurd writing (notWriting id)
  node _ _ := rfl
  file _ _ := rfl

theorem Frame.remove {volume volume' : Volume} {phase : Phase} (sound : volume.Sound)
    (removed : volume.remove fileName = .ok volume') (notWriting : ∀ id, phase ≠ .writing id) :
    Frame volume phase volume' where
  sound := sound.remove removed
  present := by rw [Volume.remove_ok removed]
  writesOwn id writing := absurd writing (notWriting id)
  node other elsewhere := by rw [Volume.node?_remove removed, if_neg elsewhere]
  file other elsewhere := by rw [Volume.file?_remove removed, if_neg elsewhere]

theorem step_frame (self : Contender) {phase : Phase} {volume : Volume} (sound : volume.Sound)
    (writesOwn : WritesOwn phase volume) :
    Frame volume (step self phase volume).1 (step self phase volume).2 := by
  cases phase with
  | creating left =>
      cases left with
      | zero => exact .same sound (by simp [step])
      | succ left =>
          simp only [step]
          split
          next id made =>
            constructor
            case sound => exact sound.createNew made
            case present =>
              obtain ⟨-, -, -, rfl⟩ := Volume.createNew_ok made
              rfl
            case writesOwn =>
              rintro _ ⟨⟩
              rw [Volume.node?_createNew made, if_pos rfl]
            case node =>
              intro other elsewhere
              rw [Volume.node?_createNew made, if_neg elsewhere]
            case file =>
              intro other elsewhere
              rw [sound.file?_createNew made, if_neg elsewhere]
          next => exact .same sound (by simp)
          next => exact .same sound (by simp)
  | writing id =>
      have own := writesOwn id rfl
      constructor
      case sound => exact sound.append _ _
      case present => rfl
      case writesOwn => simp [step, WritesOwn]
      case node => exact fun _ _ => rfl
      case file =>
        intro other elsewhere
        simp only [step]
        rw [sound.file?_append own, if_neg elsewhere]
  | inspecting left =>
      simp only [step]
      split
      next => split <;> exact .same sound (by simp)
      next => exact .same sound (by simp)
  | clearing left =>
      simp only [step]
      split
      next removed => exact .remove sound removed (by simp)
      next => exact .same sound (by simp)
      next => exact .same sound (by simp)
  | blaming =>
      simp only [step]
      split <;> exact .same sound (by simp)
  | releasing =>
      simp only [step]
      split <;> exact .same sound (by simp)
  | withdrawing =>
      simp only [step]
      split
      next removed => exact .remove sound removed (by simp)
      next => exact .same sound (by simp)
  | holding | refused | released => exact .same sound (by simp [step])

theorem steps_frame (self : Contender) (n : Nat) (phase : Phase) {volume : Volume}
    (sound : volume.Sound) (writesOwn : WritesOwn phase volume) :
    Frame volume (steps self n (phase, volume)).1 (steps self n (phase, volume)).2 := by
  induction n generalizing phase volume with
  | zero => exact ⟨sound, rfl, writesOwn, fun _ _ => rfl, fun _ _ => rfl⟩
  | succ n ih =>
      have first := step_frame self sound writesOwn
      have rest := ih _ first.sound first.writesOwn
      refine ⟨rest.sound, rest.present.trans first.present, rest.writesOwn, ?_, ?_⟩
      · intro other elsewhere
        exact (rest.node other elsewhere).trans (first.node other elsewhere)
      · intro other elsewhere
        exact (rest.file other elsewhere).trans (first.file other elsewhere)

theorem acquire_frame (self : Contender) {volume : Volume} (sound : volume.Sound) :
    ∃ phase, Frame volume phase (acquire self volume).2 := by
  have all := steps_frame self (3 * attempts + 2) (.creating attempts) sound (by simp [WritesOwn])
  unfold acquire
  split
  next reached => rw [reached] at all; exact ⟨_, all⟩
  next reached => rw [reached] at all; exact ⟨_, all⟩

theorem release_frame (self : Contender) {volume : Volume} (sound : volume.Sound) :
    ∃ phase, Frame volume phase (release self volume) :=
  ⟨_, steps_frame self 2 .releasing sound (by simp [WritesOwn])⟩

end DirectoryLock

namespace FileStore

/-- Handles are those of open recordings, and no directory has the name of a recording. -/
structure Tidy (files : FileStore × Volume) : Prop where
  sound : files.2.Sound
  handles : ∀ {key id}, files.1.handles.get? key = some id →
    files.2.node? (openName key) = some (.file id)
  noDirectory : ∀ {key}, RecordingKey.isValid key →
    files.2.node? (openName key) ≠ some .directory ∧
      files.2.node? (sealedName key) ≠ some .directory

/-! ## The two files of a recording -/

section
variable {volume volume' : Volume} {key : String} {id : Nat}

section
variable (made : volume.createNew (openName key) = .ok (volume', id)) (other : String)
include made

theorem openNode_createNew : volume'.node? (openName other) =
    if other = key then some (.file id) else volume.node? (openName other) := by
  rw [Volume.node?_createNew made]
  simp only [openName_inj]

theorem sealedNode_createNew :
    volume'.node? (sealedName other) = volume.node? (sealedName other) := by
  rw [Volume.node?_createNew made, if_neg (openName_ne_sealedName key other).symm]

theorem openFile_createNew (sound : volume.Sound) : volume'.file? (openName other) =
    if other = key then some [] else volume.file? (openName other) := by
  rw [sound.file?_createNew made]
  simp only [openName_inj]

theorem sealedFile_createNew (sound : volume.Sound) :
    volume'.file? (sealedName other) = volume.file? (sealedName other) := by
  rw [sound.file?_createNew made, if_neg (openName_ne_sealedName key other).symm]

end

section
variable (sound : volume.Sound) (isOpen : volume.node? (openName key) = some (.file id))
  (bytes : Bytes) (other : String)
include sound isOpen

theorem openFile_append : (volume.append id bytes).file? (openName other) =
    if other = key then some (volume.content id ++ bytes) else volume.file? (openName other) := by
  rw [sound.file?_append isOpen]
  simp only [openName_inj]

theorem sealedFile_append :
    (volume.append id bytes).file? (sealedName other) = volume.file? (sealedName other) := by
  rw [sound.file?_append isOpen, if_neg (openName_ne_sealedName key other).symm]

end

section
variable (renamed : volume.rename (openName key) (sealedName key) = .ok volume') (other : String)
include renamed

theorem openNode_rename : volume'.node? (openName other) =
    if other = key then none else volume.node? (openName other) := by
  rw [Volume.node?_rename renamed, if_neg (openName_ne_sealedName other key)]
  simp only [openName_inj]

theorem sealedNode_rename : volume'.node? (sealedName other) =
    if other = key then volume.node? (openName key) else volume.node? (sealedName other) := by
  rw [Volume.node?_rename renamed, if_neg (openName_ne_sealedName key other).symm]
  simp only [sealedName_inj]

theorem openFile_rename : volume'.file? (openName other) =
    if other = key then none else volume.file? (openName other) := by
  rw [Volume.file?_rename renamed, if_neg (openName_ne_sealedName other key)]
  simp only [openName_inj]

theorem sealedFile_rename : volume'.file? (sealedName other) =
    if other = key then volume.file? (openName key) else volume.file? (sealedName other) := by
  rw [Volume.file?_rename renamed, if_neg (openName_ne_sealedName key other).symm]
  simp only [sealedName_inj]

end

end

/-! ## What operations do -/

section
variable {store store' : FileStore} {volume volume' : Volume} {key : String}

theorem create_ok (h : store.create key volume = (.ok (), store', volume')) :
    RecordingKey.isValid key ∧ volume.node? (sealedName key) = none ∧
      ∃ id, volume.createNew (openName key) = .ok (volume', id) ∧
        store' = { store with handles := store.handles.insert key id } := by
  unfold create at h
  split at h
  next => cases h
  next valid =>
    split at h
    next => cases h
    next notSealed =>
      split at h
      next id made =>
        cases h
        have valid : RecordingKey.isValid key = true := by simpa using valid
        obtain ⟨present, -, -, -⟩ := Volume.createNew_ok made
        rw [hasPath_sealedName valid present] at notSealed
        exact ⟨valid, by simpa using notSealed, id, made, rfl⟩
      next => cases h

/-- A key that was never used begins a recording. -/
theorem create_fresh (valid : RecordingKey.isValid key) (present : volume.present = true)
    (notSealed : volume.node? (sealedName key) = none)
    (notOpen : volume.node? (openName key) = none) :
    store.create key volume =
      (.ok (), { store with handles := store.handles.insert key volume.contents.length },
        { volume with
          nodes := volume.nodes.insert (openName key) (.file volume.contents.length)
          contents := volume.contents ++ [[]] }) := by
  have free : volume.hasPath (sealedName key) = false := by
    rw [hasPath_sealedName valid present, notSealed, Option.isSome_none]
  simp only [create, valid, free, Volume.createNew, present, notOpen]
  rfl

theorem create_error {error : StoreError}
    (h : store.create key volume = (.error error, store', volume')) :
    store' = store ∧ volume' = volume := by
  unfold create at h
  split at h
  next => cases h; exact ⟨rfl, rfl⟩
  next =>
    split at h
    next => cases h; exact ⟨rfl, rfl⟩
    next =>
      split at h
      next => cases h
      next => cases h; exact ⟨rfl, rfl⟩

theorem append_of_handle {id : Nat} (handle : store.handles.get? key = some id) (bytes : Bytes) :
    store.append key bytes volume = (.ok (), store, volume.append id bytes) := by
  rw [append, appendWith, handle]
  rfl

theorem append_of_noHandle (unheld : store.handles.get? key = none) (bytes : Bytes) :
    store.append key bytes volume = (.error (notOpen key volume), store, volume) := by
  rw [append, appendWith, unheld]
  rfl

theorem append_ok {bytes : Bytes} (h : store.append key bytes volume = (.ok (), store', volume')) :
    ∃ id, store.handles.get? key = some id ∧ store' = store ∧ volume' = volume.append id bytes := by
  cases handle : store.handles.get? key with
  | none =>
      rw [append_of_noHandle handle] at h
      cases h
  | some id =>
      rw [append_of_handle handle] at h
      cases h
      exact ⟨id, rfl, rfl, rfl⟩

theorem append_error {bytes : Bytes} {error : StoreError}
    (h : store.append key bytes volume = (.error error, store', volume')) :
    store' = store ∧ volume' = volume := by
  cases handle : store.handles.get? key with
  | none =>
      rw [append_of_noHandle handle] at h
      cases h
      exact ⟨rfl, rfl⟩
  | some id =>
      rw [append_of_handle handle] at h
      cases h

/-- An append that meets with a fault fails. It leaves the recording as it was, or longer by what
    could not be cut off. -/
theorem appendWith_fault (store : FileStore) (fault : AppendFault) (key : String) (bytes : Bytes)
    (volume : Volume) : ∃ error left,
      store.appendWith (some fault) key bytes volume = (.error error, store, left) ∧
      (left = volume ∨ fault.isRolledBack = false ∧ ∃ id, store.handles.get? key = some id ∧
        left = volume.append id (bytes.take fault.written)) := by
  cases handle : store.handles.get? key with
  | none => exact ⟨_, _, by rw [appendWith, handle]; rfl, .inl rfl⟩
  | some id =>
      refine ⟨_, _, by rw [appendWith, handle]; rfl, ?_⟩
      cases undone : fault.isRolledBack with
      | true => exact .inl (Volume.truncate_append volume id _)
      | false => exact .inr ⟨rfl, id, rfl, rfl⟩

/-- A retry after a fault that was not undone leaves a part of its bytes twice. -/
example :
    let volume : Volume := ⟨true, (∅ : SortedMap Node).insert "session.rec.part" (.file 0), [[1]]⟩
    let store : FileStore := ⟨"recordings", (∅ : SortedMap Nat).insert "session" 0⟩
    let fault : AppendFault := ⟨.other "No space left on device (os error 28)", 1, false⟩
    let (_, store, volume) := store.appendWith (some fault) "session" [2, 3] volume
    (store.append "session" [2, 3] volume).2.2.contents = [[1, 2, 2, 3]] := by decide +kernel

theorem sealRecording_ok (h : store.sealRecording key volume = (.ok (), store', volume')) :
    (∃ id, store.handles.get? key = some id) ∧
      store' = { store with handles := store.handles.erase key } ∧
      volume.rename (openName key) (sealedName key) = .ok volume' := by
  unfold sealRecording at h
  split at h
  next => cases h
  next id handle =>
    split at h
    next renamed =>
      cases h
      exact ⟨⟨id, handle⟩, rfl, renamed⟩
    next => cases h

theorem sealRecording_error {error : StoreError}
    (h : store.sealRecording key volume = (.error error, store', volume')) :
    (store' = store ∨ store' = { store with handles := store.handles.erase key }) ∧
      volume' = volume := by
  unfold sealRecording at h
  split at h
  next => cases h; exact ⟨.inl rfl, rfl⟩
  next =>
    split at h
    next => cases h
    next => cases h; exact ⟨.inr rfl, rfl⟩

end

/-- What can be read is what is sealed. -/
theorem read_eq_ok {store : FileStore} {key : String} {volume : Volume} {bytes : Bytes} :
    store.read key volume = .ok bytes ↔
      RecordingKey.isValid key ∧ volume.file? (sealedName key) = some bytes := by
  unfold FileStore.read Volume.read Volume.file?
  cases RecordingKey.isValid key with
  | false => simp [throw, throwThe, MonadExceptOf.throw]
  | true =>
      cases volume.node? (sealedName key) with
      | none => simp [throw, throwThe, MonadExceptOf.throw]
      | some node =>
          cases node with
          | directory => simp [throw, throwThe, MonadExceptOf.throw]
          | file id => simp [pure, Except.pure]

/-! ## The directory as a store -/

/-- The recording under a key. It is open if its handle, if there is one, is that of its file. -/
def kept (key : String) (files : FileStore × Volume) : Option Recording :=
  if !RecordingKey.isValid key then none
  else
    match files.2.node? (openName key) with
    | some (.file id) =>
        if id < files.2.contents.length ∧
            (files.1.handles.get? key = some id ∨ files.1.handles.get? key = none) then
          some ⟨files.2.content id, false⟩
        else none
    | some .directory => none
    | none =>
        if files.1.handles.get? key = none then
          (files.2.file? (sealedName key)).map fun bytes => ⟨bytes, true⟩
        else none

section
variable {files : FileStore × Volume} {key : String} {bytes : Bytes}

theorem kept_open : kept key files = some ⟨bytes, false⟩ ↔
    RecordingKey.isValid key ∧ ∃ id, files.2.node? (openName key) = some (.file id) ∧
      id < files.2.contents.length ∧
      (files.1.handles.get? key = some id ∨ files.1.handles.get? key = none) ∧
      files.2.content id = bytes := by
  unfold kept
  cases RecordingKey.isValid key with
  | false => simp
  | true =>
      cases found : files.2.node? (openName key) with
      | none =>
          simp only [Bool.not_true, Bool.false_eq_true, if_false]
          split <;> simp
      | some node =>
          cases node with
          | directory => simp
          | file id => simp [and_assoc]

theorem kept_sealed : kept key files = some ⟨bytes, true⟩ ↔
    RecordingKey.isValid key ∧ files.2.node? (openName key) = none ∧
      files.1.handles.get? key = none ∧ files.2.file? (sealedName key) = some bytes := by
  unfold kept
  cases RecordingKey.isValid key with
  | false => simp
  | true =>
      cases found : files.2.node? (openName key) with
      | none => simp
      | some node =>
          cases node with
          | directory => simp
          | file id =>
              simp only [Bool.not_true, Bool.false_eq_true, if_false]
              split <;> simp

/-- What is kept sealed can be read. -/
theorem read_of_kept (sealed : kept key files = some ⟨bytes, true⟩) :
    (files.1.archive files.2).read key = .ok bytes := by
  obtain ⟨valid, -, -, stored⟩ := kept_sealed.mp sealed
  exact read_eq_ok.mpr ⟨valid, stored⟩

theorem keeps : recording.Keeps kept where
  created {key files files'} created := by
    obtain ⟨store', volume'⟩ := files'
    obtain ⟨valid, -, id, made, rfl⟩ := create_ok created
    obtain ⟨-, -, rfl, after⟩ := Volume.createNew_ok made
    have node := openNode_createNew made key
    rw [if_pos rfl] at node
    exact kept_open.mpr ⟨valid, _, node, by simp [after], by simp, by simp [after, Volume.content]⟩
  appended {key bytes more files files'} isOpen appended := by
    obtain ⟨store', volume'⟩ := files'
    obtain ⟨valid, id, node, inRange, handle, rfl⟩ := kept_open.mp isOpen
    obtain ⟨id', found, rfl, rfl⟩ := append_ok appended
    obtain rfl : id' = id := by simpa [found] using handle
    refine kept_open.mpr ⟨valid, id', node, by simpa [Volume.append] using inRange, handle, ?_⟩
    rw [Volume.content_append inRange, if_pos rfl]
  appendRefused {key bytes more files files' error} isOpen refused := by
    obtain ⟨store', volume'⟩ := files'
    obtain ⟨rfl, rfl⟩ := append_error refused
    exact isOpen
  sealed {key bytes files files'} isOpen sealed := by
    obtain ⟨store', volume'⟩ := files'
    obtain ⟨valid, id, node, -, -, rfl⟩ := kept_open.mp isOpen
    obtain ⟨-, rfl, renamed⟩ := sealRecording_ok sealed
    have openNode := openNode_rename renamed key
    have sealedFile := sealedFile_rename renamed key
    rw [if_pos rfl] at openNode
    rw [if_pos rfl, Volume.file?_of_node? node] at sealedFile
    exact kept_sealed.mpr ⟨valid, openNode, by simp, sealedFile⟩
  sealRefused {key bytes files files' error} isOpen refused := by
    obtain ⟨store', volume'⟩ := files'
    obtain ⟨valid, id, node, inRange, handle, content⟩ := kept_open.mp isOpen
    obtain ⟨rfl | rfl, rfl⟩ := sealRecording_error refused
    · exact isOpen
    · exact kept_open.mpr ⟨valid, id, node, inRange, by simp, content⟩

end

/-- The store, where the next appends meet with faults that can be undone. -/
def faulting : RecordingStore
    (List (Option { fault : AppendFault // fault.isRolledBack = true }) × FileStore × Volume) where
  create key s :=
    let (outcome, files) := recording.create key s.2
    (outcome, s.1, files)
  append key bytes s :=
    let fault? := s.1.head?.join.map Subtype.val
    let (outcome, files) := s.2.1.appendWith fault? key bytes s.2.2
    (outcome, s.1.tail, files)
  sealRecording key s :=
    let (outcome, files) := recording.sealRecording key s.2
    (outcome, s.1, files)

theorem append_faulting {key : String} {bytes : Bytes}
    {s s' : List (Option { fault : AppendFault // fault.isRolledBack = true }) × FileStore × Volume}
    {outcome : Except StoreError Unit} (h : faulting.append key bytes s = (outcome, s')) :
    ((∃ error, outcome = .error error) ∧ s'.2 = s.2) ∨
      recording.append key bytes s.2 = (outcome, s'.2) := by
  obtain ⟨plan, files⟩ := s
  obtain ⟨rfl, rfl⟩ := Prod.mk.inj h
  cases plan.head?.join with
  | none => exact .inr rfl
  | some fault =>
      obtain ⟨error, left, failed, rfl | ⟨kept, -⟩⟩ :=
        appendWith_fault files.1 fault.val key bytes files.2
      · have same := congrArg Prod.snd failed
        exact .inl ⟨⟨error, congrArg Prod.fst failed⟩, same⟩
      · rw [fault.property] at kept
        cases kept

/-- Faults that can be undone cost a recorder nothing. -/
theorem keeps_faulting : faulting.Keeps fun key s => kept key s.2 := by
  refine keeps.of_handed ?_ append_faulting ?_
  · rintro key s _ _ ⟨⟩
    rfl
  · rintro key s _ _ ⟨⟩
    rfl

/-! ## Activities -/

/-- What may be done with a directory of recordings. -/
inductive Activity where
  | create (key : String)
  | append (key : String) (bytes : Bytes)
  | sealRecording (key : String)
  /-- A process takes the directory. -/
  | acquire (self : DirectoryLock.Contender)
  /-- A process gives the directory up. -/
  | release (self : DirectoryLock.Contender)

namespace Activity

/-- The recording that an activity is about. -/
def key? : Activity → Option String
  | create key => some key
  | append key _ => some key
  | sealRecording key => some key
  | acquire _ => none
  | release _ => none

def perform : Activity → FileStore × Volume → Except StoreError Unit × FileStore × Volume
  | create key, files => files.1.create key files.2
  | append key bytes, files => files.1.append key bytes files.2
  | sealRecording key, files => files.1.sealRecording key files.2
  | acquire self, files =>
      let (outcome, volume) := DirectoryLock.acquire self files.2
      (outcome, files.1, volume)
  | release self, files => (.ok (), files.1, DirectoryLock.release self files.2)

end Activity

/-- All that an activity can do to a store and its directory. -/
inductive Effect (store : FileStore) (volume : Volume) : Activity → FileStore × Volume → Prop where
  | refused (activity : Activity) : Effect store volume activity (store, volume)
  | created {key : String} {id : Nat} {volume' : Volume} (valid : RecordingKey.isValid key)
      (made : volume.createNew (openName key) = .ok (volume', id)) :
      Effect store volume (.create key)
        ({ store with handles := store.handles.insert key id }, volume')
  | appended {key : String} {id : Nat} (handle : store.handles.get? key = some id)
      (bytes : Bytes) : Effect store volume (.append key bytes) (store, volume.append id bytes)
  | sealed {key : String} {id : Nat} {volume' : Volume}
      (handle : store.handles.get? key = some id)
      (renamed : volume.rename (openName key) (sealedName key) = .ok volume') :
      Effect store volume (.sealRecording key)
        ({ store with handles := store.handles.erase key }, volume')
  /-- The name could not be changed, and the handle is lost. -/
  | lost (key : String) : Effect store volume (.sealRecording key)
      ({ store with handles := store.handles.erase key }, volume)
  | owned {activity : Activity} {phase : DirectoryLock.Phase} {volume' : Volume}
      (frame : DirectoryLock.Frame volume phase volume') :
      Effect store volume activity (store, volume')

theorem Activity.effect (activity : Activity) (store : FileStore) {volume : Volume}
    (sound : volume.Sound) : Effect store volume activity (activity.perform (store, volume)).2 := by
  cases done : activity.perform (store, volume) with
  | mk outcome files' =>
      obtain ⟨store', volume'⟩ := files'
      cases activity with
      | create key =>
          cases outcome with
          | error error =>
              obtain ⟨rfl, rfl⟩ := create_error done
              exact .refused _
          | ok =>
              obtain ⟨valid, -, id, made, rfl⟩ := create_ok done
              exact .created valid made
      | append key bytes =>
          cases outcome with
          | error error =>
              obtain ⟨rfl, rfl⟩ := append_error done
              exact .refused _
          | ok =>
              obtain ⟨id, handle, rfl, rfl⟩ := append_ok done
              exact .appended handle bytes
      | sealRecording key =>
          cases outcome with
          | error error =>
              obtain ⟨rfl | rfl, rfl⟩ := sealRecording_error done
              · exact .refused _
              · exact .lost key
          | ok =>
              obtain ⟨⟨id, handle⟩, rfl, renamed⟩ := sealRecording_ok done
              exact .sealed handle renamed
      | acquire self =>
          obtain ⟨phase, frame⟩ := DirectoryLock.acquire_frame self sound
          cases done
          exact .owned frame
      | release self =>
          obtain ⟨phase, frame⟩ := DirectoryLock.release_frame self sound
          cases done
          exact .owned frame

namespace Tidy

variable {files : FileStore × Volume}

theorem of_frame {store : FileStore} {volume volume' : Volume} {phase : DirectoryLock.Phase}
    (tidy : Tidy (store, volume)) (frame : DirectoryLock.Frame volume phase volume') :
    Tidy (store, volume') where
  sound := frame.sound
  handles found := (frame.node _ (openName_ne_fileName _)).trans (tidy.handles found)
  noDirectory {key} valid := by
    rw [frame.node _ (openName_ne_fileName key), frame.node _ (sealedName_ne_fileName key)]
    exact tidy.noDirectory valid

theorem rename {store : FileStore} {volume volume' : Volume} {key : String} {id : Nat}
    (tidy : Tidy (store, volume)) (isFile : volume.node? (openName key) = some (.file id))
    (renamed : volume.rename (openName key) (sealedName key) = .ok volume')
    {store' : FileStore}
    (handles : ∀ {other id}, store'.handles.get? other = some id →
      other ≠ key ∧ store.handles.get? other = some id) :
    Tidy (store', volume') where
  sound := tidy.sound.rename renamed
  handles {other id} found := by
    obtain ⟨differs, found⟩ := handles found
    rw [openNode_rename renamed, if_neg differs]
    exact tidy.handles found
  noDirectory {other} valid := by
    obtain ⟨openIsFile, sealedIsFile⟩ := tidy.noDirectory valid
    rw [openNode_rename renamed, sealedNode_rename renamed, isFile]
    constructor
    · split
      · simp
      · exact openIsFile
    · split
      · simp
      · exact sealedIsFile

theorem append (tidy : Tidy files) (id : Nat) (bytes : Bytes) :
    Tidy (files.1, files.2.append id bytes) :=
  ⟨tidy.sound.append id bytes, tidy.handles, tidy.noDirectory⟩

/-- Every activity leaves the directory tidy. -/
theorem perform (tidy : Tidy files) (activity : Activity) : Tidy (activity.perform files).2 := by
  obtain ⟨store, volume⟩ := files
  have effect : Effect store volume activity (activity.perform (store, volume)).2 :=
    activity.effect store tidy.sound
  generalize (activity.perform (store, volume)).2 = files' at effect ⊢
  cases effect with
  | refused => exact tidy
  | created valid made =>
      constructor
      case sound => exact tidy.sound.createNew made
      case handles =>
        intro other handle found
        simp only [SortedMap.get?_insert] at found
        rw [openNode_createNew made]
        split at found
        next same => rw [if_pos same, Option.some.inj found]
        next differs =>
          rw [if_neg differs]
          exact tidy.handles found
      case noDirectory =>
        intro other valid
        obtain ⟨openIsFile, sealedIsFile⟩ := tidy.noDirectory valid
        rw [openNode_createNew made, sealedNode_createNew made]
        refine ⟨?_, sealedIsFile⟩
        split
        · simp
        · exact openIsFile
  | appended handle bytes => exact tidy.append _ bytes
  | sealed handle renamed =>
      refine tidy.rename (tidy.handles handle) renamed fun {other id} found => ?_
      simp only [SortedMap.get?_erase] at found
      split at found
      next => cases found
      next differs => exact ⟨differs, found⟩
  | lost key =>
      refine ⟨tidy.sound, fun {other id} found => ?_, tidy.noDirectory⟩
      simp only [SortedMap.get?_erase] at found
      split at found
      next => cases found
      next => exact tidy.handles found
  | owned frame => exact tidy.of_frame frame

/-- What is done with other recordings changes neither of the files of a recording. -/
theorem perform_apart (tidy : Tidy files) {activity : Activity} {key : String}
    (apart : activity.key? ≠ some key) :
    (activity.perform files).2.2.file? (openName key) = files.2.file? (openName key) ∧
      (activity.perform files).2.2.file? (sealedName key) = files.2.file? (sealedName key) := by
  obtain ⟨store, volume⟩ := files
  have effect : Effect store volume activity (activity.perform (store, volume)).2 :=
    activity.effect store tidy.sound
  generalize (activity.perform (store, volume)).2 = files' at effect ⊢
  cases effect with
  | refused | lost => exact ⟨rfl, rfl⟩
  | @created other _ _ _ made =>
      have differs : key ≠ other := fun same => apart (same ▸ rfl)
      rw [openFile_createNew made key tidy.sound, if_neg differs]
      exact ⟨rfl, sealedFile_createNew made key tidy.sound⟩
  | @appended other _ handle bytes =>
      have differs : key ≠ other := fun same => apart (same ▸ rfl)
      have isOpen := tidy.handles handle
      rw [openFile_append tidy.sound isOpen, if_neg differs]
      exact ⟨rfl, sealedFile_append tidy.sound isOpen bytes key⟩
  | @sealed other _ _ handle renamed =>
      have differs : key ≠ other := fun same => apart (same ▸ rfl)
      rw [openFile_rename renamed, sealedFile_rename renamed, if_neg differs, if_neg differs]
      exact ⟨rfl, rfl⟩
  | owned frame =>
      exact ⟨frame.file _ (openName_ne_fileName key), frame.file _ (sealedName_ne_fileName key)⟩

/-- An append that fails changes no other recording, and none at all if it is undone. -/
theorem appendWith_fault (tidy : Tidy files) (fault : AppendFault) (other : String) (bytes : Bytes) :
    Tidy (files.1.appendWith (some fault) other bytes files.2).2 ∧
      ∀ key, (other = key → fault.isRolledBack = true) →
        (files.1.appendWith (some fault) other bytes files.2).2.2.file? (openName key) =
            files.2.file? (openName key) ∧
          (files.1.appendWith (some fault) other bytes files.2).2.2.file? (sealedName key) =
            files.2.file? (sealedName key) := by
  obtain ⟨error, left, failed, rfl | ⟨kept, id, handle, rfl⟩⟩ :=
    FileStore.appendWith_fault files.1 fault other bytes files.2
  · rw [failed]
    exact ⟨tidy, fun key _ => ⟨rfl, rfl⟩⟩
  · rw [failed]
    have isOpen := tidy.handles handle
    refine ⟨tidy.append id _, fun key undone => ?_⟩
    have differs : key ≠ other := by
      intro same
      rw [undone same.symm] at kept
      cases kept
    rw [openFile_append tidy.sound isOpen, if_neg differs]
    exact ⟨rfl, sealedFile_append tidy.sound isOpen _ key⟩

end Tidy

end FileStore

end TerminalAgent
