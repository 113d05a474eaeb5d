import TerminalAgent.Playback.Service
import TerminalAgent.Proofs.Recording.Directory
import TerminalAgent.Proofs.Recording.Log

/-! # Recovery after a crash

A process that stops at any moment leaves the frames of all batches that were written, and perhaps a
part of one more. The next owner of the directory seals this as it is, and it is played back up to
its last whole chunk.
-/

namespace TerminalAgent.FileStore

/-- A recording is in its open file or in its sealed one. -/
def Stored (key : String) (bytes : Bytes) (volume : Volume) : Prop :=
  (volume.file? (openName key) = some bytes ∧ volume.file? (sealedName key) = none) ∨
    (volume.file? (openName key) = none ∧ volume.file? (sealedName key) = some bytes)

/-- Bytes that reach the open file are stored behind the others. -/
theorem Stored.append {key : String} {bytes : Bytes} {volume : Volume} {id : Nat}
    (stored : Stored key bytes volume) (sound : volume.Sound)
    (node : volume.node? (openName key) = some (.file id)) (more : Bytes) :
    Stored key (bytes ++ more) (volume.append id more) := by
  refine .inl ?_
  rw [openFile_append sound node, sealedFile_append sound node, if_pos rfl]
  obtain ⟨isOpen, notSealed⟩ | ⟨notOpen, -⟩ := stored
  · rw [Volume.file?_of_node? node, Option.some.injEq] at isOpen
    exact ⟨by rw [isOpen], notSealed⟩
  · simp [Volume.file?_of_node? node] at notOpen

/-- The directory while chunks are recorded under a key, in any batches and among any activities
    that concern other recordings. -/
inductive Recorded (key : String) : FileStore × Volume → List Chunk → Prop where
  | created {files files' : FileStore × Volume} (tidy : Tidy files)
      (done : files.1.create key files.2 = (.ok (), files')) : Recorded key files' []
  | appended {files files' : FileStore × Volume} {chunks batch : List Chunk} {codec : Codec}
      {frames : List Bytes} (before : Recorded key files chunks)
      (encoded : batch.mapM (Log.encodeChunk codec) = .ok frames)
      (done : files.1.append key frames.flatten files.2 = (.ok (), files')) :
      Recorded key files' (chunks ++ batch)
  | sealed {files files' : FileStore × Volume} {chunks : List Chunk}
      (before : Recorded key files chunks)
      (done : files.1.sealRecording key files.2 = (.ok (), files')) : Recorded key files' chunks
  | refused {files files' : FileStore × Volume} {chunks : List Chunk} {activity : Activity}
      {error : StoreError} (before : Recorded key files chunks)
      (about : activity.key? = some key)
      (failed : activity.perform files = (.error error, files')) : Recorded key files' chunks
  /-- An append meets with a fault. If it is one to this recording, it is undone. -/
  | failed {files : FileStore × Volume} {chunks : List Chunk} {other : String} {bytes : Bytes}
      {fault : AppendFault} (before : Recorded key files chunks)
      (undone : other = key → fault.isRolledBack = true) :
      Recorded key (files.1.appendWith (some fault) other bytes files.2).2 chunks
  | elsewhere {files : FileStore × Volume} {chunks : List Chunk} {activity : Activity}
      (before : Recorded key files chunks) (apart : activity.key? ≠ some key) :
      Recorded key (activity.perform files).2 chunks

/-- What a crash leaves of a directory: the first chunks were returned, and the others were in
    flight. -/
inductive Crashed (key : String) : Volume → List Chunk → List Chunk → Prop where
  | between {files : FileStore × Volume} {chunks : List Chunk}
      (recorded : Recorded key files chunks) : Crashed key files.2 chunks []
  /-- Some bytes of a batch have reached the file. -/
  | during {files : FileStore × Volume} {chunks batch : List Chunk} {codec : Codec}
      {frames : List Bytes} {id : Nat} (recorded : Recorded key files chunks)
      (isOpen : files.1.handles.get? key = some id)
      (encoded : batch.mapM (Log.encodeChunk codec) = .ok frames) (k : Nat) :
      Crashed key (files.2.append id (frames.flatten.take k)) chunks batch
  /-- A batch has met with a fault, and perhaps it could not be undone. -/
  | torn {files : FileStore × Volume} {chunks batch : List Chunk} {codec : Codec}
      {frames : List Bytes} (recorded : Recorded key files chunks)
      (encoded : batch.mapM (Log.encodeChunk codec) = .ok frames) (fault : AppendFault) :
      Crashed key (files.1.appendWith (some fault) key frames.flatten files.2).2.2 chunks batch
  /-- Until the crash, or after it, other recordings go on. -/
  | elsewhere {files : FileStore × Volume} {chunks batch : List Chunk} {activity : Activity}
      (crashed : Crashed key files.2 chunks batch) (tidy : Tidy files)
      (apart : activity.key? ≠ some key) :
      Crashed key (activity.perform files).2.2 chunks batch
  /-- Another process takes the directory. -/
  | acquired {volume : Volume} {chunks batch : List Chunk}
      (crashed : Crashed key volume chunks batch) (self : DirectoryLock.Contender) :
      Crashed key (DirectoryLock.acquire self volume).2 chunks batch
  /-- It begins to recover and crashes as well. -/
  | recovering {volume : Volume} {chunks batch : List Chunk}
      (crashed : Crashed key volume chunks batch) (path : String) {keys : List String}
      (valid : ∀ other ∈ keys, RecordingKey.isValid other) :
      Crashed key ((open_ path volume).1.recoverKeys keys 0 (open_ path volume).2).2.2 chunks batch

/-! ## Recording -/

theorem Recorded.stored {key : String} {files : FileStore × Volume} {chunks : List Chunk}
    (h : Recorded key files chunks) :
    RecordingKey.isValid key ∧ Tidy files ∧
      ∃ frames, Log.Frames frames chunks ∧ Stored key frames.flatten files.2 := by
  induction h with
  | @created files files' tidy done =>
      obtain ⟨store, volume⟩ := files
      obtain ⟨store', volume'⟩ := files'
      have tidy' := tidy.perform (.create key)
      simp only [Activity.perform, done] at tidy'
      obtain ⟨valid, notSealed, id, made, rfl⟩ := create_ok done
      refine ⟨valid, tidy', [], .nil, .inl ⟨?_, ?_⟩⟩
      · rw [openFile_createNew made key tidy.sound, if_pos rfl, List.flatten_nil]
      · rw [sealedFile_createNew made key tidy.sound, Volume.file?_eq_none notSealed]
  | @appended files files' chunks batch codec more before encoded done ih =>
      obtain ⟨store, volume⟩ := files
      obtain ⟨store', volume'⟩ := files'
      obtain ⟨valid, tidy, frames, hold, stored⟩ := ih
      have tidy' := tidy.perform (.append key more.flatten)
      simp only [Activity.perform, done] at tidy'
      obtain ⟨id, handle, rfl, rfl⟩ := append_ok done
      have node : volume.node? (openName key) = some (.file id) := tidy.handles handle
      refine ⟨valid, tidy', frames ++ more, ?_, ?_⟩
      · exact List.rel_append hold (Log.frames_of_mapM encoded)
      · rw [List.flatten_append]
        exact stored.append tidy.sound node more.flatten
  | @sealed files files' chunks before done ih =>
      obtain ⟨store, volume⟩ := files
      obtain ⟨store', volume'⟩ := files'
      obtain ⟨valid, tidy, frames, hold, stored⟩ := ih
      have tidy' := tidy.perform (.sealRecording key)
      simp only [Activity.perform, done] at tidy'
      obtain ⟨⟨id, handle⟩, rfl, renamed⟩ := sealRecording_ok done
      have node : volume.node? (openName key) = some (.file id) := tidy.handles handle
      refine ⟨valid, tidy', frames, hold, .inr ⟨?_, ?_⟩⟩
      · rw [openFile_rename renamed, if_pos rfl]
      · rw [sealedFile_rename renamed, if_pos rfl]
        obtain ⟨isOpen, -⟩ | ⟨notOpen, -⟩ := stored
        · exact isOpen
        · simp [Volume.file?_of_node? node] at notOpen
  | @refused files files' chunks activity error before about failed ih =>
      obtain ⟨store, volume⟩ := files
      obtain ⟨store', volume'⟩ := files'
      obtain ⟨valid, tidy, frames, hold, stored⟩ := ih
      have tidy' := tidy.perform activity
      rw [failed] at tidy'
      have same : volume' = volume := by
        cases activity with
        | create => exact (create_error failed).2
        | append => exact (append_error failed).2
        | sealRecording => exact (sealRecording_error failed).2
        | acquire | release => cases about
      exact ⟨valid, tidy', frames, hold, same ▸ stored⟩
  | @failed files chunks other bytes fault before undone ih =>
      obtain ⟨valid, tidy, frames, hold, stored⟩ := ih
      obtain ⟨tidy', same⟩ := tidy.appendWith_fault fault other bytes
      obtain ⟨sameOpen, sameSealed⟩ := same key undone
      refine ⟨valid, tidy', frames, hold, ?_⟩
      rwa [Stored, sameOpen, sameSealed]
  | @elsewhere files chunks activity before apart ih =>
      obtain ⟨valid, tidy, frames, hold, stored⟩ := ih
      obtain ⟨sameOpen, sameSealed⟩ := tidy.perform_apart apart
      refine ⟨valid, tidy.perform activity, frames, hold, ?_⟩
      rwa [Stored, sameOpen, sameSealed]

/-! ## Recovering -/

theorem Tidy.reopened {store : FileStore} {volume : Volume} (tidy : Tidy (store, volume))
    (path : String) : Tidy (open_ path volume) where
  sound := ⟨tidy.sound.inRange, tidy.sound.apart⟩
  handles found := by cases found
  noDirectory := tidy.noDirectory

theorem tidy_empty (path : String) : Tidy (open_ path Volume.empty) where
  sound := ⟨fun found => (by cases found), fun found => (by cases found)⟩
  handles found := by cases found
  noDirectory _ := ⟨fun found => (by cases found), fun found => (by cases found)⟩

/-- Sealing the open recordings of some keys moves files to other names and does nothing else. -/
theorem recoverKeys_stored {path : String} {keys : List String} (n : Nat) {volume : Volume}
    (tidy : Tidy (⟨path, ∅⟩, volume)) (valid : ∀ other ∈ keys, RecordingKey.isValid other) :
    Tidy (⟨path, ∅⟩, (recoverKeys ⟨path, ∅⟩ keys n volume).2.2) ∧
      ∀ {key bytes}, Stored key bytes volume →
        Stored key bytes (recoverKeys ⟨path, ∅⟩ keys n volume).2.2 := by
  induction keys generalizing n volume with
  | nil => exact ⟨tidy, id⟩
  | cons other rest ih =>
      unfold recoverKeys
      split
      next volume' renamed =>
        obtain ⟨openIsFile, -⟩ := tidy.noDirectory (valid other List.mem_cons_self)
        obtain ⟨node, found, -⟩ := Volume.rename_ok renamed
        cases node with
        | directory => exact absurd found openIsFile
        | file id =>
            have tidy' : Tidy (⟨path, ∅⟩, volume') :=
              tidy.rename found renamed fun found => by cases found
            obtain ⟨tidyAfter, storedAfter⟩ :=
              ih (n + 1) tidy' (fun key member => valid key (List.mem_cons_of_mem _ member))
            refine ⟨tidyAfter, fun {key bytes} stored => storedAfter ?_⟩
            by_cases same : key = other
            · subst same
              obtain ⟨isOpen, -⟩ | ⟨notOpen, -⟩ := stored
              · refine .inr ⟨?_, ?_⟩
                · rw [openFile_rename renamed, if_pos rfl]
                · rw [sealedFile_rename renamed, if_pos rfl, isOpen]
              · simp [Volume.file?_of_node? found] at notOpen
            · rwa [Stored, openFile_rename renamed, sealedFile_rename renamed, if_neg same,
                if_neg same]
      next => exact ⟨tidy, id⟩

/-- All of the keys that have open recordings are dealt with, each of them once. -/
theorem recoverKeys_ok {path : String} {keys : List String} (n : Nat) {volume : Volume}
    (tidy : Tidy (⟨path, ∅⟩, volume)) (valid : ∀ key ∈ keys, RecordingKey.isValid key)
    (areOpen : ∀ key ∈ keys, volume.node? (openName key) ≠ none) (distinct : keys.Nodup) :
    ∃ volume', recoverKeys ⟨path, ∅⟩ keys n volume =
        (.ok (n + keys.length), ⟨path, ∅⟩, volume') ∧
      ∀ key, volume'.node? (openName key) =
        if key ∈ keys then none else volume.node? (openName key) := by
  induction keys generalizing n volume with
  | nil => exact ⟨volume, rfl, fun key => by simp⟩
  | cons first rest ih =>
      obtain ⟨openIsFile, sealedIsFile⟩ := tidy.noDirectory (valid first List.mem_cons_self)
      obtain ⟨notAgain, distinct⟩ := List.nodup_cons.mp distinct
      cases found : volume.node? (openName first) with
      | none => exact absurd found (areOpen first List.mem_cons_self)
      | some node =>
          cases node with
          | directory => exact absurd found openIsFile
          | file id =>
              obtain ⟨volume₁, renamed⟩ := Volume.exists_rename found sealedIsFile
              have tidy₁ : Tidy (⟨path, ∅⟩, volume₁) :=
                tidy.rename found renamed fun found => by cases found
              have nodes := openNode_rename renamed
              have stillOpen : ∀ key ∈ rest, volume₁.node? (openName key) ≠ none := by
                intro key member
                have differs : key ≠ first := fun same => notAgain (same ▸ member)
                rw [nodes, if_neg differs]
                exact areOpen key (List.mem_cons_of_mem _ member)
              obtain ⟨volume', recovered, after⟩ := ih (n + 1) tidy₁
                (fun key member => valid key (List.mem_cons_of_mem _ member)) stillOpen distinct
              refine ⟨volume', ?_, fun key => ?_⟩
              · rw [recoverKeys, renamed]
                simp only [recovered, List.length_cons]
                rw [Nat.add_assoc, Nat.add_comm 1]
              · rw [after, nodes]
                simp only [List.mem_cons]
                grind

/-- The keys that recovery finds in a directory. -/
def leftovers (volume : Volume) : List String :=
  volume.nodes.entries.filterMap fun entry =>
    (keyOf? openEnding entry.1).filter RecordingKey.isValid

theorem recoverLeftovers_eq (store : FileStore) {volume : Volume} (present : volume.present = true) :
    store.recoverLeftovers volume = store.recoverKeys (leftovers volume) 0 volume := by
  simp only [recoverLeftovers, Volume.entries, present, if_true, leftovers, pure, Except.pure,
    List.filterMap_map]
  congr 2
  funext entry
  cases entry with
  | mk name node => cases node <;> rfl

theorem mem_leftovers {volume : Volume} {key : String} :
    key ∈ leftovers volume ↔
      RecordingKey.isValid key ∧ volume.node? (openName key) ≠ none := by
  have named (name : String) : keyOf? openEnding name = some key ↔ name = openName key :=
    keyOf?_eq_some
  simp only [leftovers, List.mem_filterMap, Option.filter_eq_some_iff, named, Volume.node?,
    Option.ne_none_iff_exists', SortedMap.get?_eq_some]
  constructor
  · rintro ⟨⟨name, node⟩, member, rfl, valid⟩
    exact ⟨valid, node, member⟩
  · rintro ⟨valid, node, member⟩
    exact ⟨(openName key, node), member, rfl, valid⟩

/-- Names ascend in a directory, so no key is found twice. -/
theorem nodup_leftovers (volume : Volume) : (leftovers volume).Nodup := by
  refine List.pairwise_filterMap.mpr (volume.nodes.sorted.imp ?_)
  intro a b smaller key keyA other keyB
  obtain ⟨keyA, -⟩ := Option.filter_eq_some_iff.mp keyA
  obtain ⟨keyB, -⟩ := Option.filter_eq_some_iff.mp keyB
  rintro rfl
  rw [keyOf?_eq_some.mp keyA, keyOf?_eq_some.mp keyB] at smaller
  exact String.lt_irrefl _ smaller

/-- A new owner seals what is stored under a key, as it is. -/
theorem recoverLeftovers_sealed {path key : String} {bytes : Bytes} {volume : Volume}
    (tidy : Tidy (open_ path volume)) (valid : RecordingKey.isValid key)
    (stored : Stored key bytes volume) :
    ∃ count store volume',
      (open_ path volume).1.recoverLeftovers (open_ path volume).2 = (.ok count, store, volume') ∧
      (store.archive volume').read key = .ok bytes := by
  have storedHere : Stored key bytes (open_ path volume).2 := stored
  have present : (open_ path volume).2.present = true := rfl
  have allValid : ∀ other ∈ leftovers (open_ path volume).2, RecordingKey.isValid other :=
    fun other member => (mem_leftovers.mp member).1
  have allOpen : ∀ other ∈ leftovers (open_ path volume).2,
      (open_ path volume).2.node? (openName other) ≠ none :=
    fun other member => (mem_leftovers.mp member).2
  obtain ⟨volume', recovered, nodes⟩ := recoverKeys_ok 0 tidy allValid allOpen (nodup_leftovers _)
  have after := (recoverKeys_stored 0 tidy allValid).2 storedHere
  rw [recovered] at after
  refine ⟨_, _, volume', (recoverLeftovers_eq _ present).trans recovered, ?_⟩
  have gone : volume'.node? (openName key) = none := by
    rw [nodes]
    split
    next => rfl
    next notFound =>
      by_contra isOpen
      exact notFound (mem_leftovers.mpr ⟨valid, isOpen⟩)
  obtain ⟨isOpen, -⟩ | ⟨-, isSealed⟩ := after
  · rw [Volume.file?_eq_none gone] at isOpen
    cases isOpen
  · exact read_eq_ok.mpr ⟨valid, isSealed⟩

/-- What a crash leaves under a key are the frames of the first chunks, and a part of the others. -/
theorem Crashed.stored {key : String} {volume : Volume} {chunks batch : List Chunk}
    (h : Crashed key volume chunks batch) :
    RecordingKey.isValid key ∧ (∃ store, Tidy (store, volume)) ∧
      ∃ frames more k, Log.Frames frames chunks ∧ Log.Frames more batch ∧
        Stored key (frames.flatten ++ more.flatten.take k) volume := by
  induction h with
  | @between files chunks recorded =>
      obtain ⟨valid, tidy, frames, hold, stored⟩ := recorded.stored
      refine ⟨valid, ⟨_, tidy⟩, frames, [], 0, hold, .nil, ?_⟩
      rwa [List.take_zero, List.append_nil]
  | @during files chunks batch codec more id recorded isOpen encoded k =>
      obtain ⟨valid, tidy, frames, hold, stored⟩ := recorded.stored
      exact ⟨valid, ⟨_, tidy.append id _⟩, frames, more, k, hold, Log.frames_of_mapM encoded,
        stored.append tidy.sound (tidy.handles isOpen) _⟩
  | @torn files chunks batch codec more recorded encoded fault =>
      obtain ⟨valid, tidy, frames, hold, stored⟩ := recorded.stored
      have holdMore := Log.frames_of_mapM encoded
      obtain ⟨error, left, failed, rfl | ⟨-, id, handle, rfl⟩⟩ :=
        appendWith_fault files.1 fault key more.flatten files.2
      · rw [failed]
        refine ⟨valid, ⟨_, tidy⟩, frames, more, 0, hold, holdMore, ?_⟩
        rwa [List.take_zero, List.append_nil]
      · rw [failed]
        exact ⟨valid, ⟨_, tidy.append id _⟩, frames, more, fault.written, hold, holdMore,
          stored.append tidy.sound (tidy.handles handle) _⟩
  | @elsewhere files chunks batch activity crashed tidy apart ih =>
      obtain ⟨valid, -, frames, more, k, hold, holdMore, stored⟩ := ih
      obtain ⟨sameOpen, sameSealed⟩ := tidy.perform_apart apart
      refine ⟨valid, ⟨_, tidy.perform activity⟩, frames, more, k, hold, holdMore, ?_⟩
      rwa [Stored, sameOpen, sameSealed]
  | @acquired volume chunks batch crashed self ih =>
      obtain ⟨valid, ⟨store, tidy⟩, frames, more, k, hold, holdMore, stored⟩ := ih
      obtain ⟨phase, frame⟩ := DirectoryLock.acquire_frame self tidy.sound
      refine ⟨valid, ⟨store, tidy.of_frame frame⟩, frames, more, k, hold, holdMore, ?_⟩
      rwa [Stored, frame.file _ (openName_ne_fileName key),
        frame.file _ (sealedName_ne_fileName key)]
  | @recovering volume chunks batch crashed path keys allValid ih =>
      obtain ⟨valid, ⟨store, tidy⟩, frames, more, k, hold, holdMore, stored⟩ := ih
      obtain ⟨tidy', stored'⟩ := recoverKeys_stored 0 (tidy.reopened path) allValid
      exact ⟨valid, ⟨_, tidy'⟩, frames, more, k, hold, holdMore, stored' stored⟩

/-- After a crash at any moment the next owner recovers the directory, and the recording is played
    back as a first part of its chunks that has all the chunks of the batches that were returned. -/
theorem load_recovered {key : String} {volume : Volume} {chunks batch : List Chunk}
    (crashed : Crashed key volume chunks batch) (path : String) :
    ∃ count store volume' got,
      (open_ path volume).1.recoverLeftovers (open_ path volume).2 = (.ok count, store, volume') ∧
      Playback.load (store.archive volume') key = .ok got ∧
      chunks <+: got ∧ got <+: chunks ++ batch := by
  obtain ⟨valid, ⟨_, tidy⟩, frames, more, k, hold, holdMore, stored⟩ := crashed.stored
  obtain ⟨count, store, volume', recovered, read⟩ :=
    recoverLeftovers_sealed (tidy.reopened path) valid stored
  have all : Log.Frames (frames ++ more) (chunks ++ batch) := List.rel_append hold holdMore
  obtain ⟨n, cut, decoded⟩ := Log.decode_take all (frames.flatten.length + k)
  have torn : (frames ++ more).flatten.take (frames.flatten.length + k) =
      frames.flatten ++ more.flatten.take k := by
    rw [List.flatten_append, List.take_length_add_append]
  -- Wherever the batch is torn, the cut is not before the end of the frames that were returned.
  have returned : chunks.length ≤ n := by
    rw [← hold.length_eq, cut.whole _ (by simp), List.take_left]
    omega
  rw [torn] at decoded
  refine ⟨count, store, volume', _, recovered, Playback.load_eq read decoded, ?_,
    List.take_prefix n _⟩
  rw [List.take_append, List.take_of_length_le returned]
  exact List.prefix_append _ _

/-- The second of two batches is cut within its frame. -/
theorem load_recovered_torn :
    let first : Chunk := ⟨0, 0, .enabled, [104, 105]⟩
    let second : Chunk := ⟨1, 7, .disabled, [33]⟩
    let frame (chunk : Chunk) : Bytes := Frame.frameBytes 0 chunk.encode
    let torn : Volume :=
      ⟨true, (∅ : SortedMap Node).insert (openName "session") (.file 0),
        [frame first ++ (frame second).take 20]⟩
    ∃ count store volume' got,
      (open_ "recordings" torn).1.recoverLeftovers (open_ "recordings" torn).2 =
        (.ok count, store, volume') ∧
      Playback.load (store.archive volume') "session" = .ok got ∧
      [first] <+: got ∧ got <+: [first, second] := by
  intro first second frame torn
  have created : (open_ "recordings" .empty).1.create "session" (open_ "recordings" .empty).2 =
      (.ok (), ⟨"recordings", (∅ : SortedMap Nat).insert "session" 0⟩,
        ⟨true, (∅ : SortedMap Node).insert (openName "session") (.file 0), [[]]⟩) :=
    create_fresh (by decide) rfl rfl rfl
  have encoded₁ : [first].mapM (Log.encodeChunk .plain) = .ok [frame first] := by decide +kernel
  have encoded₂ : [second].mapM (Log.encodeChunk .plain) = .ok [frame second] := by decide +kernel
  have recorded := Recorded.appended (.created (tidy_empty "recordings") created) encoded₁ rfl
  have crashed : Crashed "session" torn [first] [second] := .during recorded rfl encoded₂ 20
  exact load_recovered crashed "recordings"

end TerminalAgent.FileStore
