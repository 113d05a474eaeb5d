import TerminalAgent.Proofs.Recording.CrashRecovery
import TerminalAgent.Proofs.Recording.Ledger

/-! # The contract of the file store

Whatever is asked of the stores on a directory, each answer is the one that is due by the answers
before it, and the files are where the ledger says. A recording is in one of its two files, and what
the present store object holds is what it has handles of.
-/

namespace TerminalAgent.FileStore

/-- The files of a recording, of which there is at most one. -/
def Kept (key : String) (volume : Volume) : Option Entry → Prop
  | none => volume.node? (openName key) = none ∧ volume.node? (sealedName key) = none
  | some ⟨bytes, .sealed⟩ =>
      volume.node? (openName key) = none ∧ volume.file? (sealedName key) = some bytes
  | some ⟨bytes, _⟩ =>
      volume.file? (openName key) = some bytes ∧ volume.node? (sealedName key) = none

structure Placed (key : String) (item? : Option Entry) (files : FileStore × Volume) : Prop where
  valid : item?.isSome → RecordingKey.isValid key
  kept : Kept key files.2 item?
  handle : (files.1.handles.get? key).isSome ↔ ∃ bytes, item? = some ⟨bytes, .held⟩

structure Describes (ledger : Ledger) (files : FileStore × Volume) : Prop where
  tidy : Tidy files
  present : files.2.present = true
  placed : ∀ key, Placed key (ledger.get? key) files

/-! ## What an operation leaves alone -/

/-- An event that says nothing about a key. -/
structure Event.Spares (event : Event) (key : String) : Prop where
  created : event.created? ≠ some key
  added : event.added key = []
  sealed : event.sealed? ≠ some key
  recovers : event.recovers = false
  reopens : event.reopens = false

theorem Ledger.get?_note_of_spares {ledger : Ledger} {event : Event} {key : String}
    (spares : event.Spares key) : (ledger.note event).get? key = ledger.get? key := by
  have same (entry : Entry) : Entry.after key event entry = entry := by
    simp [Entry.after, spares.added, spares.sealed, spares.recovers, spares.reopens]
  rw [get?_note, if_neg spares.created]
  cases ledger.get? key with
  | none => rfl
  | some entry => rw [Option.map_some, same]

theorem Event.spares_of_apart {activity : Activity} {key : String}
    (apart : activity.key? ≠ some key) (answer : Answer) : Spares (.act activity, answer) key := by
  cases activity <;> cases answer <;> constructor <;>
    simp_all [created?, added, sealed?, recovers, reopens, Activity.key?]

theorem Event.spares_of_refused (activity : Activity) (key : String) :
    Spares (.act activity, .refused) key := by
  cases activity <;> constructor <;> simp [created?, added, sealed?, recovers, reopens]

/-- Reading and listing leave no trace in a ledger. -/
theorem Event.spares_of_reader {operation : Operation}
    (reader : operation = .list ∨ ∃ other, operation = .read other) (answer : Answer)
    (key : String) : Spares (operation, answer) key := by
  obtain rfl | ⟨other, rfl⟩ := reader <;> constructor <;>
    simp [created?, added, sealed?, recovers, reopens]

/-- The files and the handle of a recording are the same. -/
structure Alike (key : String) (files files' : FileStore × Volume) : Prop where
  openNode : files'.2.node? (openName key) = files.2.node? (openName key)
  openFile : files'.2.file? (openName key) = files.2.file? (openName key)
  sealedNode : files'.2.node? (sealedName key) = files.2.node? (sealedName key)
  sealedFile : files'.2.file? (sealedName key) = files.2.file? (sealedName key)
  handle : files'.1.handles.get? key = files.1.handles.get? key

theorem Placed.alike {key : String} {item? : Option Entry} {files files' : FileStore × Volume}
    (placed : Placed key item? files) (alike : Alike key files files') :
    Placed key item? files' where
  valid := placed.valid
  kept := by
    have kept := placed.kept
    unfold Kept at kept ⊢
    rwa [alike.openNode, alike.openFile, alike.sealedNode, alike.sealedFile]
  handle := by rw [alike.handle, placed.handle]

theorem Tidy.perform_alike {files : FileStore × Volume} (tidy : Tidy files) {activity : Activity}
    {key : String} (apart : activity.key? ≠ some key) :
    Alike key files (activity.perform files).2 := by
  obtain ⟨openFile, sealedFile⟩ := tidy.perform_apart apart
  suffices names : _ ∧ _ ∧ _ from ⟨names.1, openFile, names.2.1, sealedFile, names.2.2⟩
  obtain ⟨store, volume⟩ := files
  have effect : Effect store volume activity (activity.perform (store, volume)).2 :=
    activity.effect store tidy.sound
  generalize (activity.perform (store, volume)).2 = files' at effect ⊢
  cases effect with
  | refused | appended => exact ⟨rfl, rfl, rfl⟩
  | @created other _ _ _ made =>
      have differs : key ≠ other := fun same => apart (same ▸ rfl)
      rw [openNode_createNew made, sealedNode_createNew made, if_neg differs]
      exact ⟨rfl, rfl, by simp [differs]⟩
  | @sealed other _ _ handle renamed =>
      have differs : key ≠ other := fun same => apart (same ▸ rfl)
      rw [openNode_rename renamed, sealedNode_rename renamed, if_neg differs, if_neg differs]
      exact ⟨rfl, rfl, by simp [differs]⟩
  | lost other =>
      have differs : key ≠ other := fun same => apart (same ▸ rfl)
      exact ⟨rfl, rfl, by simp [differs]⟩
  | owned frame =>
      exact ⟨frame.node _ (openName_ne_fileName key), frame.node _ (sealedName_ne_fileName key),
        rfl⟩

theorem Tidy.perform_present {files : FileStore × Volume} (tidy : Tidy files)
    (activity : Activity) : (activity.perform files).2.2.present = files.2.present := by
  obtain ⟨store, volume⟩ := files
  have effect : Effect store volume activity (activity.perform (store, volume)).2 :=
    activity.effect store tidy.sound
  generalize (activity.perform (store, volume)).2 = files' at effect ⊢
  cases effect with
  | refused | appended | lost => rfl
  | created valid made =>
      obtain ⟨-, -, -, rfl⟩ := Volume.createNew_ok made
      rfl
  | sealed handle renamed =>
      obtain ⟨node, -, rfl⟩ := Volume.rename_ok renamed
      rfl
  | owned frame => exact frame.present

/-! ## What an activity does with its recording -/

/-- Without files there is no recording. -/
theorem Kept.eq_none {key : String} {item? : Option Entry} {volume : Volume}
    (kept : Kept key volume item?) (notOpen : volume.node? (openName key) = none)
    (notSealed : volume.node? (sealedName key) = none) : item? = none := by
  unfold Kept at kept
  split at kept
  next => rfl
  next => simp [Volume.file?_eq_none notSealed] at kept
  next => simp [Volume.file?_eq_none notOpen] at kept

theorem Placed.isHeld {ledger : Ledger} {key : String} {files : FileStore × Volume}
    (placed : Placed key (ledger.get? key) files) :
    ledger.isHeld key = (files.1.handles.get? key).isSome := by
  rw [Bool.eq_iff_iff, placed.handle, Ledger.isHeld_eq]

/-- The answer to an activity is due, and the ledger is right about a key when it is noted. -/
structure Meets (ledger : Ledger) (files : FileStore × Volume) (activity : Activity)
    (key : String) : Prop where
  due : ((Operation.act activity).perform files).1 = ledger.due (.act activity)
  placed : Placed key ((ledger.note (.act activity, ledger.due (.act activity))).get? key)
    (activity.perform files).2

section
variable {ledger : Ledger} {store : FileStore} {volume : Volume} {activity : Activity}
  {key : String}

theorem Meets.of_refused {error : StoreError}
    (placed : Placed key (ledger.get? key) (store, volume))
    (about : activity.key? = some key) (due : ledger.due (.act activity) = .refused)
    (refused : activity.perform (store, volume) = (.error error, store, volume)) :
    Meets ledger (store, volume) activity key where
  due := by
    simp only [Operation.perform, refused, about, due]
    rfl
  placed := by
    rw [due, refused, Ledger.get?_note_of_spares (Event.spares_of_refused _ key)]
    exact placed

theorem Describes.meets_create (describes : Describes ledger (store, volume)) (key : String) :
    Meets ledger (store, volume) (.create key) key := by
  have placed := describes.placed key
  cases done : store.create key volume with
  | mk outcome files =>
      obtain ⟨store', volume'⟩ := files
      cases outcome with
      | ok =>
          obtain ⟨valid, notSealed, id, made, rfl⟩ := create_ok done
          obtain ⟨-, notOpen, -, -⟩ := Volume.createNew_ok made
          have fresh := placed.kept.eq_none notOpen notSealed
          have due : ledger.due (.act (.create key)) = .done := if_pos ⟨valid, fresh⟩
          refine ⟨?_, ?_⟩
          · simp only [Operation.perform, Activity.perform, done, due]
            rfl
          · simp only [Activity.perform, done, due, Ledger.get?_note_created]
            refine ⟨fun _ => valid, ⟨?_, ?_⟩, by simp⟩
            · rw [openFile_createNew made key describes.tidy.sound, if_pos rfl]
            · rw [sealedNode_createNew made, notSealed]
      | error error =>
          obtain ⟨rfl, rfl⟩ := create_error done
          -- Of a valid key that has no file, the file is made.
          have notFresh : ¬ (RecordingKey.isValid key ∧ ledger.get? key = none) := by
            rintro ⟨valid, fresh⟩
            have kept := placed.kept
            rw [fresh] at kept
            rw [create_fresh valid describes.present kept.2 kept.1] at done
            cases done
          exact .of_refused placed rfl (if_neg notFresh) done

theorem Describes.meets_append (describes : Describes ledger (store, volume)) (key : String)
    (more : Bytes) : Meets ledger (store, volume) (.append key more) key := by
  have placed := describes.placed key
  have isHeld : ledger.isHeld key = (store.handles.get? key).isSome := placed.isHeld
  cases found : store.handles.get? key with
  | none =>
      have due : ledger.due (.act (.append key more)) = .refused := if_neg (by simp [isHeld, found])
      exact .of_refused placed rfl due (append_of_noHandle found more)
  | some id =>
      rw [found] at isHeld
      have due : ledger.due (.act (.append key more)) = .done := if_pos isHeld
      obtain ⟨bytes, entry⟩ := Ledger.isHeld_eq.mp isHeld
      obtain ⟨valid, ⟨openFile, notSealed⟩, -⟩ := entry ▸ placed
      have node := describes.tidy.handles found
      have content : volume.content id = bytes :=
        Option.some.inj ((Volume.file?_of_node? node).symm.trans openFile)
      have done : Activity.perform (.append key more) (store, volume) =
          (.ok (), store, volume.append id more) := append_of_handle found more
      refine ⟨?_, ?_⟩
      · simp only [Operation.perform, done, due]
        rfl
      · rw [done, due, Ledger.get?_note_appended entry]
        refine ⟨fun _ => valid rfl, ⟨?_, notSealed⟩, by simp [found]⟩
        rw [openFile_append describes.tidy.sound node, if_pos rfl, content]

theorem Describes.meets_seal (describes : Describes ledger (store, volume)) (key : String) :
    Meets ledger (store, volume) (.sealRecording key) key := by
  have placed := describes.placed key
  have isHeld : ledger.isHeld key = (store.handles.get? key).isSome := placed.isHeld
  cases found : store.handles.get? key with
  | none =>
      have due : ledger.due (.act (.sealRecording key)) = .refused :=
        if_neg (by simp [isHeld, found])
      exact .of_refused placed rfl due (by simp only [Activity.perform, sealRecording, found]; rfl)
  | some id =>
      rw [found] at isHeld
      have due : ledger.due (.act (.sealRecording key)) = .done := if_pos isHeld
      obtain ⟨bytes, entry⟩ := Ledger.isHeld_eq.mp isHeld
      obtain ⟨valid, ⟨openFile, notSealed⟩, -⟩ := entry ▸ placed
      have node := describes.tidy.handles found
      obtain ⟨volume', renamed⟩ : ∃ volume', volume.rename (openName key) (sealedName key) =
          .ok volume' := Volume.exists_rename node (by simp [notSealed])
      have done : Activity.perform (.sealRecording key) (store, volume) =
          (.ok (), { store with handles := store.handles.erase key }, volume') := by
        simp only [Activity.perform, sealRecording, found, renamed]
        rfl
      refine ⟨?_, ?_⟩
      · simp only [Operation.perform, done, due]
        rfl
      · rw [done, due, Ledger.get?_note_sealed entry]
        refine ⟨fun _ => valid rfl, ⟨?_, ?_⟩, by simp⟩
        · rw [openNode_rename renamed, if_pos rfl]
        · rw [sealedFile_rename renamed, if_pos rfl, openFile]

end

/-! ## Operations -/

section
variable {ledger : Ledger} {files : FileStore × Volume}

/-- The answer to an operation is due, and the ledger is right when it is noted. -/
structure Honours (ledger : Ledger) (files : FileStore × Volume) (operation : Operation) :
    Prop where
  due : (operation.perform files).1 = ledger.due operation
  describes : Describes (ledger.note (operation, ledger.due operation)) (operation.perform files).2

theorem Describes.meets (describes : Describes ledger files) {activity : Activity} {key : String}
    (about : activity.key? = some key) : Meets ledger files activity key := by
  cases activity with
  | create => exact Option.some.inj about ▸ describes.meets_create _
  | append => exact Option.some.inj about ▸ describes.meets_append _ _
  | sealRecording => exact Option.some.inj about ▸ describes.meets_seal _
  | acquire | release => cases about

theorem Describes.act (describes : Describes ledger files) (activity : Activity) :
    Honours ledger files (.act activity) where
  due := by
    cases about : activity.key? with
    | some key => exact (describes.meets about).due
    | none =>
        simp only [Operation.perform, about, Option.isSome_none, Bool.false_eq_true, if_false]
        cases activity with
        | create | append | sealRecording => cases about
        | acquire | release => rfl
  describes := by
    refine ⟨describes.tidy.perform activity, ?_, fun key => ?_⟩
    · exact (describes.tidy.perform_present activity).trans describes.present
    · by_cases about : activity.key? = some key
      · exact (describes.meets about).placed
      · rw [Ledger.get?_note_of_spares (Event.spares_of_apart about _)]
        exact (describes.placed key).alike (describes.tidy.perform_alike about)

theorem Describes.reopen (describes : Describes ledger files) (path : String) :
    Honours ledger files (.reopen path) where
  due := rfl
  describes := by
    refine ⟨describes.tidy.reopened path, rfl, fun key => ?_⟩
    have noHandle : ((Operation.reopen path).perform files).2.1.handles.get? key = none := rfl
    obtain ⟨valid, kept, -⟩ := describes.placed key
    rw [Ledger.get?_note, if_neg (by simp [Event.created?])]
    cases found : ledger.get? key with
    | none =>
        rw [found] at kept
        exact ⟨by simp, kept, by simp [noHandle]⟩
    | some entry =>
        obtain ⟨bytes, stage⟩ := entry
        rw [found] at kept valid
        rw [Option.map_some, Entry.after_reopen]
        cases stage with
        | held | orphaned | sealed => exact ⟨fun _ => valid rfl, kept, by simp [noHandle]⟩

/-! ## Recovery -/

/-- Nothing is held. -/
def Ledger.Idle (ledger : Ledger) : Prop :=
  ∀ key, ledger.isHeld key = false

theorem Describes.no_handles {store : FileStore} {volume : Volume}
    (describes : Describes ledger (store, volume)) (idle : ledger.Idle) :
    store = ⟨store.path, ∅⟩ := by
  have none_held : store.handles = ∅ := SortedMap.eq_empty fun key => by
    have placed := describes.placed key
    simpa [idle key] using placed.isHeld
  rw [← none_held]

/-- The open recordings in the directory are those that the ledger has not sealed. -/
theorem Describes.leftovers_perm (describes : Describes ledger files) :
    (leftovers files.2).Perm ledger.unsealed := by
  refine (List.perm_ext_iff_of_nodup (nodup_leftovers _) ledger.nodup_unsealed).mpr fun key => ?_
  obtain ⟨valid, kept, -⟩ := describes.placed key
  rw [mem_leftovers, Ledger.mem_unsealed]
  cases found : ledger.get? key with
  | none =>
      rw [found] at kept
      simp [kept.1]
  | some entry =>
      obtain ⟨bytes, stage⟩ := entry
      rw [found] at kept valid
      cases stage with
      | sealed => simp [kept.1]
      | held | orphaned =>
          obtain ⟨id, node, -⟩ := Volume.exists_node?_of_file? kept.1
          simp [valid, node]

theorem Kept.stored {key : String} {volume : Volume} {entry : Entry}
    (kept : Kept key volume (some entry)) : Stored key entry.bytes volume := by
  obtain ⟨bytes, stage⟩ := entry
  cases stage with
  | sealed => exact .inr ⟨Volume.file?_eq_none kept.1, kept.2⟩
  | held | orphaned => exact .inl ⟨kept.1, Volume.file?_eq_none kept.2⟩

/-- Recovery changes only what the names of the recovered keys show. -/
theorem recoverKeys_apart (store : FileStore) (keys : List String) (n : Nat) (volume : Volume) :
    (recoverKeys store keys n volume).2.2.present = volume.present ∧
      ∀ key ∉ keys, (recoverKeys store keys n volume).2.2.node? (sealedName key) =
        volume.node? (sealedName key) := by
  induction keys generalizing n volume with
  | nil => exact ⟨rfl, fun _ _ => rfl⟩
  | cons first rest ih =>
      unfold recoverKeys
      split
      next volume' renamed =>
        obtain ⟨present, names⟩ := ih (n + 1) volume'
        constructor
        · obtain ⟨node, -, rfl⟩ := Volume.rename_ok renamed
          exact present
        · intro key apart
          obtain ⟨differs, apart⟩ := not_or.mp (mt List.mem_cons.mpr apart)
          rw [names key apart, sealedNode_rename renamed, if_neg differs]
      next => exact ⟨rfl, fun _ _ => rfl⟩

/-- Recovery seals all recordings as they are. -/
theorem Describes.recover (describes : Describes ledger files) (idle : ledger.Idle) :
    Honours ledger files .recover := by
  obtain ⟨⟨path, handles⟩, volume⟩ := files
  -- A handle would still be there when its recording is sealed.
  obtain rfl : handles = ∅ := congrArg FileStore.handles (describes.no_handles idle)
  have allValid : ∀ key ∈ leftovers volume, RecordingKey.isValid key :=
    fun key member => (mem_leftovers.mp member).1
  have allOpen : ∀ key ∈ leftovers volume, volume.node? (openName key) ≠ none :=
    fun key member => (mem_leftovers.mp member).2
  obtain ⟨volume', recovered, nodes⟩ :=
    recoverKeys_ok 0 describes.tidy allValid allOpen (nodup_leftovers volume)
  obtain ⟨tidy, stored⟩ := recoverKeys_stored 0 describes.tidy allValid
  obtain ⟨present, apart⟩ := recoverKeys_apart ⟨path, ∅⟩ (leftovers volume) 0 volume
  rw [recovered] at tidy stored present apart
  have performed : Operation.perform .recover (⟨path, ∅⟩, volume) =
      (.recovered ledger.unsealed.length, ⟨path, ∅⟩, volume') := by
    rw [← describes.leftovers_perm.length_eq]
    simp only [Operation.perform, recoverLeftovers_eq _ describes.present, recovered, Nat.zero_add]
    rfl
  refine ⟨by rw [performed]; rfl, ?_⟩
  rw [performed]
  refine ⟨tidy, present.trans describes.present, fun key => ?_⟩
  obtain ⟨valid, kept, -⟩ := describes.placed key
  have noHandle : (∅ : SortedMap Nat).get? key = none := rfl
  rw [Ledger.get?_note, if_neg (by simp [Event.created?])]
  cases found : ledger.get? key with
  | none =>
      rw [found] at kept
      have untouched : key ∉ leftovers volume := fun member => (mem_leftovers.mp member).2 kept.1
      refine ⟨by simp, ⟨?_, ?_⟩, by simp [noHandle]⟩
      · exact (nodes key).trans ((if_neg untouched).trans kept.1)
      · exact (apart key untouched).trans kept.2
  | some entry =>
      rw [found] at kept valid
      have gone : volume'.node? (openName key) = none := by
        rw [nodes]
        split
        next => rfl
        next notFound =>
          by_contra isOpen
          exact notFound (mem_leftovers.mpr ⟨valid rfl, isOpen⟩)
      have closed : Stored key entry.bytes volume' := stored kept.stored
      rw [Option.map_some, Ledger.due, Entry.after_recover]
      refine ⟨fun _ => valid rfl, ⟨gone, ?_⟩, by simp [noHandle]⟩
      obtain ⟨isOpen, -⟩ | ⟨-, isSealed⟩ := closed
      · rw [Volume.file?_eq_none gone] at isOpen
        cases isOpen
      · exact isSealed

/-! ## Readers -/

theorem read_refused {store : FileStore} {volume : Volume} {key : String}
    (notSealed : volume.node? (sealedName key) = none) :
    Answer.of .bytes (store.read key volume) = .refused := by
  simp only [FileStore.read, Volume.read, notSealed]
  split <;> rfl

/-- Any store object on the directory reads what the ledger has sealed. -/
theorem Describes.read (describes : Describes ledger files) (store : FileStore) (key : String) :
    Answer.of .bytes (store.read key files.2) = ledger.due (.read key) := by
  obtain ⟨valid, kept, -⟩ := describes.placed key
  simp only [Ledger.due]
  cases found : ledger.get? key with
  | none =>
      rw [found] at kept
      exact read_refused kept.2
  | some entry =>
      obtain ⟨bytes, stage⟩ := entry
      rw [found] at kept valid
      cases stage with
      | held | orphaned => exact read_refused kept.2
      | sealed =>
          have valid : RecordingKey.isValid key = true := valid rfl
          rw [read_eq_ok.mpr ⟨valid, kept.2⟩]
          rfl

/-- The size that an entry of a directory is listed with. -/
def listedSize (volume : Volume) : Node → Nat
  | .directory => Volume.directorySize
  | .file id => (volume.content id).length

/-- The files of sealed recordings, in order of names. -/
def listed (volume : Volume) : List RecordingInfo :=
  volume.nodes.entries.filterMap fun entry =>
    (keyOf? sealedEnding entry.1).map fun key => ⟨key, listedSize volume entry.2⟩

theorem list_eq (store : FileStore) {volume : Volume} (present : volume.present = true) :
    store.list volume = .ok ((listed volume).mergeSort fun a b => decide (a.key ≤ b.key)) := by
  simp only [FileStore.list, Volume.entries, present, if_true, listed, pure, Except.pure,
    List.filterMap_map]
  congr 3
  funext entry
  cases entry with
  | mk name node => cases node <;> rfl

theorem mem_listed {volume : Volume} {info : RecordingInfo} :
    info ∈ listed volume ↔ ∃ node, volume.node? (sealedName info.key) = some node ∧
      info.size = listedSize volume node := by
  have named (name key : String) : keyOf? sealedEnding name = some key ↔ name = sealedName key :=
    keyOf?_eq_some
  simp only [listed, List.mem_filterMap, Option.map_eq_some_iff, named, Volume.node?,
    SortedMap.get?_eq_some]
  constructor
  · rintro ⟨⟨name, node⟩, member, key, rfl, rfl⟩
    exact ⟨node, member, rfl⟩
  · rintro ⟨node, member, size⟩
    exact ⟨_, member, info.key, rfl, by rw [← size]⟩

theorem distinct_listed (volume : Volume) : (listed volume).Pairwise fun a b => a.key ≠ b.key := by
  refine List.pairwise_filterMap.mpr (volume.nodes.sorted.imp ?_)
  intro a b smaller info infoA other infoB same
  obtain ⟨keyA, namedA, rfl⟩ := Option.map_eq_some_iff.mp infoA
  obtain ⟨keyB, namedB, rfl⟩ := Option.map_eq_some_iff.mp infoB
  have sameKey : keyA = keyB := same
  rw [keyOf?_eq_some.mp namedA, keyOf?_eq_some.mp namedB, sameKey] at smaller
  exact String.lt_irrefl _ smaller

theorem Describes.listed_perm (describes : Describes ledger files) :
    (listed files.2).Perm ledger.infos := by
  have distinct : ledger.infos.Nodup := by
    refine List.nodup_iff_pairwise_ne.mpr (ledger.infos_sorted.imp ?_)
    rintro a b smaller rfl
    exact String.lt_irrefl _ smaller
  have listedOnce : (listed files.2).Nodup := by
    refine List.nodup_iff_pairwise_ne.mpr ((distinct_listed files.2).imp ?_)
    rintro a b differ rfl
    exact differ rfl
  refine (List.perm_ext_iff_of_nodup listedOnce distinct).mpr fun info => ?_
  obtain ⟨-, kept, -⟩ := describes.placed info.key
  rw [mem_listed, Ledger.mem_infos]
  cases found : ledger.get? info.key with
  | none =>
      rw [found] at kept
      simp [kept.2]
  | some entry =>
      obtain ⟨bytes, stage⟩ := entry
      rw [found] at kept
      cases stage with
      | held | orphaned => simp [kept.2]
      | sealed =>
          obtain ⟨id, node, content⟩ := Volume.exists_node?_of_file? kept.2
          simp [node, listedSize, content]

/-- Infos of which no two have one key are in strict order of keys when they are sorted. -/
theorem ascending_mergeSort {infos : List RecordingInfo}
    (distinct : infos.Pairwise fun a b => a.key ≠ b.key) :
    (infos.mergeSort fun a b => decide (a.key ≤ b.key)).Pairwise fun a b => a.key < b.key := by
  have sorted : (infos.mergeSort fun a b => decide (a.key ≤ b.key)).Pairwise
      fun a b => decide (a.key ≤ b.key) = true :=
    List.pairwise_mergeSort (by simpa using fun a b c : RecordingInfo => String.le_trans)
      (by simpa using fun a b : RecordingInfo => String.le_total a.key b.key) _
  have apart : (infos.mergeSort fun a b => decide (a.key ≤ b.key)).Pairwise
      fun a b => a.key ≠ b.key :=
    (List.mergeSort_perm infos _).symm.pairwise distinct fun differ => differ.symm
  refine sorted.imp₂ (fun a b le differ => ?_) apart
  rcases Std.le_iff_lt_or_eq.mp (of_decide_eq_true le) with less | same
  · exact less
  · exact absurd same differ

/-- Any store object on the directory lists what the ledger has sealed. -/
theorem Describes.list (describes : Describes ledger files) (store : FileStore) :
    Answer.of .infos (store.list files.2) = ledger.due .list := by
  rw [list_eq store describes.present]
  -- No two infos share a key, so there is one way to sort them.
  suffices same : (listed files.2).mergeSort (fun a b => decide (a.key ≤ b.key)) = ledger.infos from
    congrArg Answer.infos same
  have perm := (List.mergeSort_perm (listed files.2) fun a b => decide (a.key ≤ b.key)).trans
    describes.listed_perm
  refine perm.eq_of_pairwise ?_ (ascending_mergeSort (distinct_listed files.2)) ledger.infos_sorted
  intro a b _ _ less greater
  exact absurd greater (String.lt_asymm less)

/-! ## Runs -/

theorem Describes.step (describes : Describes ledger files) (operation : Operation)
    (idle : operation = .recover → ledger.Idle) : Honours ledger files operation := by
  obtain ⟨store, volume⟩ := files
  cases operation with
  | act activity => exact describes.act activity
  | reopen path => exact describes.reopen path
  | recover => exact describes.recover (idle rfl)
  | read key =>
      refine ⟨describes.read store key, describes.tidy, describes.present, fun other => ?_⟩
      rw [Ledger.get?_note_of_spares (Event.spares_of_reader (.inr ⟨key, rfl⟩) _ other)]
      exact describes.placed other
  | list =>
      refine ⟨describes.list store, describes.tidy, describes.present, fun other => ?_⟩
      rw [Ledger.get?_note_of_spares (Event.spares_of_reader (.inl rfl) _ other)]
      exact describes.placed other

end

/-- What was done to a directory, with the answers, and what there is in the directory. -/
structure Contract (history : List Event) (files : FileStore × Volume) : Prop where
  /-- Each answer is due by what was done before. -/
  answered : ∀ {before operation answer after},
    history = before ++ (operation, answer) :: after → answer = (Ledger.of before).due operation
  accounts : ∀ {before after}, history = before ++ after →
    ∀ key, Accounts key ((Ledger.of before).get? key) before
  kept : ∀ key, Kept key files.2 ((Ledger.of history).get? key)
  /-- Any store object on the directory answers its readers so. -/
  read : ∀ (reader : FileStore) key,
    Answer.of .bytes (reader.read key files.2) = (Ledger.of history).due (.read key)
  list : ∀ reader : FileStore,
    Answer.of .infos (reader.list files.2) = (Ledger.of history).due .list

namespace Ledger

variable {ledger : Ledger}

theorem due_fresh {operation : Operation} {key : String}
    (begins : Event.created? (operation, ledger.due operation) = some key) :
    ledger.get? key = none := by
  obtain ⟨same, -⟩ := Event.of_created? begins
  obtain ⟨rfl, done⟩ := Prod.mk.inj same
  simp only [due] at done
  split at done
  next fresh => exact fresh.2
  next => cases done

theorem due_held {operation : Operation} {key : String}
    (adds : Event.added key (operation, ledger.due operation) ≠ [] ∨
      Event.sealed? (operation, ledger.due operation) = some key) :
    ∃ bytes, ledger.get? key = some ⟨bytes, .held⟩ := by
  rw [← isHeld_eq]
  cases operation with
  | act activity =>
      cases activity with
      | append other more =>
          simp only [due] at adds
          split at adds
          next isHeld =>
            by_cases same : other = key
            · exact same ▸ isHeld
            · simp [Event.added, Event.sealed?, same] at adds
          next => simp [Event.added, Event.sealed?] at adds
      | sealRecording other =>
          simp only [due] at adds
          split at adds
          next isHeld =>
            obtain rfl : other = key := by simpa [Event.added, Event.sealed?] using adds
            exact isHeld
          next => simp [Event.added, Event.sealed?] at adds
      | create | acquire | release => simp [Event.added, Event.sealed?] at adds
  | read | list | reopen | recover => simp [Event.added, Event.sealed?] at adds

theorem due_recovers {operation : Operation}
    (recovers : Event.recovers (operation, ledger.due operation)) : operation = .recover := by
  cases operation <;> simp_all [Event.recovers]

theorem Idle.note (idle : ledger.Idle) {event : Event} (begins : event.created? = none) :
    (ledger.note event).Idle := by
  intro key
  have notHeld := idle key
  simp only [isHeld, get?_note, begins] at notHeld ⊢
  cases found : ledger.get? key with
  | none => simp
  | some entry => simp_all [Entry.after_held]

theorem idle_reopen (ledger : Ledger) (path : String) (answer : Answer) :
    (ledger.note (.reopen path, answer)).Idle := by
  intro key
  simp only [isHeld, get?_note, Event.created?]
  cases ledger.get? key with
  | none => simp
  | some entry => simp [Entry.after_held, Event.reopens]

end Ledger

/-- If the ledger accounts for a history, it does so when the answer that is due is given. -/
theorem Ledger.accounts_note {ledger : Ledger} {history : List Event} {operation : Operation}
    (idle : operation = .recover → ledger.Idle) {key : String}
    (accounts : Accounts key (ledger.get? key) history) :
    Accounts key ((ledger.note (operation, ledger.due operation)).get? key)
      (history ++ [(operation, ledger.due operation)]) := by
  rw [get?_note]
  split
  next begins =>
    rw [due_fresh begins] at accounts
    exact accounts.begin begins
  next goesOn =>
    refine accounts.after goesOn due_held fun recovers bytes isHeld => ?_
    have notHeld := idle (due_recovers recovers) key
    simp [Ledger.isHeld, isHeld] at notHeld

/-- A run so far. -/
structure Upholds (unused : Bool) (run : Run) : Prop where
  describes : Describes (Ledger.of run.history) run.files
  accounts : ∀ {before after}, run.history = before ++ after →
    ∀ key, Accounts key ((Ledger.of before).get? key) before
  answered : ∀ {before operation answer after},
    run.history = before ++ (operation, answer) :: after →
      answer = (Ledger.of before).due operation
  idle : unused = true → (Ledger.of run.history).Idle

theorem Upholds.step {unused : Bool} {run : Run} (upholds : Upholds unused run)
    (operation : Operation) (mayRecover : operation = .recover → unused = true) :
    Upholds (operation.staysUnused unused) (run.step operation) := by
  obtain ⟨describes, accounts, answered, idle⟩ := upholds
  obtain ⟨due, describes⟩ := describes.step operation fun recover => idle (mayRecover recover)
  have stepped : run.step operation = ⟨(operation.perform run.files).2,
      run.history ++ [(operation, (Ledger.of run.history).due operation)]⟩ := by
    rw [← due]
    rfl
  rw [stepped]
  constructor
  case describes => rwa [Ledger.of_append]
  case accounts =>
    intro before after split key
    obtain rfl | ⟨after, last, rfl⟩ := List.eq_nil_or_concat after
    · rw [List.append_nil] at split
      subst split
      rw [Ledger.of_append]
      exact Ledger.accounts_note (fun recover => idle (mayRecover recover))
        (accounts (List.append_nil _).symm key)
    · rw [List.concat_eq_append, ← List.append_assoc] at split
      exact accounts (List.append_inj' split rfl).1 key
  case answered =>
    intro before other answer after split
    -- The event is the last one, or it was there before the step.
    obtain rfl | ⟨after, last, rfl⟩ := List.eq_nil_or_concat after
    · obtain ⟨rfl, same⟩ := List.append_inj' split rfl
      cases same
      rfl
    · rw [List.concat_eq_append, ← List.cons_append, ← List.append_assoc] at split
      exact answered (List.append_inj' split rfl).1
  case idle =>
    intro unused
    rw [Ledger.of_append]
    cases operation with
    | reopen path => exact Ledger.idle_reopen _ path _
    | act activity =>
      cases activity with
      | create => cases unused
      | append | sealRecording | acquire | release => exact (idle unused).note rfl
    | read | list | recover => exact (idle unused).note rfl

theorem Upholds.run {unused : Bool} {run : Run} (upholds : Upholds unused run)
    {operations : List Operation} (isTimely : timely unused operations) :
    ∃ unused, Upholds unused (operations.foldl Run.step run) := by
  induction operations generalizing unused run with
  | nil => exact ⟨unused, upholds⟩
  | cons operation rest ih =>
      cases operation with
      | recover =>
          obtain ⟨isUnused, isTimely⟩ := Bool.and_eq_true_iff.mp isTimely
          exact ih (upholds.step .recover fun _ => isUnused) isTimely
      | act | read | list | reopen => exact ih (upholds.step _ (by simp)) isTimely

theorem upholds_start (path : String) : Upholds true ⟨open_ path .empty, []⟩ where
  describes := by
    refine ⟨tidy_empty path, rfl, fun key => ⟨?_, ⟨rfl, rfl⟩, ?_⟩⟩
    · simp [Ledger.of]
    · simp [Ledger.of, open_]
  accounts split key := by
    obtain ⟨rfl, -⟩ := List.append_eq_nil_iff.mp split.symm
    exact ⟨rfl, rfl, rfl, rfl⟩
  answered := by simp
  idle _ key := rfl

/-- A store keeps its contract in every run on a directory that was empty. -/
theorem run_contract (path : String) (operations : List Operation)
    (isTimely : timely true operations) :
    Contract (run path operations).history (run path operations).files := by
  obtain ⟨unused, upholds⟩ := (upholds_start path).run isTimely
  constructor
  case answered => exact upholds.answered
  case accounts => exact upholds.accounts
  case kept => exact fun key => (upholds.describes.placed key).kept
  case read => exact upholds.describes.read
  case list => exact upholds.describes.list

/-- A recording is left open, and the next owner of the directory recovers it. -/
theorem run_contract_recovered :
    let operations : List Operation :=
      [.act (.create "session"), .act (.append "session" [104, 105]), .reopen "recordings",
        .act (.append "session" [33]), .recover, .read "session", .act (.create "session")]
    let after := run "recordings" operations
    timely true operations ∧ Contract after.history after.files := by
  intro operations after
  exact ⟨rfl, run_contract "recordings" operations rfl⟩

end TerminalAgent.FileStore
