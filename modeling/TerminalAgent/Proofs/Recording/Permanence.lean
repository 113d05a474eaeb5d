import TerminalAgent.Proofs.Recording.Ledger

/-! # What is sealed stays

Here leftovers may be recovered at any time, also while the store that recovers them holds recordings.
Recovery then seals a recording that the store goes on to add to. What can be read of a recording is
only ever added to (`run_extends`), and it stays as it is exactly if the store did not hold the
recording any more when it was read (`run_read_stable_iff`).
-/

namespace TerminalAgent.FileStore

/-- Whether a store object holds a recording after an event. Recovery takes none from it. -/
def Event.holds (key : String) (before : Bool) : Event → Bool
  | (.act (.create other), .done) => before || other = key
  | (.act (.sealRecording other), _) => before && other ≠ key
  | (.reopen _, _) => false
  | _ => before

/-- Whether the present store object has begun a recording and was not asked to seal it. -/
def isHolding (key : String) (history : List Event) : Bool :=
  history.foldl (Event.holds key) false

/-- A recording has one file, and its handle, if there is one, is that of its file. -/
structure Steady (files : FileStore × Volume) : Prop where
  sound : files.2.Sound
  single : ∀ key, files.2.node? (openName key) = none ∨ files.2.node? (sealedName key) = none
  handles : ∀ {key id}, files.1.handles.get? key = some id →
    files.2.node? (openName key) = some (.file id) ∨ files.2.node? (sealedName key) = some (.file id)

/-- What an event does to a recording that can be read, and to its handle. -/
structure Extends (key : String) (files : FileStore × Volume) (event : Event)
    (files' : FileStore × Volume) : Prop where
  steady : Steady files'
  file : ∀ {bytes}, files.2.file? (sealedName key) = some bytes →
    files'.2.file? (sealedName key) = some (bytes ++ event.added key)
  handle : (files'.1.handles.get? key).isSome = event.holds key (files.1.handles.get? key).isSome

section
variable {key : String} {files files' : FileStore × Volume} {event : Event}

theorem Extends.quiet (steady : Steady files') (adds : event.added key = [])
    (file : ∀ {bytes}, files.2.file? (sealedName key) = some bytes →
      files'.2.file? (sealedName key) = some bytes)
    (handle : (files'.1.handles.get? key).isSome =
      event.holds key (files.1.handles.get? key).isSome) : Extends key files event files' where
  steady := steady
  file sealed := by rw [file sealed, adds, List.append_nil]
  handle := handle

theorem Extends.same (steady : Steady files) (adds : event.added key = [])
    (holds : ∀ before, event.holds key before = before) : Extends key files event files :=
  .quiet steady adds id (holds _).symm

end

/-! ## Files and handles -/

namespace Steady

variable {store store' : FileStore} {volume volume' : Volume} {key : String}

theorem of_frame (steady : Steady (store, volume)) {phase : DirectoryLock.Phase}
    (frame : DirectoryLock.Frame volume phase volume') : Steady (store, volume') where
  sound := frame.sound
  single key := by
    rw [frame.node _ (openName_ne_fileName key), frame.node _ (sealedName_ne_fileName key)]
    exact steady.single key
  handles {key id} found := by
    rw [frame.node _ (openName_ne_fileName key), frame.node _ (sealedName_ne_fileName key)]
    exact steady.handles found

theorem created (steady : Steady (store, volume)) {id : Nat}
    (notSealed : volume.node? (sealedName key) = none)
    (made : volume.createNew (openName key) = .ok (volume', id)) :
    Steady ({ store with handles := store.handles.insert key id }, volume') := by
  have openNodes := openNode_createNew made
  have sealedNodes := sealedNode_createNew made
  constructor
  case sound => exact steady.sound.createNew made
  case single =>
    intro other
    rw [openNodes, sealedNodes]
    split
    next same => exact .inr (same ▸ notSealed)
    next => exact steady.single other
  case handles =>
    intro other handle found
    rw [SortedMap.get?_insert] at found
    rw [openNodes, sealedNodes]
    split at found
    next same =>
      cases found
      exact .inl (if_pos same)
    next differs =>
      rw [if_neg differs]
      exact steady.handles found

/-- A recording with an open file is not sealed. -/
theorem not_sealed (steady : Steady (store, volume)) {node : Node}
    (isOpen : volume.node? (openName key) = some node) : volume.node? (sealedName key) = none := by
  obtain free | free := steady.single key
  · rw [isOpen] at free
    cases free
  · exact free

/-- A recording is sealed, with or without its handle. -/
theorem renamed (steady : Steady (store, volume))
    (renamed : volume.rename (openName key) (sealedName key) = .ok volume')
    (handles : ∀ {key id}, store'.handles.get? key = some id → store.handles.get? key = some id) :
    Steady (store', volume') := by
  have openNodes := openNode_rename renamed
  have sealedNodes := sealedNode_rename renamed
  obtain ⟨node, wasOpen, -⟩ := Volume.rename_ok renamed
  constructor
  case sound => exact steady.sound.rename renamed
  case single =>
    intro other
    rw [openNodes, sealedNodes]
    split
    next => exact .inl rfl
    next => exact steady.single other
  case handles =>
    intro other id found
    rw [openNodes, sealedNodes]
    by_cases same : other = key
    · -- The handle goes along with its file.
      subst same
      obtain isOpen | isSealed := steady.handles (handles found)
      · exact .inr ((if_pos rfl).trans isOpen)
      · rw [steady.not_sealed wasOpen] at isSealed
        cases isSealed
    · rw [if_neg same, if_neg same]
      exact steady.handles (handles found)

/-- What is sealed stays as it is when recordings are sealed. -/
theorem file?_renamed (steady : Steady (store, volume)) {other : String} {bytes : Bytes}
    (renamed : volume.rename (openName other) (sealedName other) = .ok volume')
    (sealed : volume.file? (sealedName key) = some bytes) :
    volume'.file? (sealedName key) = some bytes := by
  obtain ⟨node, wasOpen, -⟩ := Volume.rename_ok renamed
  have differs : key ≠ other := by
    rintro rfl
    rw [Volume.file?_eq_none (steady.not_sealed wasOpen)] at sealed
    cases sealed
  rw [sealedFile_rename renamed, if_neg differs, sealed]

theorem file?_appended (steady : Steady (store, volume)) {other : String} {id : Nat}
    (handle : store.handles.get? other = some id) (more : Bytes) {bytes : Bytes}
    (sealed : volume.file? (sealedName key) = some bytes) :
    (volume.append id more).file? (sealedName key) =
      some (bytes ++ if other = key then more else []) := by
  by_cases same : other = key
  · subst same
    obtain isOpen | isSealed := steady.handles handle
    · rw [Volume.file?_eq_none (steady.not_sealed isOpen)] at sealed
      cases sealed
    · rw [Volume.file?_of_node? isSealed, Option.some.injEq] at sealed
      rw [steady.sound.file?_append isSealed, if_pos rfl, if_pos rfl, sealed]
  · rw [if_neg same, List.append_nil]
    obtain isOpen | isSealed := steady.handles handle
    · rw [sealedFile_append steady.sound isOpen, sealed]
    · rw [steady.sound.file?_append isSealed, if_neg (mt sealedName_inj.mp (Ne.symm same)), sealed]

/-! ## Operations -/

section
variable (steady : Steady (store, volume)) {other : String} {outcome : Except StoreError Unit}
include steady

theorem create (done : store.create other volume = (outcome, store', volume')) :
    Extends key (store, volume) (.act (.create other), .of (fun _ => .done) outcome)
      (store', volume') := by
  cases outcome with
  | ok =>
      obtain ⟨-, notSealed, id, made, rfl⟩ := create_ok done
      refine .quiet (steady.created notSealed made) rfl ?_ ?_
      · intro bytes sealed
        rw [sealedFile_createNew made key steady.sound, sealed]
      · by_cases same : key = other
        · simp [Event.holds, Answer.of, same]
        · simp [Event.holds, Answer.of, same, Ne.symm same]
  | error =>
      obtain ⟨rfl, rfl⟩ := create_error done
      exact .same steady rfl fun _ => rfl

theorem append {more : Bytes} (done : store.append other more volume = (outcome, store', volume')) :
    Extends key (store, volume) (.act (.append other more), .of (fun _ => .done) outcome)
      (store', volume') := by
  cases outcome with
  | ok =>
      obtain ⟨id, handle, rfl, rfl⟩ := append_ok done
      have after : Steady (store', volume.append id more) :=
        ⟨steady.sound.append id more, steady.single, steady.handles⟩
      exact ⟨after, steady.file?_appended handle more, rfl⟩
  | error =>
      obtain ⟨rfl, rfl⟩ := append_error done
      exact .same steady rfl fun _ => rfl

omit steady in
/-- A handle is gone once its recording was to be sealed, whatever came of it. -/
theorem get?_sealRecording (done : store.sealRecording other volume = (outcome, store', volume'))
    (key : String) :
    store'.handles.get? key = if key = other then none else store.handles.get? key := by
  unfold FileStore.sealRecording at done
  split at done
  next unheld =>
    cases done
    split
    next same => rw [same, unheld]
    next => rfl
  next => split at done <;> cases done <;> exact SortedMap.get?_erase ..

theorem sealRecording (done : store.sealRecording other volume = (outcome, store', volume')) :
    Extends key (store, volume) (.act (.sealRecording other), .of (fun _ => .done) outcome)
      (store', volume') := by
  have handles := get?_sealRecording done
  have kept : ∀ {key id}, store'.handles.get? key = some id → store.handles.get? key = some id := by
    intro key id found
    rw [handles] at found
    split at found
    next => cases found
    next => exact found
  have holds : (store'.handles.get? key).isSome =
      ((store.handles.get? key).isSome && other ≠ key) := by
    rw [handles]
    by_cases same : key = other
    · simp [same]
    · simp [same, Ne.symm same]
  cases outcome with
  | ok =>
      obtain ⟨-, -, renamed⟩ := sealRecording_ok done
      exact .quiet (steady.renamed renamed kept) rfl (steady.file?_renamed renamed) holds
  | error =>
      obtain ⟨-, rfl⟩ := sealRecording_error done
      have after : Steady (store', volume') :=
        ⟨steady.sound, steady.single, fun found => steady.handles (kept found)⟩
      exact .quiet after rfl id holds

/-- Recovery changes names, and the store object keeps its handles. -/
theorem recoverKeys {keys : List String} {n : Nat} {outcome : Except StoreError Nat}
    (done : store.recoverKeys keys n volume = (outcome, store', volume')) (key : String) :
    store' = store ∧ Steady (store, volume') ∧ ∀ {bytes},
      volume.file? (sealedName key) = some bytes → volume'.file? (sealedName key) = some bytes := by
  induction keys generalizing n volume with
  | nil =>
      cases done
      exact ⟨rfl, steady, id⟩
  | cons first rest ih =>
      unfold FileStore.recoverKeys at done
      split at done
      next between renamed =>
        obtain ⟨same, after, sealed⟩ := ih (steady.renamed renamed id) done
        exact ⟨same, after, fun before => sealed (steady.file?_renamed renamed before)⟩
      next =>
        cases done
        exact ⟨rfl, steady, id⟩

theorem recover {outcome : Except StoreError Nat}
    (done : store.recoverLeftovers volume = (outcome, store', volume')) :
    Extends key (store, volume) (.recover, .of .recovered outcome) (store', volume') := by
  unfold recoverLeftovers at done
  split at done
  next =>
    cases done
    exact .same steady rfl fun _ => rfl
  next =>
    obtain ⟨rfl, after, sealed⟩ := steady.recoverKeys done key
    exact .quiet after rfl sealed rfl

theorem own {activity : Activity} {phase : DirectoryLock.Phase} {answer : Answer}
    (silent : activity.key? = none) (frame : DirectoryLock.Frame volume phase volume') :
    Extends key (store, volume) (.act activity, answer) (store, volume') := by
  cases activity with
  | create | append | sealRecording => cases silent
  | acquire | release =>
      refine .quiet (steady.of_frame frame) rfl ?_ rfl
      intro bytes sealed
      rw [frame.file _ (sealedName_ne_fileName key), sealed]

end

/-- Every operation extends a recording or leaves it as it is. -/
theorem perform {files : FileStore × Volume} (steady : Steady files) (operation : Operation)
    (key : String) :
    Extends key files (operation, (operation.perform files).1) (operation.perform files).2 := by
  obtain ⟨store, volume⟩ := files
  cases operation with
  | act activity =>
      cases activity with
      | create other => exact steady.create rfl
      | append other more => exact steady.append rfl
      | sealRecording other => exact steady.sealRecording rfl
      | acquire self =>
          obtain ⟨phase, frame⟩ := DirectoryLock.acquire_frame self steady.sound
          exact steady.own rfl frame
      | release self =>
          obtain ⟨phase, frame⟩ := DirectoryLock.release_frame self steady.sound
          exact steady.own rfl frame
  | read other => exact .same steady rfl fun _ => rfl
  | list => exact .same steady rfl fun _ => rfl
  | reopen path =>
      have after : Steady (open_ path volume) := by
        refine ⟨⟨steady.sound.inRange, steady.sound.apart⟩, steady.single, ?_⟩
        intro key id found
        cases found
      exact .quiet after rfl id rfl
  | recover => exact steady.recover rfl

end Steady

/-! ## Runs -/

/-- The handles of a run so far are those of the recordings that it says it holds. -/
structure Tracked (run : Run) : Prop where
  steady : Steady run.files
  handle : ∀ key, (run.files.1.handles.get? key).isSome = isHolding key run.history

namespace Tracked

theorem start (path : String) : Tracked ⟨open_ path .empty, []⟩ where
  steady := by
    refine ⟨⟨?_, ?_⟩, fun key => .inl rfl, ?_⟩
    · intro name id found
      cases found
    · intro a b id found
      cases found
    · intro key id found
      cases found
  handle key := rfl

theorem step {run : Run} (tracked : Tracked run) (operation : Operation) :
    Tracked (run.step operation) where
  steady := (tracked.steady.perform operation "").steady
  handle key := by
    simp only [Run.step, isHolding, List.foldl_append, List.foldl_cons, List.foldl_nil]
    rw [(tracked.steady.perform operation key).handle, tracked.handle, isHolding]

theorem run {run : Run} (tracked : Tracked run) (operations : List Operation) :
    Tracked (operations.foldl Run.step run) := by
  induction operations generalizing run with
  | nil => exact tracked
  | cons operation rest ih => exact ih (tracked.step operation)

/-- What is added to the recording is all that changes. -/
theorem extended {run : Run} {key : String} {bytes : Bytes} (tracked : Tracked run)
    (sealed : run.files.2.file? (sealedName key) = some bytes) (operations : List Operation) :
    ∃ events, (operations.foldl Run.step run).history = run.history ++ events ∧
      (operations.foldl Run.step run).files.2.file? (sealedName key) =
        some (bytes ++ appendedTo key events) := by
  induction operations generalizing run bytes with
  | nil => exact ⟨[], by simp [appendedTo, sealed]⟩
  | cons operation rest ih =>
      have first := (tracked.steady.perform operation key).file sealed
      obtain ⟨events, history, after⟩ := ih (tracked.step operation) first
      refine ⟨(operation, (operation.perform run.files).1) :: events, ?_, ?_⟩
      · rw [List.foldl_cons, history]
        simp [Run.step]
      · rw [List.foldl_cons, after]
        simp [appendedTo]

end Tracked

/-! ## Recordings that are not held -/

section
variable {files : FileStore × Volume} {key : String}

/-- Nothing is added to a recording without a handle. -/
theorem added_unheld (unheld : files.1.handles.get? key = none) (operation : Operation) :
    Event.added key (operation, (operation.perform files).1) = [] := by
  cases operation with
  | read | list | reopen | recover => rfl
  | act activity =>
      cases activity with
      | create | sealRecording | acquire | release => rfl
      | append other more =>
          cases done : files.1.append other more files.2 with
          | mk outcome after =>
              simp only [Operation.perform, Activity.perform, done]
              cases outcome with
              | error => rfl
              | ok =>
                  obtain ⟨id, handle, -, -⟩ := append_ok done
                  have differs : other ≠ key := by
                    rintro rfl
                    rw [unheld] at handle
                    cases handle
                  exact if_neg differs

/-- A recording that can be read is not begun again. -/
theorem holds_sealed {bytes : Bytes} (sealed : files.2.file? (sealedName key) = some bytes)
    (operation : Operation) :
    Event.holds key false (operation, (operation.perform files).1) = false := by
  cases operation with
  | read | list | reopen | recover => rfl
  | act activity =>
      cases activity with
      | append | sealRecording | acquire | release => rfl
      | create other =>
          cases done : files.1.create other files.2 with
          | mk outcome after =>
              simp only [Operation.perform, Activity.perform, done]
              cases outcome with
              | error => rfl
              | ok =>
                  obtain ⟨-, notSealed, -⟩ := create_ok done
                  have differs : other ≠ key := by
                    rintro rfl
                    rw [Volume.file?_eq_none notSealed] at sealed
                    cases sealed
                  exact decide_eq_false differs

end

theorem Tracked.unchanged {run : Run} {key : String} {bytes : Bytes} (tracked : Tracked run)
    (unheld : run.files.1.handles.get? key = none)
    (sealed : run.files.2.file? (sealedName key) = some bytes) (operations : List Operation) :
    (operations.foldl Run.step run).files.2.file? (sealedName key) = some bytes := by
  induction operations generalizing run with
  | nil => exact sealed
  | cons operation rest ih =>
      obtain ⟨-, file, handle⟩ := tracked.steady.perform operation key
      have file := file sealed
      rw [added_unheld unheld, List.append_nil] at file
      rw [unheld, Option.isSome_none, holds_sealed sealed, Option.isSome_eq_false_iff,
        Option.isNone_iff_eq_none] at handle
      exact ih (tracked.step operation) handle file

/-! ## Readers -/

theorem run_append (path : String) (before after : List Operation) :
    run path (before ++ after) = after.foldl Run.step (run path before) :=
  List.foldl_append

section
variable {path : String} {before : List Operation} {key : String} {bytes : Bytes}
  {reader : FileStore}

/-- What was read of a recording is read again, and then what was added to it. -/
theorem run_extends (read : reader.read key (run path before).files.2 = .ok bytes)
    (after : List Operation) :
    ∃ events, (run path (before ++ after)).history = (run path before).history ++ events ∧
      ∀ later : FileStore, later.read key (run path (before ++ after)).files.2 =
        .ok (bytes ++ appendedTo key events) := by
  obtain ⟨valid, sealed⟩ := read_eq_ok.mp read
  obtain ⟨events, history, extended⟩ := ((Tracked.start path).run before).extended sealed after
  rw [run_append]
  exact ⟨events, history, fun later => read_eq_ok.mpr ⟨valid, extended⟩⟩

/-- What was read of a recording is read ever after, exactly if the store object of that time did not
    hold the recording. -/
theorem run_read_stable_iff (read : reader.read key (run path before).files.2 = .ok bytes) :
    (∀ (after : List Operation) (later : FileStore),
      later.read key (run path (before ++ after)).files.2 = .ok bytes) ↔
      isHolding key (run path before).history = false := by
  obtain ⟨valid, sealed⟩ := read_eq_ok.mp read
  have tracked : Tracked (run path before) := (Tracked.start path).run before
  rw [← tracked.handle key, Option.isSome_eq_false_iff, Option.isNone_iff_eq_none]
  constructor
  · intro stable
    cases handle : (run path before).files.1.handles.get? key with
    | none => rfl
    | some id =>
        -- One more byte through the handle is read behind the others.
        have appended : (run path (before ++ [.act (.append key [0])])).files.2 =
            (run path before).files.2.append id [0] := by
          rw [run_append]
          simp only [List.foldl_cons, List.foldl_nil, Run.step, Operation.perform,
            Activity.perform, FileStore.append_of_handle handle]
        obtain ⟨-, same⟩ := read_eq_ok.mp (stable [.act (.append key [0])] reader)
        rw [appended, tracked.steady.file?_appended handle [0] sealed, if_pos rfl] at same
        simp at same
  · intro unheld after later
    rw [run_append]
    exact read_eq_ok.mpr ⟨valid, tracked.unchanged unheld sealed after⟩

end

/-- A recording that an earlier store object has left open is recovered and stays as it is. -/
theorem run_read_stable_iff_orphaned :
    let operations : List Operation :=
      [.act (.create "k"), .act (.append "k" [97]), .reopen "recordings", .recover]
    let recovered := run "recordings" operations
    recovered.files.1.read "k" recovered.files.2 = .ok [97] ∧
      ((∀ (after : List Operation) (later : FileStore),
        later.read "k" (run "recordings" (operations ++ after)).files.2 = .ok [97]) ↔
        isHolding "k" recovered.history = false) := by
  intro operations recovered
  have created : (open_ "recordings" .empty).1.create "k" (open_ "recordings" .empty).2 = _ :=
    create_fresh (by decide) rfl rfl rfl
  have read : recovered.files.1.read "k" recovered.files.2 = .ok [97] := by
    simp only [recovered, operations, run, List.foldl_cons, List.foldl_nil, Run.step,
      Operation.perform, Activity.perform, created]
    decide +kernel
  exact ⟨read, run_read_stable_iff read⟩

/-- The owner of a directory recovers a recording that it holds, and what it adds then is read, too. -/
theorem recovered_read_changes :
    let self : DirectoryLock.Contender := ⟨41, "recordings/agent.pid", fun pid => pid = 41⟩
    let operations : List Operation :=
      [.act (.acquire self), .act (.create "k"), .act (.append "k" [97]), .recover]
    let recovered := run "recordings" operations
    let later := run "recordings" (operations ++ [.act (.append "k" [98])])
    (Activity.perform (.acquire self) (open_ "recordings" .empty)).1 = .ok () ∧
      recovered.files.1.read "k" recovered.files.2 = .ok [97] ∧
      later.files.1.read "k" later.files.2 = .ok [97, 98] := by
  intro self operations recovered later
  have created : (open_ "recordings" .empty).1.create "k"
      (DirectoryLock.acquire self (open_ "recordings" .empty).2).2 = _ :=
    create_fresh (by decide) (by decide +kernel) (by decide +kernel) (by decide +kernel)
  simp only [recovered, later, operations, run, List.cons_append, List.nil_append, List.foldl_cons,
    List.foldl_nil, Run.step, Operation.perform, Activity.perform, created]
  decide +kernel

end TerminalAgent.FileStore
