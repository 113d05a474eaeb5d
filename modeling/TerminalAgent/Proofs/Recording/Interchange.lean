import TerminalAgent.Proofs.Recording.Contract

/-! # Stores in place of each other

A store on an empty directory and an empty store in memory are asked the same things in the same
order. Both keep one ledger, so each does what the other does and replies the same (`run_agree`).
They also refuse valid keys for the same reasons, but for a key that is open: in memory it counts as
sealed, and in the directory its file is in the way.
-/

namespace TerminalAgent

open FileStore (openName sealedName Ledger Entry Operation Answer Describes)

/-! ## Requests -/

namespace RecordingStore

/-- What a store is asked, by recorders or by readers. -/
inductive Request where
  | create (key : String)
  | append (key : String) (bytes : Bytes)
  | sealRecording (key : String)
  | read (key : String)
  | list

inductive Reply where
  | done
  | bytes (bytes : Bytes)
  | infos (infos : List RecordingInfo)

def Request.key? : Request → Option String
  | create key => some key
  | append key _ => some key
  | sealRecording key => some key
  | read key => some key
  | list => none

section
variable {σ : Type}

/-- Asks a store of which one side is `store` and the other is `archive`. -/
def Request.ask (store : RecordingStore σ) (archive : σ → Archive) :
    Request → σ → Except StoreError Reply × σ
  | create key, s =>
      let (outcome, s) := store.create key s
      (outcome.map fun _ => .done, s)
  | append key bytes, s =>
      let (outcome, s) := store.append key bytes s
      (outcome.map fun _ => .done, s)
  | sealRecording key, s =>
      let (outcome, s) := store.sealRecording key s
      (outcome.map fun _ => .done, s)
  | read key, s => (((archive s).read key).map .bytes, s)
  | list, s => ((archive s).list.map .infos, s)

/-- The store after all that it was asked. -/
def askAll (ask : Request → σ → Except StoreError Reply × σ) (requests : List Request) (s : σ) : σ :=
  requests.foldl (fun s request => (ask request s).2) s

end

/-- The operation of the contract that is asked for. -/
def Request.operation : Request → Operation
  | create key => .act (.create key)
  | append key bytes => .act (.append key bytes)
  | sealRecording key => .act (.sealRecording key)
  | read key => .read key
  | list => .list

namespace Reply

/-- The reply as a contract has it. -/
def answer : Reply → Answer
  | .done => .done
  | .bytes all => .bytes all
  | .infos all => .infos all

theorem answer_inj {a b : Reply} (same : a.answer = b.answer) : a = b := by
  cases a <;> cases b <;> cases same <;> rfl

theorem answer_ne_refused (reply : Reply) : reply.answer ≠ .refused := by
  cases reply <;> exact Answer.noConfusion

/-- Outcomes with one answer succeed with the same reply. -/
theorem ok_iff {onDisk inMemory : Except StoreError Reply}
    (same : Answer.of answer onDisk = Answer.of answer inMemory) (reply : Reply) :
    onDisk = .ok reply ↔ inMemory = .ok reply := by
  cases onDisk with
  | error =>
      cases inMemory with
      | error => simp
      | ok other => exact absurd same.symm other.answer_ne_refused
  | ok other =>
      cases inMemory with
      | error => exact absurd same other.answer_ne_refused
      | ok another => rw [answer_inj same]

end Reply

end RecordingStore

open RecordingStore (Request Reply askAll)

def FileStore.ask (request : Request) (files : FileStore × Volume) :
    Except StoreError Reply × FileStore × Volume :=
  request.ask FileStore.recording (fun files => files.1.archive files.2) files

def MemoryStore.ask (request : Request) (store : MemoryStore) :
    Except StoreError Reply × MemoryStore :=
  request.ask MemoryStore.recording MemoryStore.archive store

theorem FileStore.Answer.of_map {α β : Type} (success : β → Answer) (f : α → β)
    (outcome : Except StoreError α) :
    Answer.of success (outcome.map f) = Answer.of (fun a => success (f a)) outcome := by
  cases outcome <;> rfl

theorem FileStore.perform_operation (request : Request) (files : FileStore × Volume) :
    request.operation.perform files =
      (Answer.of Reply.answer (FileStore.ask request files).1, (FileStore.ask request files).2) := by
  have done (outcome : Except StoreError Unit) := Answer.of_map Reply.answer (fun _ => .done) outcome
  cases request with
  | create | append | sealRecording => exact Prod.ext (done _).symm rfl
  | read => exact Prod.ext (Answer.of_map Reply.answer .bytes _).symm rfl
  | list => exact Prod.ext (Answer.of_map Reply.answer .infos _).symm rfl

/-! ## The store in memory -/

namespace MemoryStore

/-- Why a recording cannot be added to or sealed. -/
def notOpen (store : MemoryStore) (key : String) : StoreError :=
  if store.isSealed key then .sealed key else .notFound key

section
variable {store : MemoryStore} {key : String}

theorem create_fresh (valid : RecordingKey.isValid key) (free : store.recordings.get? key = none) :
    store.create key = .ok ⟨store.recordings.insert key ⟨[], false⟩⟩ := by
  simp only [create, valid, free]
  rfl

theorem create_taken (valid : RecordingKey.isValid key) {recording : Recording}
    (taken : store.recordings.get? key = some recording) :
    store.create key = .error (.sealed key) := by
  simp only [create, valid, taken]
  rfl

theorem openRecording_error (notHeld : ∀ bytes, store.recordings.get? key ≠ some ⟨bytes, false⟩) :
    store.openRecording key = .error (store.notOpen key) := by
  unfold openRecording notOpen isSealed
  cases found : store.recordings.get? key with
  | none => rfl
  | some recording =>
      obtain ⟨bytes, isSealed⟩ := recording
      cases isSealed with
      | false => exact absurd found (notHeld bytes)
      | true => rfl

end

/-- The store has the recordings of a ledger, and all that are open are its own. -/
structure Mirrors (store : MemoryStore) (ledger : Ledger) : Prop where
  recordings : ∀ key, store.recordings.get? key =
    (ledger.get? key).map fun entry => ⟨entry.bytes, entry.stage = .sealed⟩
  own : ∀ {key entry}, ledger.get? key = some entry → entry.stage ≠ .orphaned

/-- The reply is due, and the store has what the ledger has after it. -/
structure Honours (store : MemoryStore) (ledger : Ledger) (request : Request) : Prop where
  due : Answer.of Reply.answer (ask request store).1 = ledger.due request.operation
  mirrors : Mirrors (ask request store).2
    (ledger.note (request.operation, ledger.due request.operation))

section
variable {store : MemoryStore} {ledger ledger' : Ledger} {request : Request}
  {activity : FileStore.Activity} {key : String}

theorem Mirrors.congr (mirrors : Mirrors store ledger)
    (same : ∀ key, ledger'.get? key = ledger.get? key) : Mirrors store ledger' where
  recordings key := by rw [same, mirrors.recordings]
  own {key entry} found := mirrors.own ((same key).symm.trans found)

theorem Honours.of_refused (mirrors : Mirrors store ledger) {error : StoreError}
    (about : request.operation = .act activity) (due : ledger.due (.act activity) = .refused)
    (asked : ask request store = (.error error, store)) : Honours store ledger request := by
  constructor
  case due =>
    rw [asked, about, due]
    rfl
  case mirrors =>
    rw [asked, about, due]
    exact mirrors.congr fun key =>
      Ledger.get?_note_of_spares (FileStore.Event.spares_of_refused activity key)

theorem Honours.of_done (mirrors : Mirrors store ledger) {entry : Entry}
    (about : request.operation = .act activity) (key? : activity.key? = some key)
    (due : ledger.due (.act activity) = .done)
    (noted : (ledger.note (.act activity, .done)).get? key = some entry)
    (own : entry.stage ≠ .orphaned)
    (asked : ask request store =
      (.ok .done, ⟨store.recordings.insert key ⟨entry.bytes, entry.stage = .sealed⟩⟩)) :
    Honours store ledger request := by
  have apart (other : String) (differs : other ≠ key) :
      (ledger.note (.act activity, .done)).get? other = ledger.get? other := by
    refine Ledger.get?_note_of_spares (FileStore.Event.spares_of_apart ?_ _)
    rw [key?]
    exact fun same => differs (Option.some.inj same).symm
  constructor
  case due =>
    rw [asked, about, due]
    rfl
  case mirrors =>
    rw [asked, about, due]
    constructor
    case recordings =>
      intro other
      rw [SortedMap.get?_insert]
      split
      next same => rw [same, noted, Option.map_some]
      next differs => rw [apart other differs, mirrors.recordings]
    case own =>
      intro other entry' found
      by_cases same : other = key
      · rw [same, noted, Option.some.injEq] at found
        exact found ▸ own
      · exact mirrors.own ((apart other same).symm.trans found)

namespace Mirrors

theorem recording_of_held (mirrors : Mirrors store ledger) {bytes : Bytes}
    (entry : ledger.get? key = some ⟨bytes, .held⟩) :
    store.recordings.get? key = some ⟨bytes, false⟩ := by
  rw [mirrors.recordings, entry]
  rfl

theorem openRecording_error (mirrors : Mirrors store ledger) (notHeld : ¬ ledger.isHeld key) :
    store.openRecording key = .error (store.notOpen key) := by
  refine MemoryStore.openRecording_error fun bytes found => ?_
  rw [mirrors.recordings, Option.map_eq_some_iff] at found
  obtain ⟨⟨_, stage⟩, entry, same⟩ := found
  cases stage with
  | held => exact notHeld (Ledger.isHeld_eq.mpr ⟨_, entry⟩)
  | orphaned => exact mirrors.own entry rfl
  | sealed => cases same

theorem create (mirrors : Mirrors store ledger) (key : String) :
    Honours store ledger (.create key) := by
  by_cases fresh : RecordingKey.isValid key ∧ ledger.get? key = none
  · obtain ⟨valid, absent⟩ := fresh
    have free : store.recordings.get? key = none := by
      rw [mirrors.recordings, absent, Option.map_none]
    refine .of_done mirrors rfl rfl (if_pos ⟨valid, absent⟩) Ledger.get?_note_created (by simp) ?_
    simp only [ask, Request.ask, recording, create_fresh valid free]
    rfl
  · have refused : ∃ error, store.create key = .error error := by
      cases valid : RecordingKey.isValid key with
      | false => exact ⟨.invalidKey key, by simp only [MemoryStore.create, valid]; rfl⟩
      | true =>
          cases found : ledger.get? key with
          | none => exact absurd ⟨valid, found⟩ fresh
          | some entry =>
              have taken := mirrors.recordings key
              rw [found] at taken
              exact ⟨_, create_taken valid taken⟩
    obtain ⟨error, refused⟩ := refused
    have asked : ask (.create key) store = (.error error, store) := by
      simp only [ask, Request.ask, recording, refused]
      rfl
    exact .of_refused mirrors rfl (if_neg fresh) asked

theorem append (mirrors : Mirrors store ledger) (key : String) (more : Bytes) :
    Honours store ledger (.append key more) := by
  by_cases held : ledger.isHeld key
  · obtain ⟨bytes, entry⟩ := Ledger.isHeld_eq.mp held
    refine .of_done mirrors rfl rfl (if_pos held) (Ledger.get?_note_appended entry more) (by simp) ?_
    simp only [ask, Request.ask, recording, append_eq more (mirrors.recording_of_held entry)]
    rfl
  · have asked : ask (.append key more) store = (.error (store.notOpen key), store) := by
      simp only [ask, Request.ask, recording, MemoryStore.append, mirrors.openRecording_error held]
      rfl
    exact .of_refused mirrors rfl (if_neg held) asked

theorem sealRecording (mirrors : Mirrors store ledger) (key : String) :
    Honours store ledger (.sealRecording key) := by
  by_cases held : ledger.isHeld key
  · obtain ⟨bytes, entry⟩ := Ledger.isHeld_eq.mp held
    refine .of_done mirrors rfl rfl (if_pos held) (Ledger.get?_note_sealed entry) (by simp) ?_
    simp only [ask, Request.ask, recording, sealRecording_eq (mirrors.recording_of_held entry)]
    rfl
  · have asked : ask (.sealRecording key) store = (.error (store.notOpen key), store) := by
      simp only [ask, Request.ask, recording, MemoryStore.sealRecording,
        mirrors.openRecording_error held]
      rfl
    exact .of_refused mirrors rfl (if_neg held) asked

theorem read (mirrors : Mirrors store ledger) (key : String) :
    Honours store ledger (.read key) where
  due := by
    have recording := mirrors.recordings key
    simp only [ask, Request.ask, archive, MemoryStore.read, Request.operation, Ledger.due, recording]
    cases found : ledger.get? key with
    | none => rfl
    | some entry =>
        obtain ⟨bytes, stage⟩ := entry
        cases stage <;> rfl
  mirrors := mirrors.congr fun other =>
    Ledger.get?_note_of_spares (FileStore.Event.spares_of_reader (.inr ⟨key, rfl⟩) _ other)

theorem list_eq (mirrors : Mirrors store ledger) : store.list = ledger.infos := by
  have recordings : store.recordings =
      ledger.mapEntries fun _ entry => ⟨entry.bytes, entry.stage = .sealed⟩ :=
    SortedMap.eq_of_get? fun key => by rw [mirrors.recordings, SortedMap.get?_mapEntries]
  simp only [MemoryStore.list, Ledger.infos, recordings, SortedMap.mapEntries, List.filterMap_map,
    Function.comp_def, decide_eq_true_eq]

theorem list (mirrors : Mirrors store ledger) : Honours store ledger .list where
  due := congrArg Answer.infos mirrors.list_eq
  mirrors := mirrors.congr fun other =>
    Ledger.get?_note_of_spares (FileStore.Event.spares_of_reader (.inl rfl) _ other)

theorem honours (mirrors : Mirrors store ledger) (request : Request) :
    Honours store ledger request := by
  cases request with
  | create key => exact mirrors.create key
  | append key more => exact mirrors.append key more
  | sealRecording key => exact mirrors.sealRecording key
  | read key => exact mirrors.read key
  | list => exact mirrors.list

end Mirrors

end

end MemoryStore

/-! ## Both stores -/

/-- Two stores that were asked the same. -/
structure Twins (files : FileStore × Volume) (store : MemoryStore) (ledger : Ledger) : Prop where
  describes : Describes ledger files
  mirrors : store.Mirrors ledger

/-- What a request gets from a store on a directory and from one in memory. -/
structure Agree (request : Request) (store : MemoryStore)
    (onDisk inMemory : Except StoreError Reply) : Prop where
  /-- One succeeds if the other does, and then with the same reply. -/
  succeed : ∀ reply, onDisk = .ok reply ↔ inMemory = .ok reply
  /-- Of valid keys the errors are the same, too, unless an open recording is to be begun. -/
  same : (∀ key ∈ request.key?, RecordingKey.isValid key) →
    (∀ key, request = .create key → store.contains key → store.isSealed key) → onDisk = inMemory
  /-- An open recording is to be begun. -/
  taken : ∀ key, request = .create key → store.contains key → ¬ store.isSealed key →
    (∃ path, onDisk = .error (.io path .alreadyExists)) ∧ inMemory = .error (.sealed key)

namespace Twins

variable {files : FileStore × Volume} {store : MemoryStore} {ledger : Ledger}

theorem step (twins : Twins files store ledger) (request : Request) :
    Answer.of Reply.answer (FileStore.ask request files).1 =
        Answer.of Reply.answer (MemoryStore.ask request store).1 ∧
      ∃ ledger, Twins (FileStore.ask request files).2 (MemoryStore.ask request store).2 ledger := by
  have noRecovery : request.operation = .recover → ledger.Idle := by
    intro recover
    cases request <;> cases recover
  obtain ⟨due, describes⟩ := twins.describes.step request.operation noRecovery
  obtain ⟨dueToo, mirrors⟩ := twins.mirrors.honours request
  rw [FileStore.perform_operation] at due describes
  exact ⟨due.trans dueToo.symm, _, describes, mirrors⟩

theorem run (twins : Twins files store ledger) (requests : List Request) :
    ∃ ledger, Twins (askAll FileStore.ask requests files) (askAll MemoryStore.ask requests store)
      ledger := by
  induction requests generalizing files store ledger with
  | nil => exact ⟨ledger, twins⟩
  | cons request rest ih =>
      obtain ⟨-, ledger, twins⟩ := twins.step request
      exact ih twins

theorem start (path : String) : Twins (FileStore.open_ path .empty) .empty ∅ where
  describes := (FileStore.upholds_start path).describes
  mirrors := ⟨fun key => rfl, fun found => by cases found⟩

/-- The error for a recording that is not open is the same. -/
theorem notOpen (twins : Twins files store ledger) {key : String} (valid : RecordingKey.isValid key) :
    FileStore.notOpen key files.2 = store.notOpen key := by
  obtain ⟨-, kept, -⟩ := twins.describes.placed key
  have recording := twins.mirrors.recordings key
  unfold FileStore.notOpen MemoryStore.notOpen MemoryStore.isSealed
  rw [FileStore.hasPath_sealedName valid twins.describes.present, recording]
  cases found : ledger.get? key with
  | none =>
      rw [found] at kept
      simp [kept.2]
  | some entry =>
      obtain ⟨bytes, stage⟩ := entry
      rw [found] at kept
      cases stage with
      | held | orphaned => simp [kept.2]
      | sealed =>
          obtain ⟨id, node, -⟩ := Volume.exists_node?_of_file? kept.2
          simp [node]

section
variable (twins : Twins files store ledger) {key : String} {error : StoreError}
include twins

/-- A recording is open in memory, or neither store has it open. -/
theorem writable (key : String) :
    (∃ recording, store.openRecording key = .ok recording) ∨
      files.1.handles.get? key = none ∧ store.openRecording key = .error (store.notOpen key) := by
  by_cases held : ledger.isHeld key
  · obtain ⟨bytes, entry⟩ := Ledger.isHeld_eq.mp held
    refine .inl ⟨⟨bytes, false⟩, ?_⟩
    simp only [MemoryStore.openRecording, twins.mirrors.recording_of_held entry]
    rfl
  · have handle := held
    rw [(twins.describes.placed key).isHeld, Bool.not_eq_true, Option.isSome_eq_false_iff,
      Option.isNone_iff_eq_none] at handle
    exact .inr ⟨handle, twins.mirrors.openRecording_error held⟩

theorem create_error (valid : RecordingKey.isValid key)
    (notOpen : store.contains key → store.isSealed key)
    (refused : (MemoryStore.ask (.create key) store).1 = .error error) :
    (FileStore.ask (.create key) files).1 = .error error := by
  cases taken : store.recordings.get? key with
  | none =>
      simp only [MemoryStore.ask, Request.ask, MemoryStore.recording,
        MemoryStore.create_fresh valid taken] at refused
      cases refused
  | some recording =>
      have isSealed := notOpen (by simp [MemoryStore.contains, taken])
      have free : files.2.hasPath (sealedName key) = true := by
        have same := twins.notOpen valid
        simp only [FileStore.notOpen, MemoryStore.notOpen, isSealed, if_true] at same
        split at same
        next free => exact free
        next => cases same
      simp only [MemoryStore.ask, Request.ask, MemoryStore.recording,
        MemoryStore.create_taken valid taken] at refused
      cases refused
      simp only [FileStore.ask, Request.ask, FileStore.recording, FileStore.create, valid, free]
      rfl

theorem append_error (valid : RecordingKey.isValid key) {more : Bytes}
    (refused : (MemoryStore.ask (.append key more) store).1 = .error error) :
    (FileStore.ask (.append key more) files).1 = .error error := by
  obtain ⟨recording, isOpen⟩ | ⟨handle, notOpen⟩ := twins.writable key
  · simp only [MemoryStore.ask, Request.ask, MemoryStore.recording, MemoryStore.append,
      isOpen] at refused
    cases refused
  · simp only [MemoryStore.ask, Request.ask, MemoryStore.recording, MemoryStore.append,
      notOpen] at refused
    cases refused
    simp only [FileStore.ask, Request.ask, FileStore.recording, FileStore.append_of_noHandle handle,
      twins.notOpen valid]
    rfl

theorem sealRecording_error (valid : RecordingKey.isValid key)
    (refused : (MemoryStore.ask (.sealRecording key) store).1 = .error error) :
    (FileStore.ask (.sealRecording key) files).1 = .error error := by
  obtain ⟨recording, isOpen⟩ | ⟨handle, notOpen⟩ := twins.writable key
  · simp only [MemoryStore.ask, Request.ask, MemoryStore.recording, MemoryStore.sealRecording,
      isOpen] at refused
    cases refused
  · simp only [MemoryStore.ask, Request.ask, MemoryStore.recording, MemoryStore.sealRecording,
      notOpen] at refused
    cases refused
    simp only [FileStore.ask, Request.ask, FileStore.recording, FileStore.sealRecording, handle,
      twins.notOpen valid]
    rfl

theorem read_error (valid : RecordingKey.isValid key)
    (refused : (MemoryStore.ask (.read key) store).1 = .error error) :
    (FileStore.ask (.read key) files).1 = .error error := by
  have recording := twins.mirrors.recordings key
  obtain ⟨-, kept, -⟩ := twins.describes.placed key
  have missing (notSealed : files.2.node? (sealedName key) = none) :
      (FileStore.ask (.read key) files).1 = .error (.notFound key) := by
    simp only [FileStore.ask, Request.ask, FileStore.archive, FileStore.read, valid, Volume.read,
      notSealed]
    rfl
  simp only [MemoryStore.ask, Request.ask, MemoryStore.archive, MemoryStore.read,
    recording] at refused
  cases found : ledger.get? key with
  | none =>
      rw [found] at refused kept
      cases refused
      exact missing kept.2
  | some entry =>
      obtain ⟨bytes, stage⟩ := entry
      rw [found] at refused kept
      cases stage with
      | held | orphaned =>
          cases refused
          exact missing kept.2
      | sealed => cases refused

/-- The file of an open recording is in the way. -/
theorem create_open (contains : store.contains key) (notSealed : ¬ store.isSealed key) :
    (∃ path, (FileStore.ask (.create key) files).1 = .error (.io path .alreadyExists)) ∧
      (MemoryStore.ask (.create key) store).1 = .error (.sealed key) := by
  have recording := twins.mirrors.recordings key
  obtain ⟨named, kept, -⟩ := twins.describes.placed key
  simp only [MemoryStore.contains, MemoryStore.isSealed] at contains notSealed
  cases found : ledger.get? key with
  | none => simp [recording, found] at contains
  | some entry =>
      obtain ⟨bytes, stage⟩ := entry
      rw [found] at named kept recording
      have valid : RecordingKey.isValid key = true := named rfl
      cases stage with
      | sealed => simp [recording] at notSealed
      | held | orphaned =>
          obtain ⟨id, node, -⟩ := Volume.exists_node?_of_file? kept.1
          have free : files.2.hasPath (sealedName key) = false := by
            rw [FileStore.hasPath_sealedName valid twins.describes.present, kept.2]
            rfl
          constructor
          · refine ⟨files.1.filePath (openName key), ?_⟩
            simp only [FileStore.ask, Request.ask, FileStore.recording, FileStore.create, valid,
              free, Volume.createNew, twins.describes.present, node]
            rfl
          · simp only [MemoryStore.ask, Request.ask, MemoryStore.recording,
              MemoryStore.create_taken valid recording]
            rfl

theorem agree (request : Request) :
    Agree request store (FileStore.ask request files).1 (MemoryStore.ask request store).1 where
  succeed := Reply.ok_iff (twins.step request).1
  same valid notOpen := by
    cases inMemory : (MemoryStore.ask request store).1 with
    | ok reply => exact (Reply.ok_iff (twins.step request).1 reply).mpr inMemory
    | error error =>
        cases request with
        | create key => exact twins.create_error (valid key rfl) (notOpen key rfl) inMemory
        | append key more => exact twins.append_error (valid key rfl) inMemory
        | sealRecording key => exact twins.sealRecording_error (valid key rfl) inMemory
        | read key => exact twins.read_error (valid key rfl) inMemory
        | list => cases inMemory
  taken key create contains notSealed := by
    subst create
    exact twins.create_open contains notSealed

end

end Twins

/-- Whatever a store on an empty directory and an empty store in memory were asked before, they agree
    on what they are asked next. -/
theorem run_agree (path : String) (requests : List Request) (request : Request) :
    let files := askAll FileStore.ask requests (FileStore.open_ path .empty)
    let store := askAll MemoryStore.ask requests .empty
    Agree request store (FileStore.ask request files).1 (MemoryStore.ask request store).1 := by
  obtain ⟨ledger, twins⟩ := (Twins.start path).run requests
  exact twins.agree request

end TerminalAgent
