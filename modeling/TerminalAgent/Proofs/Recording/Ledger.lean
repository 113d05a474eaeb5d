import TerminalAgent.Proofs.Recording.Directory

/-! # What a store owes

The contract of a store on a directory that only stores use. A ledger of the recordings is kept from
the answers that were given; it says what is due for the next operation. `Accounts` says what each
entry of a ledger tells about the answers it was kept from.
-/

namespace TerminalAgent.FileStore

/-! ## Operations -/

inductive Operation where
  | act (activity : Activity)
  | read (key : String)
  | list
  /-- From here on there is a new store object on the directory, which has no handles. -/
  | reopen (path : String)
  | recover

inductive Answer where
  | done
  | refused
  | bytes (bytes : Bytes)
  | infos (infos : List RecordingInfo)
  | recovered (count : Nat)
  /-- The operation is not one of the store's. -/
  | silent
  deriving DecidableEq

def Answer.of {α : Type} (success : α → Answer) : Except StoreError α → Answer
  | .ok a => success a
  | .error _ => refused

def Operation.perform : Operation → FileStore × Volume → Answer × FileStore × Volume
  | act activity, files =>
      let (outcome, files) := activity.perform files
      (if activity.key?.isSome then .of (fun _ => .done) outcome else .silent, files)
  | read key, files => (.of .bytes (files.1.read key files.2), files)
  | list, files => (.of .infos (files.1.list files.2), files)
  | reopen path, files => (.silent, open_ path files.2)
  | recover, files =>
      let (outcome, files) := files.1.recoverLeftovers files.2
      (.of .recovered outcome, files)

/-- Whether the store object has still created nothing after an operation. -/
def Operation.staysUnused (unused : Bool) : Operation → Bool
  | reopen _ => true
  | act (.create _) => false
  | _ => unused

/-- Leftovers are recovered only by a store object that has created nothing, as it is with an owner
    who has just opened the directory. -/
def timely : (unused : Bool) → List Operation → Bool
  | _, [] => true
  | unused, .recover :: rest => unused && timely unused rest
  | unused, operation :: rest => timely (operation.staysUnused unused) rest

/-- An operation and what was answered. -/
abbrev Event := Operation × Answer

namespace Event

/-- The key that a recording was begun under. -/
def created? : Event → Option String
  | (.act (.create key), .done) => some key
  | _ => none

/-- The key that a recording was sealed under, other than by recovery. -/
def sealed? : Event → Option String
  | (.act (.sealRecording key), .done) => some key
  | _ => none

/-- What is added to the recording under a key. -/
def added (key : String) : Event → Bytes
  | (.act (.append other more), .done) => if other = key then more else []
  | _ => []

def recovers : Event → Bool
  | (.recover, .recovered _) => true
  | _ => false

def reopens : Event → Bool
  | (.reopen _, _) => true
  | _ => false

end Event

structure Run where
  files : FileStore × Volume
  /-- What was done so far, oldest first. -/
  history : List Event

def Run.step (run : Run) (operation : Operation) : Run :=
  let (answer, files) := operation.perform run.files
  ⟨files, run.history ++ [(operation, answer)]⟩

/-- Performs operations, beginning with an empty directory. -/
def run (path : String) (operations : List Operation) : Run :=
  operations.foldl Run.step ⟨open_ path .empty, []⟩

/-! ## Ledgers -/

inductive Stage where
  /-- The present store object has created it and may add to it. -/
  | held
  /-- An earlier store object has left it open. -/
  | orphaned
  | sealed
  deriving DecidableEq

structure Entry where
  bytes : Bytes
  stage : Stage
  deriving DecidableEq

/-- The entry of a key after an event. -/
def Entry.after (key : String) (event : Event) (entry : Entry) : Entry where
  bytes := entry.bytes ++ event.added key
  stage :=
    if event.sealed? = some key ∨ event.recovers then .sealed
    else if event.reopens ∧ entry.stage = .held then .orphaned
    else entry.stage

theorem Entry.after_sealed {key : String} {event : Event} {entry : Entry} :
    (entry.after key event).stage = .sealed ↔
      entry.stage = .sealed ∨ event.sealed? = some key ∨ event.recovers := by
  unfold after
  grind

theorem Entry.after_held {key : String} {event : Event} {entry : Entry} :
    (entry.after key event).stage = .held ↔
      entry.stage = .held ∧ event.reopens = false ∧ event.sealed? ≠ some key ∧
        event.recovers = false := by
  unfold after
  grind

theorem Entry.after_reopen (key path : String) (answer : Answer) (entry : Entry) :
    entry.after key (.reopen path, answer) =
      { entry with stage := if entry.stage = .held then .orphaned else entry.stage } := by
  simp [after, Event.added, Event.sealed?, Event.recovers, Event.reopens]

theorem Entry.after_recover (key : String) (count : Nat) (entry : Entry) :
    entry.after key (.recover, .recovered count) = { entry with stage := .sealed } := by
  simp [after, Event.added, Event.recovers]

abbrev Ledger := SortedMap Entry

namespace Ledger

/-- Notes an event. -/
def note (ledger : Ledger) (event : Event) : Ledger :=
  let ledger := ledger.mapEntries fun key entry => entry.after key event
  match event.created? with
  | some key => ledger.insert key ⟨[], .held⟩
  | none => ledger

/-- The ledger kept from all events of a history. -/
def of (history : List Event) : Ledger :=
  history.foldl note ∅

def isHeld (ledger : Ledger) (key : String) : Bool :=
  (ledger.get? key).any fun entry => entry.stage = .held

/-- The sealed recordings, in ascending order of keys. -/
def infos (ledger : Ledger) : List RecordingInfo :=
  ledger.entries.filterMap fun entry =>
    if entry.2.stage = .sealed then some ⟨entry.1, entry.2.bytes.length⟩ else none

/-- The keys of the recordings that are not sealed. -/
def unsealed (ledger : Ledger) : List String :=
  ledger.entries.filterMap fun entry => if entry.2.stage = .sealed then none else some entry.1

/-- What is to be answered. -/
def due (ledger : Ledger) : Operation → Answer
  | .act (.create key) =>
      if RecordingKey.isValid key ∧ ledger.get? key = none then .done else .refused
  | .act (.append key _) => if ledger.isHeld key then .done else .refused
  | .act (.sealRecording key) => if ledger.isHeld key then .done else .refused
  | .act (.acquire _) => .silent
  | .act (.release _) => .silent
  | .read key =>
      match ledger.get? key with
      | some ⟨bytes, .sealed⟩ => .bytes bytes
      | _ => .refused
  | .list => .infos ledger.infos
  | .reopen _ => .silent
  | .recover => .recovered ledger.unsealed.length

theorem get?_note (ledger : Ledger) (event : Event) (key : String) :
    (ledger.note event).get? key =
      if event.created? = some key then some ⟨[], .held⟩
      else (ledger.get? key).map (Entry.after key event) := by
  unfold note
  cases event.created? with
  | none => simp
  | some other => simp [eq_comm]

section
variable {ledger : Ledger} {key : String} {bytes : Bytes}

theorem get?_note_created :
    (ledger.note (.act (.create key), .done)).get? key = some ⟨[], .held⟩ := by
  simp [get?_note, Event.created?]

theorem get?_note_appended (held : ledger.get? key = some ⟨bytes, .held⟩) (more : Bytes) :
    (ledger.note (.act (.append key more), .done)).get? key = some ⟨bytes ++ more, .held⟩ := by
  simp [get?_note, held, Entry.after, Event.created?, Event.added, Event.sealed?, Event.recovers,
    Event.reopens]

theorem get?_note_sealed (held : ledger.get? key = some ⟨bytes, .held⟩) :
    (ledger.note (.act (.sealRecording key), .done)).get? key = some ⟨bytes, .sealed⟩ := by
  simp [get?_note, held, Entry.after, Event.created?, Event.added, Event.sealed?]

end

theorem of_append (history : List Event) (event : Event) :
    of (history ++ [event]) = (of history).note event := by
  simp [of, List.foldl_append]

theorem isHeld_eq {ledger : Ledger} {key : String} :
    ledger.isHeld key = true ↔ ∃ bytes, ledger.get? key = some ⟨bytes, .held⟩ := by
  unfold isHeld
  cases ledger.get? key with
  | none => simp
  | some entry => cases entry; simp

theorem mem_infos {ledger : Ledger} {info : RecordingInfo} :
    info ∈ ledger.infos ↔
      ∃ bytes, ledger.get? info.key = some ⟨bytes, .sealed⟩ ∧ info.size = bytes.length := by
  simp only [infos, List.mem_filterMap, SortedMap.get?_eq_some]
  constructor
  · rintro ⟨⟨key, ⟨bytes, stage⟩⟩, member, listed⟩
    split at listed
    next closed =>
      cases listed
      exact ⟨bytes, closed ▸ member, rfl⟩
    next => cases listed
  · rintro ⟨bytes, member, size⟩
    refine ⟨_, member, ?_⟩
    simp [← size]

/-- No key is listed twice. -/
theorem infos_sorted (ledger : Ledger) : ledger.infos.Pairwise fun a b => a.key < b.key := by
  refine List.pairwise_filterMap.mpr (ledger.sorted.imp ?_)
  intro a b smaller info listed other listedToo
  split at listed
  next =>
    split at listedToo
    next =>
      cases listed
      cases listedToo
      exact smaller
    next => cases listedToo
  next => cases listed

theorem mem_unsealed {ledger : Ledger} {key : String} :
    key ∈ ledger.unsealed ↔ ∃ entry, ledger.get? key = some entry ∧ entry.stage ≠ .sealed := by
  simp only [unsealed, List.mem_filterMap, SortedMap.get?_eq_some]
  constructor
  · rintro ⟨⟨other, entry⟩, member, listed⟩
    split at listed
    next => cases listed
    next isOpen =>
      cases listed
      exact ⟨entry, member, isOpen⟩
  · rintro ⟨entry, member, isOpen⟩
    exact ⟨_, member, by simp [isOpen]⟩

theorem nodup_unsealed (ledger : Ledger) : ledger.unsealed.Nodup := by
  refine List.pairwise_filterMap.mpr (ledger.sorted.imp ?_)
  intro a b smaller key listed other listedToo
  split at listed
  next => cases listed
  next =>
    split at listedToo
    next => cases listedToo
    next =>
      cases listed
      cases listedToo
      rintro same
      exact String.lt_irrefl _ (same ▸ smaller)

end Ledger

/-! ## Histories -/

def wasCreated (key : String) (history : List Event) : Bool :=
  history.any fun event => event.created? = some key

/-- All that was successfully added under a key, in order. -/
def appendedTo (key : String) (history : List Event) : Bytes :=
  history.flatMap (Event.added key)

/-- Whether a recording was sealed, or leftovers were recovered after it was created. -/
def wasSealed (key : String) (history : List Event) : Bool :=
  history.any (fun event => event.sealed? = some key) ||
    (history.dropWhile fun event => event.created? ≠ some key).any Event.recovers

/-- The events of the present store object, latest first. -/
def recent (history : List Event) : List Event :=
  history.reverse.takeWhile fun event => !event.reopens

/-- What the entry of a key tells about a history. -/
structure Accounts (key : String) (item? : Option Entry) (history : List Event) : Prop where
  created : item?.isSome = wasCreated key history
  bytes : (item?.map Entry.bytes).getD [] = appendedTo key history
  held : (item?.any fun entry => entry.stage = .held) = (wasCreated key (recent history) &&
    !(recent history).any fun event => event.sealed? = some key)
  sealed : (item?.any fun entry => entry.stage = .sealed) = wasSealed key history

theorem recent_append (history : List Event) (event : Event) :
    recent (history ++ [event]) = if event.reopens then [] else event :: recent history := by
  simp only [recent, List.reverse_append, List.reverse_singleton, List.singleton_append,
    List.takeWhile_cons]
  cases event.reopens <;> rfl

/-- An event that begins a recording is nothing else. -/
theorem Event.of_created? {event : Event} {key : String} (created : event.created? = some key) :
    event = (.act (.create key), .done) ∧ event.sealed? = none ∧ (∀ other, event.added other = []) ∧
      event.recovers = false ∧ event.reopens = false := by
  unfold created? at created
  split at created
  next =>
    cases created
    exact ⟨rfl, rfl, fun _ => rfl, rfl, rfl⟩
  next => cases created

section
variable {key : String} {history : List Event} {event : Event}

theorem mem_of_mem_recent (member : event ∈ recent history) : event ∈ history :=
  List.mem_reverse.mp ((List.takeWhile_sublist _).subset member)

theorem wasSealed_append :
    wasSealed key (history ++ [event]) =
      (wasSealed key history || event.sealed? = some key ||
        wasCreated key history && event.recovers) := by
  have since : ((history ++ [event]).dropWhile fun event => event.created? ≠ some key).any
      Event.recovers = ((history.dropWhile fun event => event.created? ≠ some key).any
        Event.recovers || wasCreated key history && event.recovers) := by
    induction history with
    | nil =>
        by_cases created : event.created? = some key
        · obtain ⟨-, -, -, recoversNot, -⟩ := Event.of_created? created
          simp [wasCreated, created, recoversNot]
        · simp [wasCreated, created]
    | cons first rest ih =>
        by_cases created : first.created? = some key
        · simp [wasCreated, created, Bool.or_assoc]
        · simpa [wasCreated, created] using ih
  simp only [wasSealed, since, List.any_append, List.any_cons, List.any_nil, Bool.or_false]
  ac_rfl

/-- A new recording has an account of the events so far. -/
theorem Accounts.begin (accounts : Accounts key none history)
    (begins : event.created? = some key) :
    Accounts key (some ⟨[], .held⟩) (history ++ [event]) := by
  obtain ⟨-, noSeal, addsNot, recoversNot, reopensNot⟩ := Event.of_created? begins
  have notSealed := accounts.sealed
  rw [Option.any_none, eq_comm, wasSealed, Bool.or_eq_false_iff, List.any_eq_false] at notSealed
  have notLately : ((recent history).any fun event => event.sealed? = some key) = false :=
    List.any_eq_false.mpr fun event member => notSealed.1 event (mem_of_mem_recent member)
  constructor
  case created => simp [wasCreated, begins]
  case bytes =>
    rw [appendedTo, List.flatMap_append, List.flatMap_singleton, addsNot, List.append_nil]
    exact accounts.bytes
  case held =>
    rw [recent_append, reopensNot, if_neg Bool.false_ne_true, wasCreated, List.any_cons,
      List.any_cons, begins, noSeal, notLately]
    simp
  case sealed =>
    rw [wasSealed_append, ← accounts.sealed, noSeal, recoversNot]
    simp

/-- The account goes on, if nothing is added to a recording that is not there or not held. -/
theorem Accounts.after {item? : Option Entry} (accounts : Accounts key item? history)
    (goesOn : event.created? ≠ some key)
    (held : event.added key ≠ [] ∨ event.sealed? = some key →
      ∃ bytes, item? = some ⟨bytes, .held⟩)
    (idle : event.recovers → ∀ bytes, item? ≠ some ⟨bytes, .held⟩) :
    Accounts key (item?.map (Entry.after key event)) (history ++ [event]) := by
  obtain ⟨created, bytes, heldSoFar, sealed⟩ := accounts
  constructor
  case created => simpa [wasCreated, goesOn] using created
  case bytes =>
    rw [appendedTo, List.flatMap_append, List.flatMap_singleton, ← appendedTo, ← bytes]
    cases item? with
    | none =>
        have addsNot : event.added key = [] := by
          by_contra adds
          simpa using held (.inl adds)
        simp [addsNot]
    | some entry => rfl
  case held =>
    rw [recent_append]
    cases reopens : event.reopens with
    | true =>
        cases item? with
        | none => rfl
        | some entry => simp [Entry.after_held, reopens, wasCreated]
    | false =>
        rw [if_neg Bool.false_ne_true, wasCreated, List.any_cons, List.any_cons, ← wasCreated,
          Bool.not_or, decide_eq_false goesOn, Bool.false_or, Bool.and_left_comm, ← heldSoFar]
        cases item? with
        | none => simp
        | some entry =>
            -- What recovery closes was not held.
            have kept : entry.stage = .held → event.recovers = false := by
              intro isHeld
              by_contra recovers
              exact idle (by simpa using recovers) entry.bytes (by rw [← isHeld])
            rw [Option.map_some, Option.any_some, Option.any_some, Bool.eq_iff_iff]
            simp only [Entry.after_held, reopens, decide_eq_true_eq, Bool.and_eq_true,
              Bool.not_eq_true', decide_eq_false_iff_not, true_and]
            tauto
  case sealed =>
    rw [wasSealed_append, ← sealed, ← created]
    cases item? with
    | none =>
        have notSealed : event.sealed? ≠ some key := by
          intro seals
          simpa using held (.inr seals)
        simp [notSealed]
    | some entry => simp [Entry.after_sealed, Bool.or_assoc]

end

end TerminalAgent.FileStore
