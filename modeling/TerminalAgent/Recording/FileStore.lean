import TerminalAgent.Recording.Archive
import TerminalAgent.Recording.Key

/-!
# Recordings in a directory

A recording is the file `key.rec.part` while it is open and is renamed to `key.rec` when it is
sealed. A store holds handles of the recordings it has open; several stores may share a directory,
and each operation takes the directory as it is and gives it back.
-/

namespace TerminalAgent

/-- A store on a directory. -/
structure FileStore where
  /-- The path of the directory, as errors name it. -/
  path : String
  /-- The contents that open recordings append to. -/
  handles : SortedMap Nat
  deriving Repr, DecidableEq

/-- How an append to a file fails. -/
structure AppendFault where
  reason : FileFault
  /-- How many bytes have reached the file by then. -/
  written : Nat
  /-- Whether the file can be cut to its old length. -/
  isRolledBack : Bool
  deriving Repr, DecidableEq

namespace FileStore

/-- What an operation answers, and the store and the directory after it. -/
abbrev Outcome (α : Type) := Except StoreError α × FileStore × Volume

def sealedEnding : String := ".rec"

def openEnding : String := ".rec.part"

/-- The file name of a sealed recording. -/
def sealedName (key : String) : String := key ++ sealedEnding

/-- The file name of an open recording. -/
def openName (key : String) : String := key ++ openEnding

/-- The key in a file name with an ending. -/
def keyOf? (ending name : String) : Option String :=
  if name.endsWith ending then
    some (String.ofList (name.toList.take (name.length - ending.length)))
  else none

/-- The path of a file, as errors name it. -/
def filePath (store : FileStore) (name : String) : String :=
  store.path ++ "/" ++ name

/-- Opens a store; the directory is made if it is not there. -/
def open_ (path : String) (volume : Volume) : FileStore × Volume :=
  (⟨path, ∅⟩, volume.restore)

def create (store : FileStore) (key : String) (volume : Volume) : Outcome Unit :=
  if !RecordingKey.isValid key then (throw (.invalidKey key), store, volume)
  else if volume.hasPath (sealedName key) then (throw (.sealed key), store, volume)
  else
    match volume.createNew (openName key) with
    | .ok (volume, id) => (pure (), { store with handles := store.handles.insert key id }, volume)
    | .error fault => (throw (.io (store.filePath (openName key)) fault), store, volume)

/-- The error for a recording that this store has not open. -/
def notOpen (key : String) (volume : Volume) : StoreError :=
  if volume.hasPath (sealedName key) then .sealed key else .notFound key

/-- Appends to an open recording. What a fault leaves behind the recording is cut off again; a file
    that cannot be cut keeps it. -/
def appendWith (store : FileStore) (fault? : Option AppendFault) (key : String) (bytes : Bytes)
    (volume : Volume) : Outcome Unit :=
  match store.handles.get? key with
  | none => (throw (notOpen key volume), store, volume)
  | some id =>
      match fault? with
      | none => (pure (), store, volume.append id bytes)
      | some fault =>
          let torn := volume.append id (bytes.take fault.written)
          (throw (.io (store.filePath (openName key)) fault.reason), store,
            if fault.isRolledBack then torn.truncate id (volume.content id).length else torn)

def append (store : FileStore) (key : String) (bytes : Bytes) (volume : Volume) : Outcome Unit :=
  store.appendWith none key bytes volume

def sealRecording (store : FileStore) (key : String) (volume : Volume) : Outcome Unit :=
  match store.handles.get? key with
  | none => (throw (notOpen key volume), store, volume)
  | some _ =>
      let store := { store with handles := store.handles.erase key }
      match volume.rename (openName key) (sealedName key) with
      | .ok volume => (pure (), store, volume)
      | .error fault => (throw (.io (store.filePath (sealedName key)) fault), store, volume)

def read (store : FileStore) (key : String) (volume : Volume) : Except StoreError Bytes :=
  if !RecordingKey.isValid key then throw (.invalidKey key)
  else
    match volume.read (sealedName key) with
    | .ok bytes => pure bytes
    | .error .notFound => throw (.notFound key)
    | .error fault => throw (.io (store.filePath (sealedName key)) fault)

def list (store : FileStore) (volume : Volume) : Except StoreError (List RecordingInfo) :=
  match volume.entries with
  | .error fault => throw (.io store.path fault)
  | .ok entries =>
      let infos := entries.filterMap fun entry =>
        (keyOf? sealedEnding entry.1).map fun key => ⟨key, entry.2⟩
      pure (infos.mergeSort fun a b => decide (a.key ≤ b.key))

/-- Seals the open recordings with these keys as they are, and counts them. -/
def recoverKeys (store : FileStore) : List String → (count : Nat) → Volume → Outcome Nat
  | [], count, volume => (pure count, store, volume)
  | key :: keys, count, volume =>
      match volume.rename (openName key) (sealedName key) with
      | .ok volume => recoverKeys store keys (count + 1) volume
      | .error fault => (throw (.io (store.filePath (sealedName key)) fault), store, volume)

/-- Seals, as they are, the recordings that an earlier owner of the directory left open. -/
def recoverLeftovers (store : FileStore) (volume : Volume) : Outcome Nat :=
  match volume.entries with
  | .error fault => (throw (.io store.path fault), store, volume)
  | .ok entries =>
      let keys := entries.filterMap fun entry =>
        (keyOf? openEnding entry.1).filter RecordingKey.isValid
      store.recoverKeys keys 0 volume

def archive (store : FileStore) (volume : Volume) : Archive where
  read key := store.read key volume
  list := store.list volume

end FileStore

end TerminalAgent
