import TerminalAgent.Recording.Archive
import TerminalAgent.Recording.Key

/-!
# Recordings in memory

A recording is open, and can be appended to, until it is sealed, and can be read from then on.
-/

namespace TerminalAgent

/-- One recording. -/
structure Recording where
  bytes : Bytes
  isSealed : Bool
  deriving Repr, DecidableEq

structure MemoryStore where
  recordings : SortedMap Recording
  deriving Repr, DecidableEq

namespace MemoryStore

def empty : MemoryStore := ⟨∅⟩

/-- Whether there is a recording, sealed or not. -/
def contains (store : MemoryStore) (key : String) : Bool :=
  (store.recordings.get? key).isSome

def isSealed (store : MemoryStore) (key : String) : Bool :=
  match store.recordings.get? key with
  | some recording => recording.isSealed
  | none => false

/-- Begins an empty recording under a key that was never used. -/
def create (store : MemoryStore) (key : String) : Except StoreError MemoryStore :=
  if !RecordingKey.isValid key then throw (.invalidKey key)
  else
    match store.recordings.get? key with
    | some _ => throw (.sealed key)
    | none => pure ⟨store.recordings.insert key ⟨[], false⟩⟩

/-- The open recording under a key. -/
def openRecording (store : MemoryStore) (key : String) : Except StoreError Recording :=
  match store.recordings.get? key with
  | none => throw (.notFound key)
  | some recording => if recording.isSealed then throw (.sealed key) else pure recording

def append (store : MemoryStore) (key : String) (bytes : Bytes) : Except StoreError MemoryStore := do
  let recording ← store.openRecording key
  pure ⟨store.recordings.insert key { recording with bytes := recording.bytes ++ bytes }⟩

def sealRecording (store : MemoryStore) (key : String) : Except StoreError MemoryStore := do
  let recording ← store.openRecording key
  pure ⟨store.recordings.insert key { recording with isSealed := true }⟩

def read (store : MemoryStore) (key : String) : Except StoreError Bytes :=
  match store.recordings.get? key with
  | some recording => if recording.isSealed then pure recording.bytes else throw (.notFound key)
  | none => throw (.notFound key)

def list (store : MemoryStore) : List RecordingInfo :=
  store.recordings.entries.filterMap fun entry =>
    if entry.2.isSealed then some ⟨entry.1, entry.2.bytes.length⟩ else none

def archive (store : MemoryStore) : Archive where
  read := store.read
  list := pure store.list

end MemoryStore

end TerminalAgent
