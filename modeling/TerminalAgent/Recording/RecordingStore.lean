import TerminalAgent.Recording.FileStore
import TerminalAgent.Recording.MemoryStore

/-!
# Stores as recorders use them

A recorder makes one recording, appends to it and seals it. Any state that can do so will serve: a store
in memory, or one on a directory together with that directory.
-/

namespace TerminalAgent

/-- The side of a store of type `σ` that a recorder needs. -/
structure RecordingStore (σ : Type) where
  create : String → σ → Except StoreError Unit × σ
  append : String → Bytes → σ → Except StoreError Unit × σ
  sealRecording : String → σ → Except StoreError Unit × σ

/-- Turns the outcome of an operation on a store into the outcome and the store that is left. -/
def StoreError.settle {σ : Type} (s : σ) (outcome : Except StoreError σ) : Except StoreError Unit × σ :=
  match outcome with
  | .ok s => (pure (), s)
  | .error error => (throw error, s)

def MemoryStore.recording : RecordingStore MemoryStore where
  create key store := StoreError.settle store (store.create key)
  append key bytes store := StoreError.settle store (store.append key bytes)
  sealRecording key store := StoreError.settle store (store.sealRecording key)

def FileStore.recording : RecordingStore (FileStore × Volume) where
  create key files := files.1.create key files.2
  append key bytes files := files.1.append key bytes files.2
  sealRecording key files := files.1.sealRecording key files.2

end TerminalAgent
