import TerminalAgent.Recording.RecordingStore

/-!
# A store with planned failures

A store in memory that refuses some of what it is asked, and keeps a log of what that was. A refusal
changes nothing.
-/

namespace TerminalAgent

/-- What was asked of a store. -/
inductive StoreCall where
  | create
  | append (bytes : Bytes)
  | sealRecording
  deriving Repr, DecidableEq

/-- A store with planned failures. -/
structure FaultyStore where
  store : MemoryStore
  /-- How many appends fail from now on. -/
  failAppends : Nat
  failSeal : Bool
  /-- What was asked so far, latest first, and whether it was done. -/
  calls : List (StoreCall × Bool)

namespace FaultyStore

/-- Does what is asked unless it is to fail, and notes it. -/
def perform (call : StoreCall) (isToFail : Bool)
    (operation : MemoryStore → Except StoreError MemoryStore) (faulty : FaultyStore) :
    Except StoreError Unit × FaultyStore :=
  let outcome :=
    if isToFail then throw (.io "" (.other "planned failure")) else operation faulty.store
  match outcome with
  | .ok store => (pure (), { faulty with store, calls := (call, true) :: faulty.calls })
  | .error error => (throw error, { faulty with calls := (call, false) :: faulty.calls })

/-- The store as recorders use it. -/
def recording : RecordingStore FaultyStore where
  create key := perform .create false (·.create key)
  append key bytes faulty :=
    perform (.append bytes) (0 < faulty.failAppends) (·.append key bytes)
      { faulty with failAppends := faulty.failAppends - 1 }
  sealRecording key faulty :=
    perform .sealRecording faulty.failSeal (·.sealRecording key) faulty

end FaultyStore

end TerminalAgent
