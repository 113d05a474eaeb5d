import TerminalAgent.Recording.Archive
import TerminalAgent.Recording.Log

/-!
# Playing recordings back

A sealed recording is loaded as a whole, and its chunks are delivered in order, at once or at a
steady pace. Recordings that cannot be loaded are left out of the list.
-/

namespace TerminalAgent

/-- Why a recording cannot be played back. -/
inductive PlaybackError where
  /-- There is no sealed recording of that session. -/
  | notFound (id : String)
  | store (error : StoreError)
  | server (reason : String)
  deriving Repr, DecidableEq

namespace PlaybackError

def message : PlaybackError → String
  | notFound id => "session not found: " ++ id
  | store error => "recording store error: " ++ error.message
  | server reason => "playback server error: " ++ reason

/-- What was done and what came of it, from the outside in. -/
def chain (error : PlaybackError) : List String :=
  match error with
  | store inner => error.message :: inner.chain
  | _ => [error.message]

/-- What a failed reading of a recording means to its viewer. -/
def ofRead (id : String) : StoreError → PlaybackError
  | .notFound _ | .invalidKey _ => .notFound id
  | error => .store error

end PlaybackError

/-- A recording that can be played back. -/
structure RecordingSummary where
  id : String
  size : Nat
  chunks : Nat
  deriving Repr, DecidableEq

namespace Playback

/-- The chunks of a sealed recording. -/
def load (archive : Archive) (id : String) : Except PlaybackError (List Chunk) := do
  let bytes ← (archive.read id).mapError (.ofRead id)
  (Log.decode bytes).mapError fun reason => .store (.corrupt reason)

/-- The recordings that can be played back, in ascending order. -/
def list (archive : Archive) : Except PlaybackError (List RecordingSummary) := do
  let infos ← archive.list.mapError .store
  pure (infos.filterMap fun info =>
    match load archive info.key with
    | .ok chunks => some ⟨info.key, info.size, chunks.length⟩
    | .error _ => none)

/-- When each chunk is delivered, in milliseconds from the start: the first at once, and each later
    one after another pause. -/
def schedule (pause : Nat) (chunks : List Chunk) : List (Nat × Chunk) :=
  chunks.mapIdx fun i chunk => (i * pause, chunk)

end Playback

end TerminalAgent
