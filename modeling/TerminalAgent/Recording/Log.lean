import TerminalAgent.Frame.Codec
import TerminalAgent.Recording.Chunk

/-!
# Logs

A recording is a log of frames, each around one chunk. A frame that is cut short ends the log, as it
is left behind when writing was interrupted; any other damage is an error.
-/

namespace TerminalAgent.Log

/-- The frame of a chunk, or why there is none. -/
def encodeChunk (codec : Codec) (chunk : Chunk) : Except String Bytes :=
  (Frame.encode codec ⟨0, chunk.encode⟩).mapError ProtocolError.message

/-- The chunks of frames, or why one frame holds none. -/
def chunksOf : List Frame → List Chunk → Except String (List Chunk)
  | [], chunks => pure chunks.reverse
  | frame :: frames, chunks =>
      match Chunk.decode frame.payload with
      | .ok chunk => chunksOf frames (chunk :: chunks)
      | .error e => throw e.message

/-- The chunks of a log, or what is damaged in it. Damage is reported in the order of the log. -/
def decode (input : Bytes) : Except String (List Chunk) := do
  let (frames, fault) := Frame.readAll input
  let chunks ← chunksOf frames []
  match fault with
  | none | some (.truncated _) => pure chunks
  | some e => throw e.message

end TerminalAgent.Log
