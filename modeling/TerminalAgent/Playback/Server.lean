import TerminalAgent.Message.ErrorBody
import TerminalAgent.Playback.Service
import TerminalAgent.Playback.Target

/-!
# Serving recordings

A viewer names a recording in the target of its request and gets its chunks, one message each. A
recording that cannot be played back is answered with one message that says why.
-/

namespace TerminalAgent.Playback

/-- How the server answers a viewer. -/
inductive Answer where
  /-- The target names no recording. -/
  | notFound (text : String)
  /-- The recording, in messages that are sent one after the other. -/
  | recording (messages : List Message)
  /-- The recording cannot be played back. The message is sent, and the connection is closed. -/
  | refusal (message : Message)
  deriving Repr, DecidableEq

/-- One chunk of a recording. -/
def chunkMessage (id : String) (chunk : Chunk) : Message :=
  (((Message.new Proto.shell Kind.shell).withStatus .normal).withSessionId id).withBody chunk.data

/-- Why a recording cannot be played back. -/
def errorMessage (id : String) (error : PlaybackError) : Message :=
  (Message.errorReply Proto.shell Kind.error error.message).withSessionId id

/-- Answers a request for a target. -/
def serve (archive : Archive) (target : String) : Answer :=
  match PlaybackTarget.parse? target with
  | none => .notFound "expected /playback/\x7bsession_id\x7d"
  | some target =>
      match load archive target.id with
      | .ok chunks => .recording (chunks.map (chunkMessage target.id))
      | .error error => .refusal (errorMessage target.id error)

namespace Answer

/-- All that is sent. -/
def messages : Answer → List Message
  | notFound _ => []
  | recording messages => messages
  | refusal message => [message]

/-- What a viewer gets that takes at most so many messages. -/
def received (answer : Answer) (limit : Option Nat) : List Message :=
  match limit with
  | none => answer.messages
  | some limit => answer.messages.take limit

end Answer

end TerminalAgent.Playback
