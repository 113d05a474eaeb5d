import TerminalAgent.Message.ErrorBody
import TerminalAgent.Session.Error
import TerminalAgent.Text.Quoted

/-!
# Requests that fail

Every failed request but one is answered with status error. What went wrong with a session is said in
plain text, so that operators can match on it; everything else is said in an error body.
-/

namespace TerminalAgent

/-- Why a request failed. -/
inductive RequestError where
  | session (error : SessionError)
  /-- The request is no message. -/
  | malformed (error : ProtocolError)
  | unknownType (proto : UInt16) (typ : String)
  | unknownProto (proto : UInt16)
  /-- A property is absent or of another type. -/
  | missingProperty (key : String)
  /-- Nobody takes replies any more. -/
  | channelClosed
  deriving Repr, DecidableEq

namespace RequestError

def message : RequestError → String
  | session error => error.message
  | malformed error => "malformed message: " ++ error.message
  | unknownType proto typ => s!"unknown message type {Text.quoted typ} in proto {proto.toNat}"
  | unknownProto proto => s!"unsupported proto type {proto.toNat}"
  | missingProperty key => "missing or invalid property: " ++ key
  | channelClosed => "outbound channel closed"

/-- The text on a failed session operation, as the reply to a request of type `typ` says it. -/
def sessionText (typ : String) (error : SessionError) : String :=
  if typ = Kind.spawn then "failed to start shell: " ++ error.message else error.message

/-- The reply to a request of namespace `proto` and type `typ` about the session `id?`. -/
def reply (error : RequestError) (proto : UInt16) (typ : String) (id? : Option String) : Message :=
  let answer :=
    match error with
    | session error =>
        ((Message.new proto typ).withStatus .error).withBody (Utf8.encode (sessionText typ error))
    | other => Message.errorReply proto typ other.message
  match id? with
  | some id => answer.withSessionId id
  | none => answer

end RequestError

end TerminalAgent
