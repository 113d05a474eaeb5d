import TerminalAgent.Message.Basic
import TerminalAgent.Message.Error
import TerminalAgent.MessagePack.Record
import TerminalAgent.MessagePack.Writer

/-!
# Bodies of error replies

An error reply says in its body what went wrong and which request it was about.
-/

namespace TerminalAgent

open MessagePack

/-- The body of an error reply. -/
structure ErrorBody where
  err : String
  /-- Namespace of the request. -/
  proto : Option UInt16
  /-- Type of the request. -/
  typ : Option String
  deriving Repr, DecidableEq

namespace ErrorBody

/-- What is known of an error body while it is read. -/
structure Draft where
  err : Option String := none
  proto : Option (Option UInt16) := none
  typ : Option (Option String) := none

/-- An error body on the wire. -/
def wire : Record Draft ErrorBody where
  name := "ErrorBody"
  fields := [
    .of "err" .text Draft.err (fun err draft => { draft with err }) false,
    .of "msgproto" (.optional .uint16) Draft.proto
      (fun proto draft => { draft with proto := some proto }) true,
    .of "msgtype" (.optional .text) Draft.typ (fun typ draft => { draft with typ := some typ }) true]
  start := {}
  close draft :=
    match draft.err with
    | some err => pure ⟨err, draft.proto.join, draft.typ.join⟩
    | none => throw (.missingField "err")

/-- The bytes of an error body. Absent fields are left out. -/
def encode (body : ErrorBody) : Bytes :=
  Writer.record (
    [("err", Writer.text body.err)]
    ++ (body.proto.map fun proto => ("msgproto", Writer.natural proto.toNat)).toList
    ++ (body.typ.map fun typ => ("msgtype", Writer.text typ)).toList)

def decode (input : Bytes) : Except ProtocolError ErrorBody :=
  (wire.decode input).mapError .ofRead

end ErrorBody

/-- The reply with status error that says what went wrong with a request. -/
def Message.errorReply (proto : UInt16) (typ err : String) : Message :=
  ((Message.new proto typ).withStatus .error).withBody
    (ErrorBody.encode ⟨err, some proto, some typ⟩)

end TerminalAgent
