import TerminalAgent.Message.Basic
import TerminalAgent.Message.Error
import TerminalAgent.MessagePack.Record
import TerminalAgent.MessagePack.Writer

/-!
# Messages on the wire

A message is a record of a header and a body, and the header a record of namespace, type and
properties. `Message.encode` writes the one short form; `Message.decode` reads every form that
MessagePack allows. `Message.decodeHeader?` recovers namespace and type of a message that is damaged
elsewhere.
-/

namespace TerminalAgent

open MessagePack

namespace Property

def encode : Property → Bytes
  | bool b => Writer.bool b
  | int i => Writer.integer i.toInt
  | float x => Writer.float x
  | text s => Writer.text s

/-- The value of a scalar token. An integer beyond 64 signed bits becomes a float, and a binary that
    is text becomes text. -/
def ofToken? : Token → Option Property
  | .bool b => some (.bool b)
  | .unsigned n =>
      if n < 0x8000000000000000 then some (.int (Int64.ofNat n)) else some (.float (Binary64.ofInt n))
  | .signed i => some (.int (Int64.ofInt i))
  | .float x => some (.float x)
  | .str bytes | .bin bytes => (Utf8.decode? bytes).map .text
  | _ => none

/-- The error for a value that is no scalar. -/
def noScalar : ReadError := .noVariant "PropValue"

/-- The format of a property. A value of another kind is passed over before it is refused. -/
def format : Format Property :=
  Format.ofToken
    (fun inner token =>
      match ofToken? token with
      | some p => pure p
      | none => do
          skipContents (skip inner) token
          throw noScalar)
    (fun token =>
      match ofToken? token with
      | some p => pure p
      | none => throw noScalar)

end Property

/-- The properties of a message on the wire. -/
def propertiesFormat : Format (SortedMap Property) :=
  Format.ofToken
    (fun inner token =>
      match token with
      | .map n =>
          Format.readEntries
            (fun props => do
              let key ← Format.text.read inner
              let value ← Property.format.read inner
              pure (props.insert key value))
            n ∅
      | token => throw (token.mismatch "a map"))
    (fun token => throw (token.mismatch "a map"))

namespace Header

/-- What is known of a header while it is read. -/
structure Draft where
  proto : Option UInt16 := none
  typ : Option String := none
  props : Option (SortedMap Property) := none

/-- A header on the wire. -/
def wire : Record Draft Header where
  name := "ProtocolHeader"
  fields := [
    .of "proto" .uint16 Draft.proto (fun proto draft => { draft with proto }) false,
    .of "typ" .text Draft.typ (fun typ draft => { draft with typ }) false,
    .of "props" propertiesFormat Draft.props (fun props draft => { draft with props }) true]
  start := {}
  close draft :=
    match draft.proto, draft.typ with
    | none, _ => throw (.missingField "proto")
    | _, none => throw (.missingField "typ")
    | some proto, some typ => pure ⟨proto, typ, draft.props.getD ∅⟩

/-- The bytes of properties, which are not empty. -/
def encodeProps (props : SortedMap Property) : Bytes :=
  Writer.mapHead props.size
    ++ props.entries.flatMap fun entry => Writer.text entry.1 ++ entry.2.encode

/-- The bytes of a header. Empty properties are left out. -/
def encode (header : Header) : Bytes :=
  Writer.record (
    [("proto", Writer.natural header.proto.toNat), ("typ", Writer.text header.typ)]
    ++ if header.props.isEmpty then [] else [("props", encodeProps header.props)])

end Header

namespace Message

/-- What is known of a message while it is read. -/
structure Draft where
  header : Option Header := none
  body : Option Bytes := none

/-- A message on the wire. -/
def wire : Record Draft Message where
  name := "ProtocolMessage"
  fields := [
    .of "hdr" Header.wire.format Draft.header (fun header draft => { draft with header }) false,
    .of "body" .bytes Draft.body (fun body draft => { draft with body }) true]
  start := {}
  close draft :=
    match draft.header with
    | some header => pure { toHeader := header, body := draft.body.getD [] }
    | none => throw (.missingField "hdr")

/-- The bytes of a message. An empty body is left out. -/
def encode (m : Message) : Bytes :=
  Writer.record (
    [("hdr", m.toHeader.encode)]
    ++ if m.body.isEmpty then [] else [("body", Writer.binary m.body)])

/-- Reads the message at the front of the input. -/
def decode (input : Bytes) : Except ProtocolError Message :=
  (wire.decode input).mapError .ofRead

/-- What is known of namespace and type while only they are wanted. -/
structure TagDraft where
  proto : Option (Option UInt16) := none
  typ : Option (Option String) := none

/-- The header of a message of which only namespace and type are wanted. -/
def tagWire : Record TagDraft (Option UInt16 × Option String) where
  name := "header"
  fields := [
    .of "proto" (.optional .uint16) TagDraft.proto
      (fun proto draft => { draft with proto := some proto }) false,
    .of "typ" (.optional .text) TagDraft.typ (fun typ draft => { draft with typ := some typ }) false]
  start := {}
  close draft := pure (draft.proto.join, draft.typ.join)

/-- A message of which only namespace and type are wanted. -/
def taggedWire :
    Record (Option (Option (Option UInt16 × Option String)))
      (Option (Option UInt16 × Option String)) where
  name := "message"
  fields := [.of "hdr" (.optional tagWire.format) id (fun tag _ => some tag) false]
  start := none
  close draft := pure draft.join

/-- Namespace and type of the message at the front of the input, whatever its properties and body
    are; a missing type counts as empty. -/
def decodeHeader? (input : Bytes) : Option (UInt16 × String) :=
  match taggedWire.decode input with
  | .ok (some (some proto, typ)) => some (proto, typ.getD "")
  | _ => none

end Message

end TerminalAgent
