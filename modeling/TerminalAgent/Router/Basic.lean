import TerminalAgent.Message.Wire
import TerminalAgent.Router.Error
import TerminalAgent.Session.Registry

/-!
# Routing

Messages that arrive on a connection are requests to its one session, or control messages. They are
handled one at a time and in order. Replies and output go out on one channel: a reply to a request to
start a shell goes before all output of the shell, and output before the notice that the shell has
ended on its own. A request to stop a shell that cannot be killed waits until its output was recorded.
If that never happens it is never answered, and the connection never gets to what arrives later.
-/

namespace TerminalAgent

/-- Where a connection puts what it sends. -/
structure Outbound where
  isOpen : Bool
  /-- What was sent and not taken, oldest first. -/
  sent : List Message
  deriving Repr, DecidableEq

namespace Outbound

def new : Outbound := ⟨true, []⟩

def send (outbound : Outbound) (message : Message) : Except RequestError Unit × Outbound :=
  if outbound.isOpen then (pure (), { outbound with sent := outbound.sent ++ [message] })
  else (throw .channelClosed, outbound)

/-- Nobody takes messages any more. -/
def hangUp (_ : Outbound) : Outbound := ⟨false, []⟩

end Outbound

/-- One connection: its session, the store that sessions are recorded in, and what it sends. -/
structure Connection (π σ : Type) where
  registry : Registry π
  store : σ
  outbound : Outbound
  /-- Whether something that it waits for never comes. -/
  isStuck : Bool

namespace Connection

variable {π σ : Type} (host : Host π) (store : RecordingStore σ)

def new (spec : ShellSpec) (recording : Option RecorderSettings) (s : σ) : Connection π σ where
  registry := .new spec recording
  store := s
  outbound := .new
  isStuck := false

/-! ## What is sent -/

/-- The text on a shell that was started. -/
def startedText : String := "Shell started"

/-- The reply to a request that started a session. -/
def startedReply (id : String) : Message :=
  (((Message.new Proto.shell Kind.spawn).withStatus .normal).withSessionId id).withBody
    (Utf8.encode startedText)

/-- A piece of output of a session. -/
def outputMessage (id : String) (output : Output) : Message :=
  (((Message.new Proto.shell Kind.shell).withStatus .normal).withSessionId id).withBody output.data

/-- Whether a message carries output of a session. -/
def isOutput (message : Message) : Bool :=
  message.proto = Proto.shell && message.typ = Kind.shell && message.status? = some .normal

/-- The notice that the shell of a session has ended on its own. -/
def stopNotice (id : String) : Message :=
  ((Message.new Proto.shell Kind.stop).withStatus .normal).withSessionId id

def pongReply (body : Bytes) : Message :=
  (Message.new Proto.control Kind.pong).withBody body

/-- Takes what was sent, oldest first. -/
def takeSent (connection : Connection π σ) : List Message × Connection π σ :=
  (connection.outbound.sent,
    { connection with outbound := { connection.outbound with sent := [] } })

/-! ## Output -/

/-- Sends output that is watched. Tells whether it was taken. -/
def forward (connection : Connection π σ) (id : String) : List Output → Bool × Connection π σ
  | [] => (true, connection)
  | output :: rest =>
      match connection.outbound.send (outputMessage id output) with
      | (.error _, _) => (false, connection)
      | (.ok (), outbound) => { connection with outbound }.forward id rest

/-- Lets the session and its consumers run until nothing happens. When the output has ended, whoever
    watches it retires the session and gives notice. -/
def advance (connection : Connection π σ) : Connection π σ :=
  match connection.registry.slot with
  | .running session =>
      let id := session.pty.id
      let (outputs, session, s) := session.advance host store connection.store
      let (isTaken, connection) := { connection with store := s }.forward id outputs
      let session := if isTaken then session else session.unwatch
      let connection :=
        { connection with registry := { connection.registry with slot := .running session } }
      if session.watcher.isSome && session.pty.fanout.isClosed then
        let (isReaped, registry, s) := connection.registry.reap host store id connection.store
        let connection := { connection with registry, store := s }
        if isReaped = some true then
          { connection with outbound := (connection.outbound.send (stopNotice id)).2 }
        else connection
      else connection
  | _ => connection

/-! ## Requests -/

/-- The outcome of a request: a reply that is still to be sent, or none. A request that never comes to
    its end has no outcome. -/
abbrev Outcome (π σ : Type) := Option (Except RequestError (Option Message)) × Connection π σ

/-- The size of the terminal that a request to start a shell asks for: none if a dimension is missing or
    zero. -/
def sizeOf? (message : Message) : Option (UInt16 × UInt16) :=
  match message.word? Key.terminalWidth, message.word? Key.terminalHeight with
  | some cols, some rows => if 0 < cols && 0 < rows then some (cols, rows) else none
  | _, _ => none

/-- Starts a session and says so. If nobody hears of it, nobody watches it. -/
def startShell (connection : Connection π σ) (fresh : String) (message : Message) : Outcome π σ :=
  match connection.registry.spawn host store fresh (sizeOf? message) connection.store with
  | (.error error, registry, s) =>
      (some (throw (.session error)), { connection with registry, store := s })
  | (.ok (), registry, s) =>
      let connection := { connection with registry, store := s }
      match connection.outbound.send (startedReply fresh) with
      | (.ok (), outbound) => (some (pure none), { connection with outbound })
      | (.error error, _) =>
          let slot :=
            match registry.slot with
            | .running session => .running session.unwatch
            | slot => slot
          (some (throw error), { connection with registry := { registry with slot } })

/-- The session that a request is about. Without one it is about the session with the empty id, which
    does not exist. -/
def targetId (message : Message) : String :=
  message.sessionId?.getD ""

def typeInput (connection : Connection π σ) (message : Message) : Outcome π σ :=
  let (result, registry) := connection.registry.write host (targetId message) message.body
  (some ((result.map fun _ => none).mapError .session), { connection with registry })

def resizeTerminal (connection : Connection π σ) (message : Message) : Outcome π σ :=
  match message.word? Key.terminalWidth, message.word? Key.terminalHeight with
  | none, _ => (some (throw (.missingProperty Key.terminalWidth)), connection)
  | _, none => (some (throw (.missingProperty Key.terminalHeight)), connection)
  | some cols, some rows =>
      let (result, registry) := connection.registry.resize host (targetId message) cols rows
      (some ((result.map fun _ => none).mapError .session), { connection with registry })

def stopShell (connection : Connection π σ) (message : Message) : Outcome π σ :=
  let id := targetId message
  let (result, outputs, registry, s) := connection.registry.stop host store id connection.store
  let isStuck := connection.isStuck || result.isNone
  let (_, connection) := { connection with registry, store := s, isStuck }.forward id outputs
  let reply := (Message.responseTo message).withStatus .normal
  (result.map fun result => (result.map fun _ => some reply).mapError .session, connection)

/-- Does what a message asks for. A session that it starts gets the id `fresh`. -/
def route (connection : Connection π σ) (fresh : String) (message : Message) : Outcome π σ :=
  if message.proto = Proto.shell then
    if message.typ = Kind.spawn then connection.startShell host store fresh message
    else if message.typ = Kind.shell then connection.typeInput host message
    else if message.typ = Kind.stop then connection.stopShell host store message
    else if message.typ = Kind.resize then connection.resizeTerminal host message
    else (some (throw (.unknownType Proto.shell message.typ)), connection)
  else if message.proto = Proto.control then
    if message.typ = Kind.ping then (some (pure (some (pongReply message.body))), connection)
    else if message.typ = Kind.pong then (some (pure none), connection)
    else (some (throw (.unknownType Proto.control message.typ)), connection)
  else (some (throw (.unknownProto message.proto)), connection)

/-- Sends a reply. -/
def send (connection : Connection π σ) (message : Message) :
    Option (Except RequestError Unit) × Connection π σ :=
  let (result, outbound) := connection.outbound.send message
  (some result, { connection with outbound })

/-- The reply to bytes that are no message. What can be told of the request is repeated. -/
def malformedReply (bytes : Bytes) (error : ProtocolError) : Message :=
  let (proto, typ) := (Message.decodeHeader? bytes).getD (0, "")
  (RequestError.malformed error).reply proto typ none

/-- Handles what has arrived. Every failure is answered; only a channel that is closed is an error.
    There is no result if this never comes to its end. -/
def handle (connection : Connection π σ) (fresh : String) (bytes : Bytes) :
    Option (Except RequestError Unit) × Connection π σ :=
  match Message.decode bytes with
  | .error error => connection.send (malformedReply bytes error)
  | .ok message =>
      match connection.route host store fresh message with
      | (none, connection) => (none, connection)
      | (some (.ok none), connection) => (some (pure ()), connection)
      | (some (.ok (some reply)), connection) => connection.send reply
      | (some (.error .channelClosed), connection) => (some (throw .channelClosed), connection)
      | (some (.error error), connection) =>
          connection.send (error.reply message.proto message.typ message.sessionId?)

/-- Ends the connection: nobody watches any more, and the session is stopped. A connection that waits
    for something that never comes does not end. -/
def shutdown (connection : Connection π σ) : Connection π σ :=
  if connection.isStuck then connection
  else
    let slot :=
      match connection.registry.slot with
      | .running session => .running session.unwatch
      | slot => slot
    let (ended, registry, s) := { connection.registry with slot }.shutdown host store connection.store
    { connection with registry, store := s, isStuck := ended.isNone }

end Connection

end TerminalAgent
