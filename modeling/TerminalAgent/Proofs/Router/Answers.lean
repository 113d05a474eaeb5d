import TerminalAgent.Proofs.Router.Replies
import TerminalAgent.Proofs.Router.Requests
import TerminalAgent.Recording.MemoryStore

/-! # How messages are answered

Whatever arrives is handled while somebody takes replies. Only accepted input, an accepted resize and a
pong go without a reply. A reply repeats namespace and type of its request and says whether the request
failed. There is one exception: a request to stop a shell that cannot be killed waits for its recorder,
and if the output of the shell never ends, it does not come to its end either.
-/

namespace TerminalAgent

namespace RequestError

variable (error : RequestError) (proto : UInt16) (typ : String) (id? : Option String)

theorem reply_proto : (error.reply proto typ id?).proto = proto := by
  cases error <;> cases id? <;> rfl

theorem reply_typ : (error.reply proto typ id?).typ = typ := by
  cases error <;> cases id? <;> rfl

theorem reply_status? : (error.reply proto typ id?).status? = some .error := by
  cases error <;> cases id? <;> simp [reply, Message.errorReply]

/-- A failed request is answered about the session that it named, and about none if it named none. -/
theorem reply_session : (error.reply proto typ id?).property? Key.sessionId = id?.map .text := by
  have differs : Key.sessionId ≠ Key.status := by decide
  cases error <;> cases id? <;>
    simp [reply, Message.errorReply, Message.property?, Message.withSessionId, Message.withBody,
      Message.withStatus, Message.withProperty, Message.new, differs]

end RequestError

namespace Message

end Message

namespace Connection

variable {π σ : Type} (host : Host π) (store : RecordingStore σ)

/-- What is wrong with a message, or with what it asks for. -/
inductive Refused (connection : Connection π σ) (fresh : String) (message : Message) : Prop
  | proto (notShell : message.proto ≠ Proto.shell) (notControl : message.proto ≠ Proto.control)
  | request (proto : message.proto = Proto.shell)
      (unknown : message.typ ∉ [Kind.spawn, Kind.shell, Kind.stop, Kind.resize])
  | control (proto : message.proto = Proto.control) (unknown : message.typ ∉ [Kind.ping, Kind.pong])
  | property (proto : message.proto = Proto.shell) (typ : message.typ = Kind.resize)
      (missing : message.word? Key.terminalWidth = none ∨ message.word? Key.terminalHeight = none)
  | operation {request : Registry.Request} (proto : message.proto = Proto.shell)
      (asks : Asks fresh message request) {error : SessionError}
      (failed : (connection.registry.serve host store connection.store request).1 =
        some (.failed error))

section
variable {host store} {connection : Connection π σ} {fresh : String} {message : Message}

theorem Asks.unique {request other : Registry.Request} (asks : Asks fresh message request)
    (also : Asks fresh message other) : other = request := by
  cases asks with
  | spawn typ | input typ | stop typ =>
      cases also with
      | spawn same | input same | stop same =>
          first | rfl | exact absurd (typ.symm.trans same) (by decide)
      | resize same => exact absurd (typ.symm.trans same) (by decide)
  | resize typ width height =>
      cases also with
      | spawn same | input same | stop same => exact absurd (typ.symm.trans same) (by decide)
      | resize _ sameWidth sameHeight =>
          rw [width] at sameWidth
          rw [height] at sameHeight
          cases sameWidth
          cases sameHeight
          rfl

/-- A reply has status error if and only if the operation failed. -/
theorem replyTo_status {request : Registry.Request} {reply : Registry.Reply} {answer : Message}
    (h : replyTo message request reply = some answer) :
    answer.status? = some .error ↔ ∃ error, reply = .failed error := by
  cases reply with
  | failed error =>
      have same : (RequestError.session error).reply message.proto message.typ
          message.sessionId? = answer := by
        cases request <;> exact Option.some.inj h
      rw [← same]
      exact iff_of_true (RequestError.reply_status? _ _ _ _) ⟨error, rfl⟩
  | exited code =>
      cases request with
      | stop id =>
          cases h
          exact iff_of_false (by simp) nofun
      | spawn | write | resize | reap | shutdown => cases h
  | done =>
      cases request with
      | spawn id =>
          cases h
          exact iff_of_false (by simp [startedReply]) nofun
      | write | resize | stop | reap | shutdown => cases h
  | reaped => cases request <;> cases h

end

/-! ## Whatever arrives -/

/-- What the pump sends while bytes are handled: the last output of a session that they stop. -/
def pumped (connection : Connection π σ) (fresh : String) (bytes : Bytes) : List Message :=
  match Message.decode bytes with
  | .ok message => (request? fresh message).elim [] (connection.lastOutputs host store)
  | .error _ => []

end Connection

end TerminalAgent
