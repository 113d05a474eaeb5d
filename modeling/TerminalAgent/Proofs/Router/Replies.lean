import TerminalAgent.Proofs.SortedMap
import TerminalAgent.Router.Basic

/-! # Which messages carry output

Only what is put out by a shell is sent as its output: no reply and no notice can be taken for it.
-/

namespace TerminalAgent

namespace Message

variable (m : Message) (status : Status) (id : String) (body : Bytes)

@[simp] theorem proto_withStatus : (m.withStatus status).proto = m.proto := rfl

@[simp] theorem proto_withSessionId : (m.withSessionId id).proto = m.proto := rfl

@[simp] theorem proto_withBody : (m.withBody body).proto = m.proto := rfl

@[simp] theorem typ_withStatus : (m.withStatus status).typ = m.typ := rfl

@[simp] theorem typ_withSessionId : (m.withSessionId id).typ = m.typ := rfl

@[simp] theorem typ_withBody : (m.withBody body).typ = m.typ := rfl

@[simp] theorem status?_withStatus : (m.withStatus status).status? = some status := by
  simp [status?, text?, property?, withStatus, withProperty, Property.text?, Status.ofWord?_word]

@[simp] theorem status?_withSessionId : (m.withSessionId id).status? = m.status? := by
  have differs : Key.status ≠ Key.sessionId := by decide
  simp [status?, text?, property?, withSessionId, withProperty, differs]

@[simp] theorem status?_withBody : (m.withBody body).status? = m.status? := rfl

@[simp] theorem sessionId?_withSessionId : (m.withSessionId id).sessionId? = some id := by
  simp [sessionId?, text?, property?, withSessionId, withProperty, Property.text?]

@[simp] theorem sessionId?_withBody : (m.withBody body).sessionId? = m.sessionId? := rfl

@[simp] theorem sessionId?_withStatus : (m.withStatus status).sessionId? = m.sessionId? := by
  have differs : Key.sessionId ≠ Key.status := by decide
  simp [sessionId?, text?, property?, withStatus, withProperty, differs]

/-- A reply names the session that its request named. -/
theorem sessionId?_responseTo (request : Message) :
    (responseTo request).sessionId? = request.sessionId? := by
  unfold responseTo
  split
  next named => rw [sessionId?_withSessionId, named]
  next unnamed =>
    rw [unnamed]
    rfl

theorem typ_responseTo (request : Message) : (responseTo request).typ = request.typ := by
  unfold responseTo
  split <;> rfl

end Message

namespace Connection

variable {π σ : Type} {host : Host π} {store : RecordingStore σ}

theorem isOutput_outputMessage (id : String) (output : Output) :
    isOutput (outputMessage id output) = true := by
  simp [isOutput, outputMessage, Message.new]

theorem isOutput_of_typ {message : Message} (differs : message.typ ≠ Kind.shell) :
    isOutput message = false := by
  simp [isOutput, differs]

theorem isOutput_startedReply (id : String) : isOutput (startedReply id) = false :=
  isOutput_of_typ (show Kind.spawn ≠ Kind.shell by decide)

theorem isOutput_stopNotice (id : String) : isOutput (stopNotice id) = false :=
  isOutput_of_typ (show Kind.stop ≠ Kind.shell by decide)

/-- What failed is never answered with status normal. -/
theorem isOutput_reply (error : RequestError) (proto : UInt16) (typ : String)
    (id? : Option String) : isOutput (error.reply proto typ id?) = false := by
  have failed : (error.reply proto typ id?).status? = some .error := by
    cases error <;> cases id? <;> simp [RequestError.reply, Message.errorReply]
  simp [isOutput, failed]

section
variable {connection : Connection π σ} {fresh : String} {message reply : Message}

theorem startShell_reply :
    (connection.startShell host store fresh message).1 ≠ some (.ok (some reply)) := by
  intro routed
  unfold startShell at routed
  split at routed
  next => cases routed
  next => dsimp only at routed; split at routed <;> cases routed

theorem typeInput_reply : (connection.typeInput host message).1 ≠ some (.ok (some reply)) := by
  intro routed
  simp only [typeInput] at routed
  cases done : (connection.registry.write host (targetId message) message.body).1 <;>
    rw [done] at routed <;> cases routed

theorem resizeTerminal_reply :
    (connection.resizeTerminal host message).1 ≠ some (.ok (some reply)) := by
  intro routed
  unfold resizeTerminal at routed
  split at routed
  next => cases routed
  next => cases routed
  next cols rows _ _ =>
    dsimp only at routed
    cases done : (connection.registry.resize host (targetId message) cols rows).1 <;>
      rw [done] at routed <;> cases routed

theorem stopShell_reply
    (routed : (connection.stopShell host store message).1 = some (.ok (some reply))) :
    reply = (Message.responseTo message).withStatus .normal := by
  simp only [stopShell] at routed
  cases done : (connection.registry.stop host store (targetId message) connection.store).1 with
  | none =>
      rw [done] at routed
      cases routed
  | some result =>
      rw [done] at routed
      cases result with
      | ok code =>
          cases routed
          rfl
      | error error => cases routed

/-- Only requests to stop a shell and pings are answered when they were carried out. -/
theorem reply_of_route
    (routed : (connection.route host store fresh message).1 = some (.ok (some reply))) :
    message.typ = Kind.stop ∧ reply = (Message.responseTo message).withStatus .normal ∨
      reply = pongReply message.body := by
  unfold route at routed
  split at routed
  next =>
    split at routed
    next => exact absurd routed startShell_reply
    next =>
      split at routed
      next => exact absurd routed typeInput_reply
      next =>
        split at routed
        next stops => exact .inl ⟨stops, stopShell_reply routed⟩
        next =>
          split at routed
          next => exact absurd routed resizeTerminal_reply
          next => cases routed
  next =>
    split at routed
    next =>
      split at routed
      next =>
        cases routed
        exact .inr rfl
      next => split at routed <;> cases routed
    next => cases routed

theorem isOutput_of_route
    (routed : (connection.route host store fresh message).1 = some (.ok (some reply))) :
    isOutput reply = false := by
  rcases reply_of_route routed with ⟨stops, rfl⟩ | rfl
  · apply isOutput_of_typ
    rw [Message.typ_withStatus, Message.typ_responseTo, stops]
    decide
  · exact isOutput_of_typ (show Kind.pong ≠ Kind.shell by decide)

end

end Connection

end TerminalAgent
