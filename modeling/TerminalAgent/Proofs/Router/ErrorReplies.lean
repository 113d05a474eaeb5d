import TerminalAgent.Proofs.Message.ErrorBody
import TerminalAgent.Proofs.Message.RoundTrip
import TerminalAgent.Proofs.Router.Answers
import TerminalAgent.Proofs.Text.Characters

/-! # Replies to failed requests are read back

The reply to a failed request is a message, and where no session operation failed its body is an error
body, so two codecs are undone one after the other. What went wrong is said in the same words on both
sides.
-/

namespace TerminalAgent

open MessagePack

/-- Both texts of an error body are among its bytes, so they are short enough if the whole is. -/
theorem ErrorBody.fits_of_length {body : ErrorBody} (short : body.encode.length < 0x100000000) :
    body.Fits := by
  obtain ⟨err, proto, typ⟩ := body
  simp only [encode, Writer.record, Writer.text, List.flatMap_append, List.flatMap_cons,
    List.length_append] at short
  refine ⟨show (Utf8.encode err).length < 0x100000000 by omega, ?_⟩
  rintro typ ⟨⟩
  simp only [Option.map_some, Option.toList_some, List.flatMap_singleton, List.length_append] at short
  omega

/-! ## What is said -/

theorem SessionError.message_ne_empty (error : SessionError) : error.message ≠ "" := by
  cases error with
  | alreadyRunning => decide
  | notFound id => exact append_ne_empty (by decide) id
  | spawnFailed reason | writeFailed reason | resizeFailed reason | killFailed reason | io reason =>
      exact append_ne_empty (by decide) reason

namespace RequestError

theorem message_ne_empty (error : RequestError) : error.message ≠ "" := by
  cases error with
  | session error => exact error.message_ne_empty
  | malformed error => exact append_ne_empty (by decide) error.message
  | unknownType proto typ => exact append_ne_empty (append_ne_empty (append_ne_empty (by decide) _) _) _
  | unknownProto proto => exact append_ne_empty (by decide) _
  | missingProperty key => exact append_ne_empty (by decide) key
  | channelClosed => decide

/-- The body of a reply says what went wrong with a request: as plain text where a session operation
    failed, in an error body about the request everywhere else. -/
def SaidIn (error : RequestError) (proto : UInt16) (typ : String) (body : Bytes) : Prop :=
  match error with
  | session failure =>
      body = Utf8.encode ((if typ = "new" then "failed to start shell: " else "") ++ failure.message)
  | other => ∃ said, ErrorBody.decode body = .ok said ∧ said.err = other.message ∧ said.err ≠ "" ∧
      said.proto = some proto ∧ said.typ = some typ

variable {error : RequestError} {proto : UInt16} {typ : String} {id? : Option String}

theorem sessionText_eq (failure : SessionError) (typ : String) : sessionText typ failure =
    (if typ = "new" then "failed to start shell: " else "") ++ failure.message := by
  unfold sessionText Kind.spawn
  split
  next => rfl
  next => rw [String.empty_append]

theorem reply_saidIn
    (bodyShort : (error.reply proto typ id?).body.length < 0x100000000) :
    error.SaidIn proto typ (error.reply proto typ id?).body := by
  have structured (err : String) (some_ : err ≠ "") {body : Bytes}
      (encoded : body = ErrorBody.encode ⟨err, some proto, some typ⟩)
      (short : body.length < 0x100000000) :
      ∃ said, ErrorBody.decode body = .ok said ∧ said.err = err ∧ said.err ≠ "" ∧
        said.proto = some proto ∧ said.typ = some typ := by
    subst encoded
    exact ⟨_, ErrorBody.decode_encode (ErrorBody.fits_of_length short), rfl, some_, rfl, rfl⟩
  cases error with
  | session failure =>
      have said := sessionText_eq failure typ
      cases id? <;> exact congrArg Utf8.encode said
  | malformed | unknownType | unknownProto | missingProperty | channelClosed =>
      refine structured _ (message_ne_empty _) ?_ bodyShort
      cases id? <;> rfl

/-! ## The whole reply -/

variable (error proto typ id?) in
/-- The properties of a reply are its status and the session that it is about. -/
theorem reply_entries : (error.reply proto typ id?).props.entries =
    (id?.map fun id => (Key.sessionId, Property.text id)).toList ++
      [(Key.status, .text Status.error.word)] := by
  cases error <;> cases id? <;> rfl

variable (error proto typ id?) in
theorem reply_sessionId? : (error.reply proto typ id?).sessionId? = id? := by
  have named := error.reply_session proto typ id?
  cases id? with
  | none => simp [Message.sessionId?, Message.text?, named]
  | some id => simp [Message.sessionId?, Message.text?, named, Property.text?]

/-- The reply to a failed request is read back from its bytes: it repeats the namespace, the type and the
    session of the request, has status error, and says what went wrong. So is every error body. -/
theorem reply_survives (error : RequestError) (proto : UInt16) (typ : String) (id? : Option String)
    (typShort : (Utf8.encode typ).length < 0x100000000)
    (idShort : ∀ id ∈ id?, (Utf8.encode id).length < 0x100000000)
    (bodyShort : (error.reply proto typ id?).body.length < 0x100000000) :
    (∃ reply, Message.decode (error.reply proto typ id?).encode = .ok reply ∧
      reply.proto = proto ∧ reply.typ = typ ∧ reply.status? = some .error ∧ reply.sessionId? = id? ∧
      error.SaidIn proto typ reply.body) ∧
    ∀ body : ErrorBody, body.Fits → ErrorBody.decode body.encode = .ok body := by
  refine ⟨⟨error.reply proto typ id?, ?_, ?_⟩, fun body fits => ErrorBody.decode_encode fits⟩
  · refine Message.decode_encode (Message.fits_of_entries id? _ (reply_entries ..) ?_ idShort ?_ bodyShort)
    · rwa [reply_typ]
    · decide
  · exact ⟨reply_proto .., reply_typ .., reply_status? .., reply_sessionId? ..,
      reply_saidIn bodyShort⟩

/-- A request that was cut short, of a type with a letter beyond ASCII in it. -/
theorem reply_survives_malformed :
    (Utf8.encode "n\u00e9w").length < 0x100000000 ∧
      ((malformed (.truncated "end")).reply 7 "n\u00e9w" (some "s-1")).body.length < 0x100000000 ∧
      ∃ reply, Message.decode ((malformed (.truncated "end")).reply 7 "n\u00e9w" (some "s-1")).encode =
          .ok reply ∧ reply.proto = 7 ∧ reply.typ = "n\u00e9w" ∧ reply.status? = some .error ∧
        reply.sessionId? = some "s-1" ∧
        ∃ said, ErrorBody.decode reply.body = .ok said ∧
          said.err = "malformed message: truncated input: end" ∧ said.err ≠ "" ∧
          said.proto = some 7 ∧ said.typ = some "n\u00e9w" := by
  have typShort : (Utf8.encode "n\u00e9w").length < 0x100000000 := by decide
  have idShort : ∀ id ∈ some "s-1", (Utf8.encode id).length < 0x100000000 := by
    rintro _ ⟨⟩
    decide
  have bodyShort : ((malformed (.truncated "end")).reply 7 "n\u00e9w" (some "s-1")).body.length <
      0x100000000 := by decide
  exact ⟨typShort, bodyShort, (reply_survives _ 7 "n\u00e9w" (some "s-1") typShort idShort bodyShort).1⟩

end RequestError

end TerminalAgent
