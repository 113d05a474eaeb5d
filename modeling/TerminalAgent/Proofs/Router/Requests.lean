import TerminalAgent.Proofs.Router.Schedule
import TerminalAgent.Proofs.Session.Calls

/-! # What messages ask for

A message is at fault in itself, or it asks for an operation on the session, or it needs none. What is
sent in return depends on what the registry says.
-/

namespace TerminalAgent

/-- A host whose shells take everything and say nothing. -/
def Host.silent : Host Unit where
  launch _ := .ok ()
  write _ process := (.ok (), process)
  resize _ _ process := (.ok (), process)
  read process := ([], process)
  readToEnd? process := some ([], process)
  hasEnded _ := true
  exitCode? _ := some 0
  kill process := (.ok 0, process)
  killGroup process := process

namespace Connection

/-- The fault that a message has in itself. -/
def fault? (message : Message) : Option RequestError :=
  if message.proto = Proto.shell then
    if message.typ = Kind.spawn ∨ message.typ = Kind.shell ∨ message.typ = Kind.stop then none
    else if message.typ = Kind.resize then
      match message.word? Key.terminalWidth, message.word? Key.terminalHeight with
      | none, _ => some (.missingProperty Key.terminalWidth)
      | _, none => some (.missingProperty Key.terminalHeight)
      | some _, some _ => none
    else some (.unknownType Proto.shell message.typ)
  else if message.proto = Proto.control then
    if message.typ = Kind.ping ∨ message.typ = Kind.pong then none
    else some (.unknownType Proto.control message.typ)
  else some (.unknownProto message.proto)

/-- The operation that a message asks for. A session that it starts gets the id `fresh`. -/
def request? (fresh : String) (message : Message) : Option Registry.Request :=
  if message.proto = Proto.shell then
    if message.typ = Kind.spawn then some (.spawn fresh (sizeOf? message))
    else if message.typ = Kind.shell then some (.write (targetId message) message.body)
    else if message.typ = Kind.stop then some (.stop (targetId message))
    else if message.typ = Kind.resize then
      match message.word? Key.terminalWidth, message.word? Key.terminalHeight with
      | some cols, some rows => some (.resize (targetId message) cols rows)
      | _, _ => none
    else none
  else none

/-- The reply to a message once its operation has ended. -/
def replyTo (message : Message) : Registry.Request → Registry.Reply → Option Message
  | _, .failed error =>
      some ((RequestError.session error).reply message.proto message.typ message.sessionId?)
  | .spawn id _, .done => some (startedReply id)
  | .stop _, .exited _ => some ((Message.responseTo message).withStatus .normal)
  | _, _ => none

/-- The reply to a message for which nothing is done. -/
def plainReply? (message : Message) : Option Message :=
  if message.typ = Kind.ping then some (pongReply message.body) else none

variable {π σ : Type} (host : Host π) (store : RecordingStore σ)

/-- What the pump sends of the output of a session while an operation ends it. -/
def lastOutputs (connection : Connection π σ) : Registry.Request → List Message
  | .stop id =>
      (connection.registry.stop host store id connection.store).2.1.map (outputMessage id)
  | _ => []

/-- The connection once an operation has ended, or waits in vain for its end, and something was sent. -/
def afterwards (connection : Connection π σ) (request : Registry.Request) (replies : List Message) :
    Connection π σ :=
  let (reply?, registry, s) := connection.registry.serve host store connection.store request
  { registry
    store := s
    outbound := { connection.outbound with
      sent := connection.outbound.sent ++ connection.lastOutputs host store request ++ replies }
    isStuck := connection.isStuck || reply?.isNone }

section
variable {host store} {connection : Connection π σ} {fresh : String} {message : Message}

theorem send_open (isOpen : connection.outbound.isOpen = true) (reply : Message) :
    connection.send reply = (some (.ok ()), { connection with
      outbound := { connection.outbound with sent := connection.outbound.sent ++ [reply] } }) := by
  simp only [send, Outbound.send, isOpen, if_true]
  rfl

/-- Which messages ask for which operation. -/
inductive Asks (fresh : String) (message : Message) : Registry.Request → Prop
  | spawn (typ : message.typ = Kind.spawn) : Asks fresh message (.spawn fresh (sizeOf? message))
  | input (typ : message.typ = Kind.shell) :
      Asks fresh message (.write (targetId message) message.body)
  | stop (typ : message.typ = Kind.stop) : Asks fresh message (.stop (targetId message))
  | resize (typ : message.typ = Kind.resize) {cols rows : UInt16}
      (width : message.word? Key.terminalWidth = some cols)
      (height : message.word? Key.terminalHeight = some rows) :
      Asks fresh message (.resize (targetId message) cols rows)

theorem asks_of_request {request : Registry.Request} (h : request? fresh message = some request) :
    message.proto = Proto.shell ∧ Asks fresh message request := by
  unfold request? at h
  split at h
  next shell =>
    refine ⟨shell, ?_⟩
    split at h
    next spawn =>
      cases h
      exact .spawn spawn
    next =>
      split at h
      next input =>
        cases h
        exact .input input
      next =>
        split at h
        next stop =>
          cases h
          exact .stop stop
        next =>
          split at h
          next resize =>
            split at h
            next cols rows width height =>
              cases h
              exact .resize resize width height
            next => cases h
          next => cases h
  next => cases h

/-- What is at fault in itself is refused, and nothing is done. -/
theorem route_of_fault {error : RequestError} (h : fault? message = some error) :
    connection.route host store fresh message = (some (.error error), connection) := by
  unfold fault? at h
  unfold route
  split at h
  next shell =>
    split at h
    next => cases h
    next unknown =>
      obtain ⟨notSpawn, notInput, notStop⟩ := by simpa only [not_or] using unknown
      rw [if_pos shell, if_neg notSpawn, if_neg notInput, if_neg notStop]
      split at h
      next resize =>
        rw [if_pos resize]
        unfold resizeTerminal
        cases width : message.word? Key.terminalWidth with
        | none =>
            rw [width] at h
            cases h
            rfl
        | some cols =>
            cases height : message.word? Key.terminalHeight with
            | none =>
                rw [width, height] at h
                cases h
                rfl
            | some rows =>
                rw [width, height] at h
                cases h
      next resize =>
        rw [if_neg resize]
        cases h
        rfl
  next shell =>
    rw [if_neg shell]
    split at h
    next control =>
      split at h
      next => cases h
      next unknown =>
        obtain ⟨notPing, notPong⟩ := by simpa only [not_or] using unknown
        rw [if_pos control, if_neg notPing, if_neg notPong]
        cases h
        rfl
    next control =>
      rw [if_neg control]
      cases h
      rfl

/-- What asks for nothing on the session is a ping or a pong. -/
theorem plain_of_none (sound : fault? message = none) (h : request? fresh message = none) :
    message.proto = Proto.control ∧ (message.typ = Kind.ping ∨ message.typ = Kind.pong) := by
  unfold fault? at sound
  unfold request? at h
  split at h
  next shell =>
    rw [if_pos shell] at sound
    split at sound
    next known =>
      rcases known with spawn | input | stop
      · rw [if_pos spawn] at h
        cases h
      · have notSpawn : message.typ ≠ Kind.spawn := by rw [input]; decide
        rw [if_neg notSpawn, if_pos input] at h
        cases h
      · have notSpawn : message.typ ≠ Kind.spawn := by rw [stop]; decide
        have notInput : message.typ ≠ Kind.shell := by rw [stop]; decide
        rw [if_neg notSpawn, if_neg notInput, if_pos stop] at h
        cases h
    next unknown =>
      obtain ⟨notSpawn, notInput, notStop⟩ := by simpa only [not_or] using unknown
      split at sound
      next resize =>
        rw [if_neg notSpawn, if_neg notInput, if_neg notStop, if_pos resize] at h
        split at h
        next => cases h
        next missing =>
          split at sound
          next => cases sound
          next => cases sound
          next cols rows width height => exact absurd height (missing cols rows width)
      next => cases sound
  next shell =>
    rw [if_neg shell] at sound
    split at sound
    next control =>
      split at sound
      next known => exact ⟨control, known⟩
      next => cases sound
    next => cases sound

theorem route_of_plain (sound : fault? message = none) (h : request? fresh message = none) :
    connection.route host store fresh message = (some (.ok (plainReply? message)), connection) := by
  obtain ⟨control, ping | pong⟩ := plain_of_none sound h
  · have notShell : message.proto ≠ Proto.shell := by rw [control]; decide
    rw [route, if_neg notShell, if_pos control, if_pos ping, plainReply?, if_pos ping]
    rfl
  · have notShell : message.proto ≠ Proto.shell := by rw [control]; decide
    have notPing : message.typ ≠ Kind.ping := by rw [pong]; decide
    rw [route, if_neg notShell, if_pos control, if_neg notPing, if_pos pong, plainReply?,
      if_neg notPing]
    rfl

/-! ## Operations -/

/-- How an operation is answered, from the reply of the registry. -/
def answerOf (message : Message) :
    Registry.Request → Registry.Reply → Except RequestError (Option Message)
  | _, .failed error => .error (.session error)
  | .stop _, .exited _ => .ok (some ((Message.responseTo message).withStatus .normal))
  | _, _ => .ok none

/-- What is announced of a session that was started. -/
def announcement : Registry.Request → Registry.Reply → List Message
  | .spawn id _, .done => [startedReply id]
  | _, _ => []

/-- What comes of an operation that a message asks for, but for what is sent in reply. -/
def performed (host : Host π) (store : RecordingStore σ) (connection : Connection π σ)
    (message : Message) (request : Registry.Request) : Outcome π σ :=
  let reply? := (connection.registry.serve host store connection.store request).1
  (reply?.map (answerOf message request),
    connection.afterwards host store request (reply?.elim [] (announcement request)))

theorem startShell_eq (isOpen : connection.outbound.isOpen = true) :
    connection.startShell host store fresh message =
      connection.performed host store message (.spawn fresh (sizeOf? message)) := by
  simp only [startShell, performed, Registry.serve, afterwards, lastOutputs, List.append_nil]
  cases spawned : connection.registry.spawn host store fresh (sizeOf? message) connection.store with
  | mk result rest =>
      obtain ⟨registry, s⟩ := rest
      cases result with
      | error error =>
          simp [Registry.Reply.of, answerOf, announcement, throw, throwThe, MonadExceptOf.throw]
      | ok => simp [Outbound.send, isOpen, Registry.Reply.of, answerOf, announcement, pure, Except.pure]

theorem typeInput_eq :
    connection.typeInput host message =
      connection.performed host store message (.write (targetId message) message.body) := by
  simp only [typeInput, performed, Registry.serve, afterwards, lastOutputs, List.append_nil]
  cases connection.registry.write host (targetId message) message.body with
  | mk result registry =>
      cases result <;> simp [Registry.Reply.of, answerOf, announcement, Except.map, Except.mapError]

theorem resizeTerminal_eq {cols rows : UInt16}
    (width : message.word? Key.terminalWidth = some cols)
    (height : message.word? Key.terminalHeight = some rows) :
    connection.resizeTerminal host message =
      connection.performed host store message (.resize (targetId message) cols rows) := by
  simp only [resizeTerminal, width, height, performed, Registry.serve, afterwards, lastOutputs,
    List.append_nil]
  cases connection.registry.resize host (targetId message) cols rows with
  | mk result registry =>
      cases result <;> simp [Registry.Reply.of, answerOf, announcement, Except.map, Except.mapError]

theorem stopShell_eq (isOpen : connection.outbound.isOpen = true) :
    connection.stopShell host store message =
      connection.performed host store message (.stop (targetId message)) := by
  simp only [stopShell, performed, Registry.serve, afterwards, lastOutputs]
  rw [forward_open _ (by exact isOpen)]
  cases (connection.registry.stop host store (targetId message) connection.store).1 with
  | none => simp
  | some result =>
      cases result <;>
        simp [Registry.Request.outcome, answerOf, announcement, Except.map, Except.mapError]

/-- What a message asks for is done by the registry, and its reply decides on the answer. -/
theorem route_of_request (isOpen : connection.outbound.isOpen = true) {request : Registry.Request}
    (h : request? fresh message = some request) :
    connection.route host store fresh message = connection.performed host store message request := by
  obtain ⟨shell, asks⟩ := asks_of_request h
  rw [route, if_pos shell]
  cases asks with
  | spawn spawn =>
      rw [if_pos spawn]
      exact startShell_eq isOpen
  | input input =>
      have notSpawn : message.typ ≠ Kind.spawn := by rw [input]; decide
      rw [if_neg notSpawn, if_pos input]
      exact typeInput_eq
  | stop stop =>
      have notSpawn : message.typ ≠ Kind.spawn := by rw [stop]; decide
      have notInput : message.typ ≠ Kind.shell := by rw [stop]; decide
      rw [if_neg notSpawn, if_neg notInput, if_pos stop]
      exact stopShell_eq isOpen
  | resize resize width height =>
      have notSpawn : message.typ ≠ Kind.spawn := by rw [resize]; decide
      have notInput : message.typ ≠ Kind.shell := by rw [resize]; decide
      have notStop : message.typ ≠ Kind.stop := by rw [resize]; decide
      rw [if_neg notSpawn, if_neg notInput, if_neg notStop, if_pos resize]
      exact resizeTerminal_eq width height

/-! ## Messages -/

theorem handle_of_malformed (isOpen : connection.outbound.isOpen = true) {bytes : Bytes}
    {error : ProtocolError} (malformed : Message.decode bytes = .error error) :
    connection.handle host store fresh bytes = (some (.ok ()), { connection with
      outbound := { connection.outbound with
        sent := connection.outbound.sent ++ [malformedReply bytes error] } }) := by
  rw [handle, malformed]
  exact send_open isOpen _

theorem handle_of_fault (isOpen : connection.outbound.isOpen = true) {bytes : Bytes}
    (decoded : Message.decode bytes = .ok message) {error : RequestError}
    (h : fault? message = some error) :
    connection.handle host store fresh bytes = (some (.ok ()), { connection with
      outbound := { connection.outbound with
        sent := connection.outbound.sent ++
          [error.reply message.proto message.typ message.sessionId?] } }) := by
  have goesOn : error ≠ .channelClosed := by
    rintro rfl
    unfold fault? at h
    repeat' split at h
    all_goals cases h
  rw [handle, decoded]
  simp only [route_of_fault h]
  exact send_open isOpen _

theorem handle_of_plain (isOpen : connection.outbound.isOpen = true) {bytes : Bytes}
    (decoded : Message.decode bytes = .ok message) (sound : fault? message = none)
    (h : request? fresh message = none) :
    connection.handle host store fresh bytes = (some (.ok ()), { connection with
      outbound := { connection.outbound with
        sent := connection.outbound.sent ++ (plainReply? message).toList } }) := by
  rw [handle, decoded]
  simp only [route_of_plain sound h]
  cases plainReply? message with
  | none =>
      simp only [Option.toList, List.append_nil]
      rfl
  | some reply => exact send_open isOpen _

theorem afterwards_append (request : Registry.Request) (announced : List Message)
    (reply : Message) :
    ({ connection.afterwards host store request announced with
      outbound := { (connection.afterwards host store request announced).outbound with
        sent := (connection.afterwards host store request announced).outbound.sent ++ [reply] } } :
      Connection π σ) = connection.afterwards host store request (announced ++ [reply]) := by
  simp only [afterwards, List.append_assoc]

/-- The registry decides how a message is answered that asks for an operation. -/
theorem handle_of_request (isOpen : connection.outbound.isOpen = true) {bytes : Bytes}
    (decoded : Message.decode bytes = .ok message) {request : Registry.Request}
    (h : request? fresh message = some request) {reply : Registry.Reply}
    (served : (connection.registry.serve host store connection.store request).1 = some reply) :
    connection.handle host store fresh bytes = (some (.ok ()),
      connection.afterwards host store request (replyTo message request reply).toList) := by
  rw [handle, decoded]
  simp only [route_of_request isOpen h, performed, served, Option.map_some, Option.elim_some]
  have stillOpen (replies : List Message) :
      (connection.afterwards host store request replies).outbound.isOpen = true := isOpen
  cases reply with
  | failed error =>
      have nothing : announcement request (.failed error) = [] := by cases request <;> rfl
      have refused : answerOf message request (.failed error) = .error (.session error) := by
        cases request <;> rfl
      have answer : replyTo message request (.failed error) =
          some ((RequestError.session error).reply message.proto message.typ message.sessionId?) := by
        cases request <;> rfl
      simp only [refused, nothing, answer, send_open (stillOpen []), afterwards_append,
        List.nil_append, Option.toList]
  | exited code =>
      have nothing : announcement request (.exited code) = [] := by cases request <;> rfl
      cases request with
      | stop id =>
          simp only [answerOf, nothing, replyTo, send_open (stillOpen []), afterwards_append,
            List.nil_append, Option.toList]
      | spawn | write | resize | reap | shutdown =>
          simp only [answerOf, nothing, replyTo]
          rfl
  | done =>
      have accepted : answerOf message request .done = .ok none := by cases request <;> rfl
      have announced : announcement request .done = (replyTo message request .done).toList := by
        cases request <;> rfl
      simp only [accepted, announced]
      rfl
  | reaped retired =>
      have accepted : answerOf message request (.reaped retired) = .ok none := by
        cases request <;> rfl
      have nothing : announcement request (.reaped retired) =
          (replyTo message request (.reaped retired)).toList := by
        cases request <;> rfl
      simp only [accepted, nothing]
      rfl

/-- An operation that never comes to its end is never answered. -/
theorem handle_of_endless (isOpen : connection.outbound.isOpen = true) {bytes : Bytes}
    (decoded : Message.decode bytes = .ok message) {request : Registry.Request}
    (h : request? fresh message = some request)
    (endless : (connection.registry.serve host store connection.store request).1 = none) :
    connection.handle host store fresh bytes = (none, connection.afterwards host store request []) := by
  rw [handle, decoded]
  simp only [route_of_request isOpen h, performed, endless, Option.map_none, Option.elim_none]

/-- Whatever arrives is handled, as long as something can be sent, or waits for what never comes. -/
theorem handle_ok (isOpen : connection.outbound.isOpen = true) (bytes : Bytes) :
    ∀ result ∈ (connection.handle host store fresh bytes).1, result = .ok () := by
  rintro result handled
  cases decoded : Message.decode bytes with
  | error error =>
      rw [handle_of_malformed isOpen decoded] at handled
      exact (Option.some.inj handled).symm
  | ok message =>
      cases faulty : fault? message with
      | some error =>
          rw [handle_of_fault isOpen decoded faulty] at handled
          exact (Option.some.inj handled).symm
      | none =>
          cases asked : request? fresh message with
          | none =>
              rw [handle_of_plain isOpen decoded faulty asked] at handled
              exact (Option.some.inj handled).symm
          | some request =>
              cases served : (connection.registry.serve host store connection.store request).1 with
              | none =>
                  rw [handle_of_endless isOpen decoded asked served] at handled
                  cases handled
              | some reply =>
                  rw [handle_of_request isOpen decoded asked served] at handled
                  exact (Option.some.inj handled).symm

/-- When a message has been routed, at most a reply is still sent. -/
theorem handle_of_decoded {bytes : Bytes} (decoded : Message.decode bytes = .ok message) :
    let routed := (connection.route host store fresh message).2
    (connection.handle host store fresh bytes).2 = routed ∨
      ∃ reply, (connection.handle host store fresh bytes).2 = (routed.send reply).2 := by
  rw [handle, decoded]
  dsimp only
  split
  next routed => exact .inl (congrArg Prod.snd routed).symm
  next routed => exact .inl (congrArg Prod.snd routed).symm
  next reply _ routed => exact .inr ⟨reply, by rw [routed]⟩
  next routed => exact .inl (congrArg Prod.snd routed).symm
  next routed => exact .inr ⟨_, by rw [routed]⟩

end

end Connection

end TerminalAgent
