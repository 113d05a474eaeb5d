import TerminalAgent.Proofs.Router.Requests

/-! # A connection whose tasks take turns

A connection is served by a router, which handles one message at a time, and by a pump for each session
that was started. They share the registry and what is sent, while sessions go on by themselves. One
action is one step of one of them, so that a list of actions is one way in which the steps can be
interleaved. A step that cannot be taken changes nothing.
-/

namespace TerminalAgent

/-! ## Sessions -/

namespace RunningSession

variable {π σ : Type}

/-- What a session does on its own. -/
inductive Deed (π : Type) where
  /-- The shell goes on, and its terminal may change. -/
  | work (process : π) (cols rows : UInt16)
  /-- The reader publishes, or goes on with a publication that waits: the fan-out becomes this one. -/
  | publish (fanout : Fanout)
  /-- The reader comes to the end of the output. -/
  | endOutput
  /-- The recorder takes what is in its queue, or writes it: it becomes this one. -/
  | record (recorder : Recorder) (fanout : Fanout)
  /-- The recorder sees the end of the output and finishes. -/
  | finishRecording

def perform (store : RecordingStore σ) (session : RunningSession π) (s : σ) :
    Deed π → RunningSession π × σ
  | .work process cols rows =>
      ({ session with pty := { session.pty with process, cols, rows } }, s)
  | .publish fanout => ({ session with pty := { session.pty with fanout } }, s)
  | .endOutput => ({ session with pty := session.pty.finishReading }, s)
  | .record recorder fanout =>
      match session.recorder with
      | none => (session, s)
      | some (_, id) =>
          ({ session with pty := { session.pty with fanout }, recorder := some (recorder, id) }, s)
  | .finishRecording =>
      match session.recorder with
      | none => (session, s)
      | some (_, id) =>
          if (session.pty.fanout.receive id).1 = .ended then session.finishRecording store s
          else (session, s)

/-- A session that takes no more input and whose recording is finished. -/
structure Quiet (session : RunningSession π) : Prop where
  stopped : session.pty.isRunning = false
  recorded : session.recorder = none

/-- What is done to sessions while they are not started, stopped or retired. -/
structure Tame (f : RunningSession π → RunningSession π) : Prop where
  id : ∀ session, (f session).pty.id = session.pty.id
  stopped : ∀ session, session.pty.isRunning = false → (f session).pty.isRunning = false
  recorded : ∀ session, session.recorder = none → (f session).recorder = none

theorem Tame.quiet {f : RunningSession π → RunningSession π} (tame : Tame f)
    {session : RunningSession π} (quiet : session.Quiet) : (f session).Quiet :=
  ⟨tame.stopped session quiet.stopped, tame.recorded session quiet.recorded⟩

theorem tame_perform (store : RecordingStore σ) (s : σ) (deed : Deed π) :
    Tame fun session => (session.perform store s deed).1 := by
  cases deed with
  | work | publish => exact ⟨fun _ => rfl, fun _ stopped => stopped, fun _ recorded => recorded⟩
  | endOutput => exact ⟨fun _ => rfl, fun _ _ => rfl, fun _ recorded => recorded⟩
  | record recorder fanout =>
      constructor
      case id => intro session; simp only [perform]; split <;> rfl
      case stopped => intro session stopped; simp only [perform]; split <;> exact stopped
      case recorded => intro session recorded; simp only [perform, recorded]
  | finishRecording =>
      constructor
      case id =>
        intro session
        simp only [perform]
        split
        next => rfl
        next found =>
          split
          next => simp only [RunningSession.finishRecording, found]
          next => rfl
      case stopped =>
        intro session stopped
        simp only [perform]
        split
        next => exact stopped
        next found =>
          split
          next => simpa only [RunningSession.finishRecording, found] using stopped
          next => exact stopped
      case recorded => intro session recorded; simp only [perform, recorded]

theorem tame_unwatch : Tame (unwatch (π := π)) where
  id session := by unfold unwatch; split <;> rfl
  stopped session stopped := by unfold unwatch; split <;> exact stopped
  recorded session recorded := by unfold unwatch; split <;> exact recorded

theorem tame_fanout (fanout : Fanout) :
    Tame fun session : RunningSession π => { session with pty := { session.pty with fanout } } :=
  ⟨fun _ => rfl, fun _ stopped => stopped, fun _ recorded => recorded⟩

theorem tame_operate (host : Host π) (request : Registry.Request) :
    Tame fun session : RunningSession π =>
      { session with pty := (request.operate host session.pty).2 } where
  id session := request.operate_id host session.pty
  stopped session stopped := by
    cases request with
    | write id data =>
        simp only [Registry.Request.operate, PtySession.write, stopped]
        exact stopped
    | resize id cols rows =>
        simp only [Registry.Request.operate, PtySession.resize, stopped]
        exact stopped
    | spawn | stop | reap | shutdown => exact stopped
  recorded _ recorded := recorded

end RunningSession

namespace Registry.Shared

variable {π σ : Type}

/-- Changes the session with this id, which may have been retired. -/
def alter (shared : Shared π σ) (id : String) (f : RunningSession π → RunningSession π) :
    Shared π σ :=
  match shared.registry.slot.find? id with
  | some session =>
      { shared with registry := { shared.registry with slot := .running (f session) } }
  | none =>
      { shared with
        retired := shared.retired.map fun session =>
          if session.pty.id = id then f session else session }

/-- The reply of the call with this number, once it has ended. -/
def reply? (shared : Shared π σ) (n : Nat) : Option Reply :=
  match shared.calls[n]? with
  | some ⟨_, _, .ended reply⟩ => some reply
  | _ => none

@[simp] theorem calls_alter (shared : Shared π σ) (id : String)
    (f : RunningSession π → RunningSession π) : (shared.alter id f).calls = shared.calls := by
  unfold alter
  split <;> rfl

theorem reply?_eq_some {shared : Shared π σ} {n : Nat} {reply : Reply} (h : shared.reply? n = some reply) :
    ∃ call, shared.calls[n]? = some call ∧ call.stage = .ended reply := by
  unfold reply? at h
  split at h
  next found =>
    cases h
    exact ⟨_, found, rfl⟩
  next => cases h

end Registry.Shared

/-! ## Tasks -/

namespace Connection

/-- What is to be done about bytes that arrive. -/
inductive Intake where
  /-- They are answered at once, or need no answer. -/
  | answer (reply? : Option Message)
  /-- They are a message that asks for an operation. -/
  | ask (message : Message) (request : Registry.Request)

def intake (fresh : String) (bytes : Bytes) : Intake :=
  match Message.decode bytes with
  | .error error => .answer (some (malformedReply bytes error))
  | .ok message =>
      match fault? message with
      | some error => .answer (some (error.reply message.proto message.typ message.sessionId?))
      | none =>
          match request? fresh message with
          | some request => .ask message request
          | none => .answer (plainReply? message)

end Connection

/-- How far the router has come with a message. -/
inductive Routing where
  /-- It waits for a message. -/
  | listening
  /-- It waits for the call with this number, for which the message asked. -/
  | calling (n : Nat) (message : Message) (request : Registry.Request)
  /-- It is about to say that a session was started. -/
  | announcing (id : String)
  /-- It is about to send a reply. -/
  | replying (reply : Message)
  /-- The connection ends, and the pumps are waited for. -/
  | closing
  /-- It waits for the call with this number, which stops whatever runs. -/
  | stopping (n : Nat)
  /-- The connection has ended. -/
  | complete
  deriving DecidableEq

namespace Routing

/-- What follows when there is a reply to send, or none. -/
def toSend : Option Message → Routing
  | some reply => replying reply
  | none => listening

/-- What follows when an operation has ended. -/
def concluded (message : Message) : Registry.Request → Registry.Reply → Routing
  | .spawn id _, .done => announcing id
  | request, reply => toSend (Connection.replyTo message request reply)

end Routing

/-- How far the pump of a session has come. -/
inductive PumpStage where
  | waiting
  /-- About to send a piece of output. -/
  | sending (output : Output)
  /-- It has seen the end of the output. -/
  | finished
  /-- It waits for the call with this number, which retires the session. -/
  | reaping (n : Nat)
  /-- About to give notice that the shell has ended. -/
  | notifying
  | left
  deriving DecidableEq

/-- The pump of a session. -/
structure PumpTask where
  id : String
  /-- What its subscription has yielded, oldest first. -/
  taken : List Output
  /-- What it has sent of that. -/
  sent : List Output
  stage : PumpStage
  deriving DecidableEq

namespace PumpTask

/-- The pump of a session that was just announced. -/
def new (id : String) : PumpTask := ⟨id, [], [], .waiting⟩

def goTo (task : PumpTask) (stage : PumpStage) : PumpTask :=
  { task with stage }

/-- It has taken a piece of output. -/
def take (task : PumpTask) (output : Output) : PumpTask :=
  { task with taken := task.taken ++ [output], stage := .sending output }

/-- It has sent a piece of output. -/
def send (task : PumpTask) (output : Output) : PumpTask :=
  { task with sent := task.sent ++ [output], stage := .waiting }

end PumpTask

inductive Sender where
  | router
  | pump
  deriving Repr, DecidableEq

/-- A message that was sent, and who has sent it. -/
structure Posting where
  sender : Sender
  message : Message
  deriving Repr, DecidableEq

/-- A connection with its tasks. -/
structure LiveConnection (π σ : Type) where
  shared : Registry.Shared π σ
  /-- How the shells have ended that calls have stopped, by the number of the call. -/
  exits : List (Nat × Except SessionError Nat)
  outbound : Outbound
  /-- Everything that was sent, oldest first. -/
  log : List Posting
  routing : Routing
  /-- The pumps so far, in the order in which they began. -/
  pumps : List PumpTask
  /-- Whether the pumps are told to leave. -/
  isCancelled : Bool

namespace LiveConnection

variable {π σ : Type} (store : RecordingStore σ)

def new (spec : ShellSpec) (recording : Option RecorderSettings) (s : σ) : LiveConnection π σ where
  shared := ⟨.new spec recording, s, [], []⟩
  exits := []
  outbound := .new
  log := []
  routing := .listening
  pumps := []
  isCancelled := false

/-- Something is sent. -/
def post (live : LiveConnection π σ) (sender : Sender) (message : Message) : LiveConnection π σ :=
  { live with
    outbound := { live.outbound with sent := live.outbound.sent ++ [message] }
    log := live.log ++ [⟨sender, message⟩] }

def setPump (live : LiveConnection π σ) (n : Nat) (task : PumpTask) : LiveConnection π σ :=
  { live with pumps := live.pumps.set n task }

/-- A task begins a call. -/
def begin (live : LiveConnection π σ) (request : Registry.Request) : LiveConnection π σ :=
  { live with shared := live.shared.begin request }

/-- The session with this id changes. -/
def alter (live : LiveConnection π σ) (id : String) (f : RunningSession π → RunningSession π) :
    LiveConnection π σ :=
  { live with shared := live.shared.alter id f }

/-- The connection ends: its pumps are told to leave. -/
def close (live : LiveConnection π σ) : LiveConnection π σ :=
  { live with routing := .closing, isCancelled := true }

/-! ## Calls -/

/-- A call goes on that finishes a session: it stops the shell, then it detaches all subscribers, and
    then it waits for the recording. -/
def finish (live : LiveConnection π σ) (host : Host π) (n : Nat) (call : Registry.Call π) (place : Nat)
    (session : RunningSession π) : LiveConnection π σ :=
  match live.exits.lookup n with
  | none =>
      let (result, pty) := session.pty.stop host
      { live with
        shared := { live.shared with retired := live.shared.retired.set place { session with pty } }
        exits := live.exits ++ [(n, result)] }
  | some result =>
      if result.toOption.isSome && !session.pty.fanout.isClosed then
        { live with
          shared := { live.shared with
            retired := live.shared.retired.set place { session with pty := session.pty.close } } }
      else if session.isAwaited then live
      else { live with shared := live.shared.settle n call (call.request.outcome result) }

/-- The call with this number goes on. -/
def resume (live : LiveConnection π σ) (n : Nat) (host : Host π) : LiveConnection π σ :=
  match live.shared.calls[n]? with
  | none => live
  | some call =>
      match call.stage with
      | .spawning _ _ _ => { live with shared := live.shared.resume store host n }
      | .using id =>
          match live.shared.session? id with
          | none => live
          | some session =>
              let (result, _) := call.request.operate host session.pty
              let altered := live.shared.alter id fun session =>
                { session with pty := (call.request.operate host session.pty).2 }
              { live with shared := altered.settle n call (.of result) }
      | .finishing place =>
          match live.shared.retired[place]? with
          | none => live
          | some session => live.finish host n call place session
      | .ended _ => live

/-! ## The router -/

/-- A message arrives. -/
def arrive (live : LiveConnection π σ) (fresh : String) (bytes : Bytes) : LiveConnection π σ :=
  if live.routing = .listening then
    match Connection.intake fresh bytes with
    | .answer reply? => { live with routing := .toSend reply? }
    | .ask message request =>
        { live.begin request with routing := .calling live.shared.calls.length message request }
  else live

/-- The router goes on. -/
def route (live : LiveConnection π σ) : LiveConnection π σ :=
  match live.routing with
  | .listening | .complete => live
  | .calling n message request =>
      match live.shared.reply? n with
      | none => live
      | some reply => { live with routing := .concluded message request reply }
  | .announcing id =>
      if live.outbound.isOpen then
        { live.post .router (Connection.startedReply id) with
          routing := .listening, pumps := live.pumps ++ [.new id] }
      else (live.alter id RunningSession.unwatch).close
  | .replying reply =>
      if live.outbound.isOpen then { live.post .router reply with routing := .listening }
      else live.close
  | .closing =>
      if live.pumps.all (·.stage = .left) then
        { live.begin .shutdown with routing := .stopping live.shared.calls.length }
      else live
  | .stopping n =>
      match live.shared.reply? n with
      | none => live
      | some _ => { live with routing := .complete }

/-! ## The pumps -/

/-- A pump gives up, and its receiver is gone. -/
def dismiss (live : LiveConnection π σ) (n : Nat) (task : PumpTask) : LiveConnection π σ :=
  (live.alter task.id RunningSession.unwatch).setPump n (task.goTo .left)

/-- A pump looks for output. -/
def take (live : LiveConnection π σ) (n : Nat) (task : PumpTask) : LiveConnection π σ :=
  match live.shared.session? task.id with
  | none => live
  | some session =>
      match session.watcher with
      | none => live
      | some id =>
          match session.pty.fanout.receive id with
          | (.item output, fanout) =>
              (live.alter task.id fun session =>
                { session with pty := { session.pty with fanout } }).setPump n (task.take output)
          | (.ended, _) => live.setPump n (task.goTo .finished)
          | (.nothing, _) => live

/-- The pump with this number goes on. -/
def pump (live : LiveConnection π σ) (n : Nat) : LiveConnection π σ :=
  match live.pumps[n]? with
  | none => live
  | some task =>
      match task.stage with
      | .waiting => live.take n task
      | .sending output =>
          if live.outbound.isOpen then
            (live.post .pump (Connection.outputMessage task.id output)).setPump n (task.send output)
          else live.dismiss n task
      | .finished =>
          (live.begin (.reap task.id)).setPump n (task.goTo (.reaping live.shared.calls.length))
      | .reaping m =>
          match live.shared.reply? m with
          | none => live
          | some (.reaped true) => live.setPump n (task.goTo .notifying)
          | some _ => live.setPump n (task.goTo .left)
      | .notifying =>
          if live.outbound.isOpen then
            (live.post .pump (Connection.stopNotice task.id)).setPump n (task.goTo .left)
          else live.setPump n (task.goTo .left)
      | .left => live

/-- The pump with this number sees that it is told to leave. -/
def leave (live : LiveConnection π σ) (n : Nat) : LiveConnection π σ :=
  if live.isCancelled then
    match live.pumps[n]? with
    | none => live
    | some task =>
        match task.stage with
        | .waiting | .sending _ => live.dismiss n task
        | _ => live
  else live

/-- A session goes on by itself. -/
def progress (live : LiveConnection π σ) (id : String) (deed : RunningSession.Deed π) :
    LiveConnection π σ :=
  match live.shared.session? id with
  | none => live
  | some session =>
      let altered := live.shared.alter id fun session =>
        (session.perform store live.shared.store deed).1
      { live with
        shared := { altered with store := (session.perform store live.shared.store deed).2 } }

/-! ## Runs -/

/-- What may happen while a connection is served. -/
inductive Action (π σ : Type) where
  /-- A message arrives. A session that it starts gets the id `fresh`. -/
  | arrive (fresh : String) (bytes : Bytes)
  | route
  /-- The call with this number goes on. The host may do something else every time. -/
  | resume (n : Nat) (host : Host π)
  | pump (n : Nat)
  | leave (n : Nat)
  | progress (id : String) (deed : RunningSession.Deed π)
  /-- Others use the store. -/
  | useStore (s : σ)
  /-- What was sent is taken from the channel. -/
  | takeSent
  /-- Nobody takes messages any more. -/
  | hangUp
  /-- The peer is gone, or the agent ends the connection. -/
  | shutdown

def step (live : LiveConnection π σ) : Action π σ → LiveConnection π σ
  | .arrive fresh bytes => live.arrive fresh bytes
  | .route => live.route
  | .resume n host => live.resume store n host
  | .pump n => live.pump n
  | .leave n => live.leave n
  | .progress id deed => live.progress store id deed
  | .useStore s => { live with shared := { live.shared with store := s } }
  | .takeSent => { live with outbound := { live.outbound with sent := [] } }
  | .hangUp => { live with outbound := live.outbound.hangUp }
  | .shutdown => if live.routing = .listening then live.close else live

/-- A connection after these actions. -/
def run (live : LiveConnection π σ) (actions : List (Action π σ)) : LiveConnection π σ :=
  actions.foldl (step store) live

end LiveConnection

end TerminalAgent
