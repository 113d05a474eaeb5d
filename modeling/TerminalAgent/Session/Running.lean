import TerminalAgent.Recording.Recorder
import TerminalAgent.Session.Pty

/-!
# A session with its consumers

The output of a session that runs goes to a recorder, if sessions are recorded, and to whoever watches
it live. Both are attached before reading begins, so that they miss nothing.
-/

namespace TerminalAgent

/-- A session that was started and not retired. -/
structure RunningSession (π : Type) where
  pty : PtySession π
  /-- Whether its output goes to a recorder, even to one that could not begin and passes it over. -/
  isRecorded : Bool
  /-- The recorder with the number of its subscription, until its recording is finished. -/
  recorder : Option (Recorder × Nat)
  /-- The subscription of whoever watches live, until they stop. -/
  watcher : Option Nat

namespace RunningSession

variable {π σ : Type} (host : Host π) (store : RecordingStore σ)

/-- Attaches the consumers and begins to read. -/
def start (settings : Option RecorderSettings) (pty : PtySession π) (s : σ) : RunningSession π × σ :=
  let (recorder, fanout, s) :=
    match settings with
    | none => (none, pty.fanout, s)
    | some settings =>
        let (id, fanout) := pty.fanout.subscribe none
        let (recorder, s) := Recorder.start store pty.id settings s
        (recorder.map (·, id), fanout, s)
  let (watcher, fanout) := fanout.subscribe (some Fanout.liveCapacity)
  ({ pty := { pty with fanout }.startReading
     isRecorded := settings.isSome
     recorder
     watcher := some watcher }, s)

/-- Nobody watches any more. -/
def unwatch (session : RunningSession π) : RunningSession π :=
  match session.watcher with
  | none => session
  | some id =>
      { session with
        pty := { session.pty with fanout := session.pty.fanout.dropReceiver id }, watcher := none }

/-- The recorder takes what is in its queue. -/
def record (session : RunningSession π) (s : σ) : RunningSession π × σ :=
  match session.recorder with
  | none => (session, s)
  | some (recorder, id) =>
      let (outputs, fanout) := session.pty.fanout.receiveAll id
      let (recorder, s) := outputs.foldl
        (fun (state : Recorder × σ) output => state.1.receive store 0 output state.2) (recorder, s)
      ({ session with pty := { session.pty with fanout }, recorder := some (recorder, id) }, s)

/-- Whoever watches takes what is in their queue. -/
def watch (session : RunningSession π) : List Output × RunningSession π :=
  match session.watcher with
  | none => ([], session)
  | some id =>
      let (outputs, fanout) := session.pty.fanout.receiveAll id
      (outputs, { session with pty := { session.pty with fanout } })

/-- Publishes a piece of output, which all consumers take. Gives what is watched. -/
def deliver (output : Output) (session : RunningSession π) (s : σ) :
    List Output × RunningSession π × σ :=
  let (session, s) := { session with pty := session.pty.publish output }.record store s
  let (outputs, session) := session.watch
  (outputs, session, s)

/-- Publishes pieces of output one after the other. -/
def deliverAll : List Output → RunningSession π → σ → List Output × RunningSession π × σ
  | [], session, s => ([], session, s)
  | output :: rest, session, s =>
      let (first, session, s) := session.deliver store output s
      let (later, session, s) := deliverAll rest session s
      (first ++ later, session, s)

/-- Finishes the recording. -/
def finishRecording (session : RunningSession π) (s : σ) : RunningSession π × σ :=
  match session.recorder with
  | none => (session, s)
  | some (recorder, _) => ({ session with recorder := none }, (recorder.finish store s).2)

/-- Reads and delivers what there is. At its end, the recording is finished. -/
def advance (session : RunningSession π) (s : σ) : List Output × RunningSession π × σ :=
  let (outputs, pty) := session.pty.pull host
  let (watched, session, s) := { session with pty }.deliverAll store outputs s
  if session.pty.isAtEnd host then
    let (session, s) := { session with pty := session.pty.finishReading }.finishRecording store s
    (watched, session, s)
  else (watched, session, s)

/-- Whether there is a recorder that has not seen the end of the output. -/
def isAwaited (session : RunningSession π) : Bool :=
  session.recorder.isSome || session.isRecorded && !session.pty.fanout.isClosed

/-- Waits for the recorder, which goes on until it has seen the end of the output. Nothing comes of that
    if the output never ends. -/
def awaitRecorder? (session : RunningSession π) (s : σ) : Option (List Output × RunningSession π × σ) :=
  if session.isAwaited && !session.pty.fanout.isClosed then
    (session.pty.pullToEnd? host).map fun (outputs, pty) =>
      let (watched, session, s) := { session with pty }.deliverAll store outputs s
      let (session, s) := { session with pty := session.pty.finishReading }.finishRecording store s
      (watched, session, s)
  else
    let (session, s) := session.finishRecording store s
    some ([], session, s)

/-- Ends the shell, delivers the rest of its output and finishes the recording. A shell that cannot be
    killed goes on, and so does its output, until the recorder has seen the end of it: if that never comes,
    nothing comes of this either. -/
def finish (session : RunningSession π) (s : σ) :
    Option (Except SessionError Nat) × List Output × RunningSession π × σ :=
  match session.pty.stop host with
  | (.ok code, pty) =>
      let (watched, session, s) := { session with pty }.advance host store s
      let (session, s) := { session with pty := session.pty.close }.finishRecording store s
      (some (pure code), watched, session, s)
  | (.error error, pty) =>
      match { session with pty }.awaitRecorder? host store s with
      | some (watched, session, s) => (some (throw error), watched, session, s)
      | none => (none, [], { session with pty }, s)

end RunningSession

end TerminalAgent
