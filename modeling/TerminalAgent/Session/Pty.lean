import TerminalAgent.Session.Error
import TerminalAgent.Session.Fanout
import TerminalAgent.Session.Host

/-!
# A shell on a terminal

A session owns one shell and its terminal. What the shell puts out is published once reading has begun,
and ends when nobody is left to put something out. After the end, or once it is asked to end, a session
takes no more input.
-/

namespace TerminalAgent

structure PtySession (π : Type) where
  id : String
  process : π
  /-- Whether it takes input: until the output ends or somebody ends it. -/
  isRunning : Bool
  /-- Whether output is being read. -/
  isReading : Bool
  /-- Whether the output was read to its end. -/
  isDone : Bool
  cols : UInt16
  rows : UInt16
  fanout : Fanout

namespace PtySession

variable {π : Type} (host : Host π)

/-- Starts a shell. Output is kept back until reading begins. -/
def start (id : String) (spec : ShellSpec) : Except SessionError (PtySession π) :=
  match host.launch spec with
  | .error reason => throw (.spawnFailed reason)
  | .ok process =>
      pure {
        id, process
        isRunning := true
        isReading := false
        isDone := false
        cols := spec.cols
        rows := spec.rows
        fanout := .new }

/-- Types bytes at the terminal. -/
def write (session : PtySession π) (data : Bytes) : Except SessionError Unit × PtySession π :=
  if !session.isRunning then (throw (.notFound session.id), session)
  else
    let (result, process) := host.write data session.process
    (result.mapError .writeFailed, { session with process })

def resize (session : PtySession π) (cols rows : UInt16) : Except SessionError Unit × PtySession π :=
  if !session.isRunning then (throw (.notFound session.id), session)
  else
    match host.resize cols rows session.process with
    | (.error reason, process) => (throw (.resizeFailed reason), { session with process })
    | (.ok (), process) => (pure (), { session with process, cols, rows })

/-! ## Output -/

/-- Begins to read. -/
def startReading (session : PtySession π) : PtySession π :=
  { session with isReading := true }

/-- What the reader gets, if there is one. -/
def pull (session : PtySession π) : List Output × PtySession π :=
  if session.isReading && !session.isDone then
    let (outputs, process) := host.read session.process
    (outputs, { session with process })
  else ([], session)

/-- What the reader gets until it comes to the end of the output, if it ever does. -/
def pullToEnd? (session : PtySession π) : Option (List Output × PtySession π) :=
  if session.isReading && !session.isDone then
    (host.readToEnd? session.process).map fun (outputs, process) => (outputs, { session with process })
  else none

/-- Publishes a piece of output. -/
def publish (session : PtySession π) (output : Output) : PtySession π :=
  { session with fanout := session.fanout.publish output }

/-- Whether the reader has come to the end of the output. -/
def isAtEnd (session : PtySession π) : Bool :=
  session.isReading && !session.isDone && host.hasEnded session.process

/-- What the reader does at the end of the output. -/
def finishReading (session : PtySession π) : PtySession π :=
  { session with isRunning := false, isDone := true, fanout := session.fanout.close }

/-! ## The end -/

/-- How the shell ended, if it has. -/
def exitCode? (session : PtySession π) : Option Nat :=
  host.exitCode? session.process

/-- Ends the shell, and with it everything that keeps a reader from coming to the end of the output. -/
def stop (session : PtySession π) : Except SessionError Nat × PtySession π :=
  let session := { session with isRunning := false }
  match host.exitCode? session.process with
  | some code => (pure code, { session with process := release session.process })
  | none =>
      match host.kill session.process with
      | (.error reason, process) => (throw (.killFailed reason), { session with process })
      | (.ok code, process) => (pure code, { session with process := release process })
where
  release (process : π) : π :=
    if session.isReading && !host.hasEnded process then host.killGroup process else process

/-- Detaches all subscribers. -/
def close (session : PtySession π) : PtySession π :=
  { session with isDone := session.isDone || session.isReading, fanout := session.fanout.close }

/-- Reads and publishes what there is. -/
def readAll (session : PtySession π) : PtySession π :=
  let (outputs, session) := session.pull host
  let session := outputs.foldl publish session
  if session.isAtEnd host then session.finishReading else session

/-- Ends the shell and publishes the rest of its output. -/
def terminate (session : PtySession π) : Except SessionError Nat × PtySession π :=
  match session.stop host with
  | (.error error, session) => (throw error, session)
  | (.ok code, session) => (pure code, (session.readAll host).close)

end PtySession

end TerminalAgent
