import TerminalAgent.Bytes
import TerminalAgent.Connection.Heartbeat

/-!
# Frames to and from the server

A pump carries frames between the server and the two queues of a connection. One half of it reads what
the server sends and puts it into the inbound queue, the other half writes what the outbound queue gives,
and a ping at each tick. A full inbound queue holds up the reading half alone. When either half ends, so
does the connection.
-/

namespace TerminalAgent

/-- What reading from the server gives. -/
inductive ServerFrame where
  | binary (bytes : Bytes)
  | text
  | ping
  | pong
  /-- The server closes the connection, and may say why. -/
  | close (reason : String)
  /-- Reading fails. -/
  | fault (reason : String)
  /-- Nothing comes any more. -/
  | ended
  deriving Repr, DecidableEq

/-- What is written to the server. -/
inductive ClientFrame where
  | binary (bytes : Bytes)
  | ping
  | close
  deriving Repr, DecidableEq

/-- What may happen to a pump. -/
inductive PumpEvent where
  | read (frame : ServerFrame)
  /-- The agent takes the oldest frame from the inbound queue. -/
  | taken
  /-- What waits for room is tried again. -/
  | retried
  /-- The agent takes no more frames. -/
  | abandoned
  /-- The outbound queue gives a frame. -/
  | given (bytes : Bytes)
  /-- The outbound queue gives no more frames. -/
  | exhausted
  /-- Writing fails from now on. -/
  | severed (reason : String)
  | tick
  deriving Repr, DecidableEq

structure FramePump where
  heartbeat : Heartbeat
  /-- What the agent has not taken yet, oldest first. -/
  inbound : List Bytes
  /-- Whether the agent takes frames. -/
  isListening : Bool
  /-- What was read and waits for room in the inbound queue. Nothing else is read meanwhile. -/
  held : Option Bytes
  /-- What was written and when, oldest first. -/
  written : List (Duration × ClientFrame)
  /-- Why writing fails, if it does. -/
  fault : Option String
  /-- Why the connection has ended, if it has. -/
  reason : Option NetworkError
  deriving Repr, DecidableEq

namespace FramePump

/-- So many frames find room in the inbound queue. -/
def capacity : Nat := 256

/-- The reason when it is the agent that ends the connection. -/
def closedLocally : NetworkError := .connectionClosed "closed locally"

/-- A connection that begins at time zero. -/
def new (interval timeout : Duration) : FramePump where
  heartbeat := .new interval timeout
  inbound := []
  isListening := true
  held := none
  written := []
  fault := none
  reason := none

/-! ## Reading -/

/-- Tells the heartbeat what happens. -/
def note (pump : FramePump) (now : Duration) (event : HeartbeatEvent) : Except NetworkError FramePump := do
  let heartbeat ← pump.heartbeat.step now event
  pure { pump with heartbeat }

/-- Puts a frame into the inbound queue, or holds it if there is no room. -/
def place (pump : FramePump) (now : Duration) (bytes : Bytes) : Except NetworkError FramePump :=
  if !pump.isListening then throw closedLocally
  else if pump.inbound.length < capacity then
    { pump with inbound := pump.inbound ++ [bytes], held := none }.note now .resumed
  else pure { pump with held := some bytes }

/-- What follows from what was read. -/
def receive (pump : FramePump) (now : Duration) : ServerFrame → Except NetworkError FramePump
  | .binary bytes => do (← pump.note now .stalled).place now bytes
  | .text | .ping | .pong => pure pump
  | .close reason => throw (.connectionClosed ("server closed connection: " ++ reason))
  | .fault reason => throw (.connectionClosed reason)
  | .ended => throw (.connectionClosed "stream ended")

/-! ## Writing -/

def write (pump : FramePump) (now : Duration) (frame : ClientFrame) : Except NetworkError FramePump :=
  match pump.fault with
  | some reason => throw (.connectionClosed reason)
  | none => pure { pump with written := pump.written ++ [(now, frame)] }

/-- Ends the connection. The server is told if it is the agent that ends it. -/
def finish (pump : FramePump) (now : Duration) (reason : NetworkError) : FramePump :=
  let pump := { pump with reason := some reason }
  if reason = closedLocally then (pump.write now .close).toOption.getD pump else pump

/-! ## Both -/

/-- What follows from an event, or why the connection ends with it. -/
def react (pump : FramePump) (now : Duration) : PumpEvent → Except NetworkError FramePump
  | .read frame => do
      if pump.held.isSome then pure pump else (← pump.note now .heard).receive now frame
  | .taken => pure { pump with inbound := pump.inbound.tail }
  | .retried =>
      match pump.held with
      | some bytes => pump.place now bytes
      | none => pure pump
  | .abandoned => pure { pump with inbound := [], isListening := false }
  | .given bytes => pump.write now (.binary bytes)
  | .exhausted => throw closedLocally
  | .severed reason => pure { pump with fault := some reason }
  | .tick => do (← pump.note now .tick).write now .ping

/-- What an event at a moment leads to. After the end nothing happens any more. -/
def step (pump : FramePump) (now : Duration) (event : PumpEvent) : FramePump :=
  if pump.reason.isSome then pump
  else
    match pump.react now event with
    | .ok pump => pump
    | .error reason => pump.finish now reason

/-- What events lead to, each with its moment. -/
def run (pump : FramePump) (events : List (Duration × PumpEvent)) : FramePump :=
  events.foldl (fun pump event => pump.step event.1 event.2) pump

end FramePump

end TerminalAgent
