import TerminalAgent.Connection.Error

/-!
# Heartbeats

At each tick the agent sees when it last heard of the server, and sends a ping. If that is longer ago
than one interval and the time that an answer may take, the server is given up. While the agent itself
holds up what the server sends, the server is not at fault.
-/

namespace TerminalAgent

/-- What happens on a connection between two ticks, or a tick. -/
inductive HeartbeatEvent where
  /-- Something was read. -/
  | heard
  /-- What was read finds no place, and reading waits. -/
  | stalled
  /-- It has found its place. -/
  | resumed
  | tick
  deriving Repr, DecidableEq

/-- What the agent knows of the server's life. -/
structure Heartbeat where
  interval : Duration
  timeout : Duration
  /-- When the server was last heard of, unless reading waits. -/
  seen : Option Duration
  deriving Repr, DecidableEq

namespace Heartbeat

/-- A connection that begins at time zero. -/
def new (interval timeout : Duration) : Heartbeat :=
  ⟨interval, timeout, some ⟨0⟩⟩

/-- How long the server may be silent. -/
def patience (heartbeat : Heartbeat) : Duration :=
  ⟨heartbeat.interval.nanos + heartbeat.timeout.nanos⟩

/-- How long the server is silent at a moment. -/
def silence? (heartbeat : Heartbeat) (now : Duration) : Option Duration :=
  heartbeat.seen.map fun seen => ⟨now.nanos - seen.nanos⟩

/-- What an event at a moment leads to. -/
def step (heartbeat : Heartbeat) (now : Duration) : HeartbeatEvent → Except NetworkError Heartbeat
  | .heard | .resumed => pure { heartbeat with seen := some now }
  | .stalled => pure { heartbeat with seen := none }
  | .tick =>
      match heartbeat.silence? now with
      | some silent =>
          if silent ≤ heartbeat.patience then pure heartbeat else throw (.heartbeatTimeout silent)
      | none => pure heartbeat

/-- What events lead to, each with its moment. -/
def run (heartbeat : Heartbeat) (events : List (Duration × HeartbeatEvent)) :
    Except NetworkError Heartbeat :=
  events.foldlM (fun heartbeat event => heartbeat.step event.1 event.2) heartbeat

/-- When the tick after so many others comes. -/
def tickAt (interval : Duration) (n : Nat) : Duration :=
  ⟨(n + 1) * interval.nanos⟩

end Heartbeat

end TerminalAgent
