import TerminalAgent.Connection.Error
import TerminalAgent.Connection.Service
import TerminalAgent.Recording.RecordingStore

/-!
# Connections inside the process

A backend without a network: connections are pairs of queues, and time is a number of milliseconds that
passes only when it is let pass. With it a supervisor can be watched through outages. The supervisor
acts whenever it is given the time to, even if no time passes, until it sleeps or has nothing to serve.
-/

namespace TerminalAgent

/-- A connection inside the process, from its peer to the agent and back. -/
structure Link where
  /-- What the peer sent and the agent has not taken, oldest first. -/
  toAgent : List Bytes
  /-- What the agent sent and the peer has not taken, oldest first. -/
  toPeer : List Message
  agentIsThere : Bool
  peerIsThere : Bool
  deriving Repr, DecidableEq

namespace Link

def new : Link := ⟨[], [], true, true⟩

end Link

/-- A service with its surroundings. -/
structure InProcess (π : Type) where
  service : Service π MemoryStore
  isStarted : Bool
  isCancelled : Bool
  /-- Whether it was told how the supervisor ended. -/
  isJoined : Bool
  /-- Whether the local dependency is there. -/
  isReady : Bool
  /-- Whether connections are taken. -/
  isAvailable : Bool
  /-- Attempts to connect so far. -/
  attempts : Nat
  /-- Questions for the local dependency so far. -/
  checks : Nat
  /-- Milliseconds since the start. -/
  now : Nat
  /-- When the supervisor wakes, if it sleeps. -/
  wake : Option Nat
  /-- All connections. The service serves the last one, if it serves any. -/
  links : List Link
  /-- How many connections were accepted. -/
  accepted : Nat
  /-- The connection that a peer holds. -/
  peer : Option Nat
  /-- The ids of sessions, by the number of messages handled before. -/
  ids : Nat → String
  /-- Messages handled so far. -/
  handled : Nat

namespace InProcess

variable {π : Type} (host : Host π)

def new (service : Service π MemoryStore) (isReady isAvailable : Bool) (ids : Nat → String) :
    InProcess π where
  service := service
  isStarted := false
  isCancelled := false
  isJoined := false
  isReady := isReady
  isAvailable := isAvailable
  attempts := 0
  checks := 0
  now := 0
  wake := none
  links := []
  accepted := 0
  peer := none
  ids := ids
  handled := 0

def state (world : InProcess π) : ConnectionState :=
  world.service.supervisor.state

def store (world : InProcess π) : MemoryStore :=
  world.service.served.store

/-! ## The agent -/

/-- Changes the connection that is served. -/
def updateServed (world : InProcess π) (f : Link → Link) : InProcess π :=
  { world with links := world.links.modify (world.links.length - 1) f }

/-- Brings what was sent to the peer. -/
def deliver (world : InProcess π) : InProcess π :=
  let (sent, service) := world.service.takeSent
  { world with service }.updateServed fun link => { link with toPeer := link.toPeer ++ sent }

/-- Takes on what became of the service. The peer notices when it serves no longer. -/
def withService (world : InProcess π) (service : Service π MemoryStore) : InProcess π :=
  let world := { world with service }.deliver
  if service.served.connection?.isSome then world
  else world.updateServed fun link => { link with agentIsThere := false }

def tell (world : InProcess π) (event : SupervisorEvent) : InProcess π :=
  world.withService (world.service.step host MemoryStore.recording event)

/-- Milliseconds until a sleep is over; a part of one counts as a whole. -/
def millisOf (delay : Duration) : Nat :=
  (delay.nanos + (Duration.nanosPerMilli - 1)) / Duration.nanosPerMilli

/-- Serves the next thing that came on the connection: a message, or that the peer is gone. -/
def serve? (world : InProcess π) : Option (InProcess π) :=
  match world.links.getLast? with
  | none => none
  | some link =>
      let service := if link.peerIsThere then world.service else world.service.hangUp
      match link.toAgent with
      | bytes :: rest =>
          let service := service.handle host MemoryStore.recording (world.ids world.handled) bytes
          let world := { world with handled := world.handled + 1 }.updateServed
            fun link => { link with toAgent := rest }
          some (world.withService (service.advance host MemoryStore.recording))
      | [] => if link.peerIsThere then none else some (world.tell host .lost)

/-- The next thing that the supervisor does now, if there is one. -/
def act? (world : InProcess π) : Option (InProcess π) :=
  if !world.isStarted || world.service.isStuck then none
  else
    match world.service.supervisor.phase with
    | .ended _ => none
    | phase =>
        if world.isCancelled then some ({ world with wake := none }.tell host .cancelled)
        else
          match phase with
          | .checking _ =>
              some ({ world with checks := world.checks + 1 }.tell host (.checked world.isReady))
          | .connecting =>
              let world := { world with attempts := world.attempts + 1 }
              if world.isAvailable then
                some ({ world with links := world.links ++ [Link.new] }.tell host .connected)
              else some (world.tell host .refused)
          | .waiting _ delay | .backingOff delay =>
              match world.wake with
              | none => some { world with wake := some (world.now + millisOf delay) }
              | some wake =>
                  if wake ≤ world.now then some ({ world with wake := none }.tell host .slept)
                  else none
          | .serving => world.serve? host
          | .ended _ => none

/-- Lets the supervisor do at most so many things. -/
def actUpTo : Nat → InProcess π → InProcess π
  | 0, world => world
  | n + 1, world =>
      match world.act? host with
      | none => world
      | some world => actUpTo n world

/-- Enough for all messages that wait and for a round of the supervisor. A supervisor that never sleeps
    does more in no time; it is stopped here. -/
def settle (world : InProcess π) : InProcess π :=
  actUpTo host (64 + (world.links.flatMap (·.toAgent)).length) world

/-! ## Time -/

/-- Lets time pass until something holds or until `target`, through at most `fuel` sleeps. -/
def passTo (target : Nat) (isDone : InProcess π → Bool) : (fuel : Nat) → InProcess π → InProcess π
  | 0, world => { world with now := target }
  | fuel + 1, world =>
      let world := world.settle host
      if isDone world then world
      else
        match world.wake.filter (· < target) with
        | some wake => passTo target isDone fuel { world with now := max world.now wake }
        | none => { world with now := target }

/-- Lets time pass until something holds, but no longer than so many milliseconds. -/
def passUntil (world : InProcess π) (isDone : InProcess π → Bool) (millis : Nat) : InProcess π :=
  world.passTo host (world.now + millis) isDone (millis + 1)

def wait (world : InProcess π) (millis : Nat) : InProcess π :=
  world.passUntil host (fun _ => false) millis

/-! ## Control -/

def start (world : InProcess π) : Except SupervisorError Unit × InProcess π :=
  if world.isStarted then (throw .alreadyRunning, world)
  else (pure (), { world with isStarted := true })

def cancel (world : InProcess π) : InProcess π :=
  { world with isCancelled := true }

/-- Ends the supervisor. Only the first call tells how it ended. -/
def shutdown (world : InProcess π) : Except SupervisorError Unit × InProcess π :=
  let world := world.cancel.settle host
  if world.isJoined then (pure (), world)
  else ((world.service.supervisor.result?).getD (pure ()), { world with isJoined := world.isStarted })

/-! ## The peer -/

def updatePeer (world : InProcess π) (f : Link → Link) : InProcess π :=
  match world.peer with
  | none => world
  | some n => { world with links := world.links.modify n f }

def peerLink? (world : InProcess π) : Option Link :=
  world.peer.bind fun n => world.links[n]?

def dropPeer (world : InProcess π) : InProcess π :=
  { world.updatePeer fun link => { link with peerIsThere := false, toPeer := [] } with peer := none }

/-- Whether a connection waits to be accepted. -/
def hasPending (world : InProcess π) : Bool :=
  world.accepted < world.links.length

/-- Waits for a connection and takes it in place of the one held before. -/
def accept (world : InProcess π) (millis : Nat) : Bool × InProcess π :=
  let world := if world.hasPending then world else world.passUntil host hasPending millis
  let isAccepted := world.hasPending
  let world := world.dropPeer
  if isAccepted then
    (true, { world with peer := some world.accepted, accepted := world.accepted + 1 })
  else (false, world)

def sendFromPeer (world : InProcess π) (bytes : Bytes) : Except NetworkError Unit × InProcess π :=
  if (world.peerLink?.any (·.agentIsThere)) then
    (pure (), world.updatePeer fun link => { link with toAgent := link.toAgent ++ [bytes] })
  else (throw (.connectionClosed "agent went away"), world)

/-- What the peer would take next: a message that is no output, or that none can come. -/
def canReceive (world : InProcess π) : Bool :=
  world.peerLink?.all fun link =>
    link.toPeer.any (!Connection.isOutput ·) || !link.agentIsThere

/-- Waits for a message that is no output. -/
def receive (world : InProcess π) (millis : Nat) : Option Message × InProcess π :=
  let world := if world.canReceive then world else world.passUntil host canReceive millis
  match world.peerLink?.map fun link => link.toPeer.dropWhile Connection.isOutput with
  | some (message :: rest) => (some message, world.updatePeer fun link => { link with toPeer := rest })
  | _ => (none, world.updatePeer fun link => { link with toPeer := [] })

end InProcess

end TerminalAgent
