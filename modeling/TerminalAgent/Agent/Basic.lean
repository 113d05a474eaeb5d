import TerminalAgent.Agent.Error
import TerminalAgent.Connection.Dependency
import TerminalAgent.Connection.WebSocket
import TerminalAgent.Environment
import TerminalAgent.Recording.DirectoryLock
import TerminalAgent.Recording.FileStore

/-!
# The agent

An agent owns its directory of recordings from when it is made until it is given up. Starting it makes
it listen for viewers, if its configuration says so, and then starts its supervisor, which can be done
once. A start that fails leaves the agent starting; only stopping it leads on from there.
-/

namespace TerminalAgent

/-- The life of an agent. -/
inductive AgentState where
  | stopped
  | starting
  | running
  | shuttingDown
  deriving Repr, DecidableEq

structure Agent where
  config : Config
  /-- The process that owns the directory of recordings. -/
  owner : DirectoryLock.Contender
  store : FileStore
  state : AgentState
  /-- The states it has taken on, oldest first. -/
  changes : List AgentState
  supervisor : Supervisor
  /-- Whether the supervisor was started. -/
  isSupervised : Bool
  /-- Whether an address for viewers was taken. -/
  isListening : Bool
  /-- Whether everything that it started was told to end. -/
  isShutDown : Bool

namespace Agent

/-- How the agent stays connected. -/
def supervisorSettings (config : Config) : SupervisorSettings where
  backoff := .ofConfig config.reconnect
  dependencyPoll := .ofMillis config.dependency.pollIntervalMs.toNat

/-- The process as it contends for the directory of a store. -/
def contender (store : FileStore) (pid : Nat) (isRunning : Nat → Bool) : DirectoryLock.Contender where
  pid := pid
  path := store.filePath DirectoryLock.fileName
  isRunning := isRunning

/-- Makes an agent: opens the store, takes the directory, and seals what an earlier owner left open. -/
def create (config : Config) (pid : Nat) (isRunning : Nat → Bool) (volume : Volume) :
    Except AgentError Agent × Volume :=
  let (store, volume) := FileStore.open_ config.recordingsDir volume
  let owner := contender store pid isRunning
  match DirectoryLock.acquire owner volume with
  | (.error error, volume) => (throw (.directoryInUse error), volume)
  | (.ok (), volume) =>
      match store.recoverLeftovers volume with
      | (.error error, _, volume) =>
          (throw (.recovery error), DirectoryLock.release owner volume)
      | (.ok _, store, volume) =>
          let supervisor := .new (supervisorSettings config)
          (pure ⟨config, owner, store, .stopped, [], supervisor, false, false, false⟩, volume)

/-- Gives the directory up. -/
def release (agent : Agent) (volume : Volume) : Volume :=
  DirectoryLock.release agent.owner volume

def enter (agent : Agent) (state : AgentState) : Agent :=
  { agent with state, changes := agent.changes ++ [state] }

/-! ## Starting -/

/-- Takes the address for viewers, if there is to be one. -/
def listen (network : Network) (agent : Agent) : Except AgentError Agent :=
  if !agent.config.playback.enabled then pure agent
  else
    let address := agent.config.playback.listenAddr
    match network.listen address with
    | .ok () => pure { agent with isListening := true }
    | .error reason => throw (.playback (.server s!"failed to bind {address}: {reason}"))

/-- Starts the supervisor. -/
def supervise (agent : Agent) : Except AgentError Agent :=
  if agent.isSupervised then throw (.supervisor .alreadyRunning)
  else pure { agent with isSupervised := true }

def start (network : Network) (agent : Agent) : Except AgentError Unit × Agent :=
  if agent.state ≠ .stopped then (throw .alreadyRunning, agent)
  else
    let agent := agent.enter .starting
    match agent.listen network with
    | .error error => (throw error, agent)
    | .ok agent =>
        match agent.supervise with
        | .error error => (throw error, agent)
        | .ok agent => (pure (), agent.enter .running)

/-! ## Stopping -/

/-- Begins to stop, unless it is stopped already. Tells whether there is something to stop. -/
def beginStop (agent : Agent) : Except AgentError Bool × Agent :=
  match agent.state with
  | .stopped => (pure false, agent)
  | .shuttingDown => (throw .alreadyStopping, agent)
  | .starting | .running => (pure true, agent.enter .shuttingDown)

/-- Ends the supervisor and everything else that was started. -/
def finishStop (agent : Agent) : Agent :=
  let agent := { agent with supervisor := agent.supervisor.step .cancelled, isShutDown := true }
  agent.enter .stopped

def stop (agent : Agent) : Except AgentError Unit × Agent :=
  match agent.beginStop with
  | (.error error, agent) => (throw error, agent)
  | (.ok false, agent) => (pure (), agent)
  | (.ok true, agent) => (pure (), agent.finishStop)

/-! ## Without a server -/

/-- Enough for all attempts that there may be. Each takes a question, an attempt and a sleep. -/
def attemptFuel (config : Config) : Nat :=
  4 * ((config.reconnect.maxAttempts.map UInt32.toNat).getD 0 + 1)

/-- Lets the supervisor try for as long as it does on a machine from which the server is out of reach.
    One that never gives up, or waits for what is not there, is left while it tries. -/
def runUnreached (isReady : Bool) (agent : Agent) : Agent :=
  if agent.isSupervised then
    { agent with supervisor := agent.supervisor.runRefused isReady (attemptFuel agent.config) }
  else agent

/-- Whether the connection has failed for good. -/
def hasGivenUp (agent : Agent) : Bool :=
  agent.supervisor.state = .failed

/-- Whether the local dependency of the agent is there. -/
def isDependencyReady (env : Environment) (listeners : List String) (agent : Agent) : Bool :=
  (Dependency.check env.files listeners (agent.config.dependency.socketPath.map env.place)).toBool

end Agent

end TerminalAgent
