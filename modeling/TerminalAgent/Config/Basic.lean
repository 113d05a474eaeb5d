import TerminalAgent.Binary64.Basic
import TerminalAgent.Environment

/-!
# The configuration of the agent

Settings by section. Some defaults depend on the environment of the agent.
-/

namespace TerminalAgent

namespace Config

/-- What concerns the agent as a whole. -/
structure Agent where
  /-- The directory that recordings are kept under. -/
  dataDir : String
  logLevel : String
  logDir : Option String
  deriving Repr, DecidableEq

/-- The server that the agent connects to. -/
structure Server where
  url : String
  token : Option String
  heartbeatIntervalSecs : UInt64
  heartbeatTimeoutSecs : UInt64
  deriving Repr, DecidableEq

/-- The shell of a session. -/
structure Shell where
  command : String
  cols : UInt16
  rows : UInt16
  /-- Variables that the shell gets beside those of the agent. -/
  env : SortedMap String
  deriving Repr, DecidableEq

structure Recording where
  enabled : Bool
  flushIntervalMs : UInt64
  /-- So many bytes are written at once. -/
  flushThresholdBytes : UInt64
  deriving Repr, DecidableEq

structure Playback where
  enabled : Bool
  listenAddr : String
  /-- How long a viewer is kept after the last chunk. -/
  lingerSecs : UInt64
  deriving Repr, DecidableEq

structure Reconnect where
  initialBackoffMs : UInt64
  maxBackoffMs : UInt64
  multiplier : Binary64
  maxAttempts : Option UInt32
  deriving Repr, DecidableEq

/-- The service that must be ready before a connection is made. -/
structure Dependency where
  socketPath : Option String
  pollIntervalMs : UInt64
  deriving Repr, DecidableEq

end Config

structure Config where
  agent : Config.Agent
  server : Config.Server
  shell : Config.Shell
  recording : Config.Recording
  playback : Config.Playback
  reconnect : Config.Reconnect
  dependency : Config.Dependency
  deriving Repr, DecidableEq

namespace Config

/-- The directory of the agent below the directories of a user. -/
def directoryName : String := "devterm"

/-- The shell of the user. -/
def defaultShell (env : Environment) : String :=
  (env.value? "SHELL").getD "/bin/sh"

/-- The configuration where nothing is set. -/
def default (env : Environment) : Config where
  agent := {
    dataDir := Path.join env.dataHome directoryName
    logLevel := "info"
    logDir := none }
  server := {
    url := "ws://127.0.0.1:8080/api/devices/v1/connect"
    token := none
    heartbeatIntervalSecs := 30
    heartbeatTimeoutSecs := 10 }
  shell := {
    command := defaultShell env
    cols := 80
    rows := 24
    env := ∅ }
  recording := {
    enabled := true
    flushIntervalMs := 250
    flushThresholdBytes := 32768 }
  playback := {
    enabled := true
    listenAddr := "127.0.0.1:8181"
    lingerSecs := 5 }
  reconnect := {
    initialBackoffMs := 250
    maxBackoffMs := 5000
    multiplier := .ofInt 2
    maxAttempts := none }
  dependency := {
    socketPath := none
    pollIntervalMs := 500 }

/-- The file that the configuration is read from unless another one is named. -/
def defaultPath (env : Environment) : String :=
  Path.join (Path.join env.configHome directoryName) "agent.toml"

/-- The directory that holds recordings. -/
def recordingsDir (config : Config) : String :=
  Path.join config.agent.dataDir "recordings"

/-- Whether configurations are equal as values, in which a NaN equals nothing and the zeros are equal. -/
def agrees (a b : Config) : Bool :=
  let bare (config : Config) : Config :=
    { config with reconnect := { config.reconnect with multiplier := .nan } }
  a.reconnect.multiplier.numEq b.reconnect.multiplier && bare a = bare b

/-- Puts variables that are set and not empty in the place of what a file says. -/
def overridden (config : Config) (env : Environment) : Config :=
  let set {σ : Type} (name : String) (apply : String → σ → σ) (section_ : σ) : σ :=
    match env.nonEmpty? name with
    | some value => apply value section_
    | none => section_
  { config with
    server := set "DEVTERM_SERVER_TOKEN" (fun token server => { server with token := some token })
      (set "DEVTERM_SERVER_URL" (fun url server => { server with url }) config.server)
    agent := set "DEVTERM_LOG_LEVEL" (fun logLevel agent => { agent with logLevel }) config.agent
    dependency := set "DEVTERM_DEPENDENCY_SOCKET"
      (fun path dependency => { dependency with socketPath := some path }) config.dependency }

end Config

end TerminalAgent
