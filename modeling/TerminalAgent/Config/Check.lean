import TerminalAgent.Binary64.Decimal
import TerminalAgent.Config.Basic
import TerminalAgent.Network.SocketAddress
import TerminalAgent.Url.Parse

/-!
# Checks of a configuration

`Config.check` finds the first setting that the agent cannot run with.
-/

namespace TerminalAgent

/-- A setting that the agent cannot run with. -/
inductive ConfigError where
  | serverUrl (url : String)
  | shellPath (command : String)
  | logLevel (level : String)
  | terminalSize (cols rows : UInt16)
  | backoff (initial max : UInt64)
  | backoffMultiplier (multiplier : Binary64)
  | heartbeat (interval timeout : UInt64)
  | pollInterval
  | flushInterval
  | listenAddr (address : String)
  deriving Repr, DecidableEq

namespace ConfigError

def message : ConfigError → String
  | serverUrl url => "server url must be a ws:// or wss:// URL, got " ++ url
  | shellPath command => "shell command does not exist: " ++ command
  | logLevel level => "log_level must be one of: trace, debug, info, warn, error; got " ++ level
  | terminalSize cols rows => s!"terminal size must be non-zero, got {cols}x{rows}"
  | backoff initial max =>
      s!"initial_backoff_ms ({initial}) must be non-zero and not exceed max_backoff_ms ({max})"
  | backoffMultiplier multiplier =>
      "backoff multiplier must be between 1.0 and 10.0, got " ++ multiplier.positional
  | heartbeat interval timeout =>
      s!"heartbeat_interval_secs ({interval}) and heartbeat_timeout_secs ({timeout}) must be greater than 0"
  | pollInterval => "dependency poll_interval_ms must be greater than 0"
  | flushInterval => "flush_interval_ms must be greater than 0"
  | listenAddr address => "playback listen_addr is not a socket address: " ++ address

end ConfigError

namespace Config

/-- The levels of the log. -/
def logLevels : List String := ["trace", "debug", "info", "warn", "error"]

/-- The largest factor by which waiting times may grow. -/
def maxMultiplier : Binary64 := .ofInt 10

/-- Whether a URL is one of the protocol that the agent speaks. -/
def isServerUrl (url : String) : Bool :=
  match Url.parse url with
  | .ok url => url.scheme = "ws" || url.scheme = "wss"
  | .error _ => false

/-- The first setting that is wrong. -/
def check (env : Environment) (config : Config) : Except ConfigError Unit := do
  unless isServerUrl config.server.url do
    throw (.serverUrl config.server.url)
  unless env.hasCommand config.shell.command do
    throw (.shellPath config.shell.command)
  if config.shell.cols = 0 || config.shell.rows = 0 then
    throw (.terminalSize config.shell.cols config.shell.rows)
  -- No letter beyond ASCII has a letter of these words as its small letter.
  unless logLevels.contains config.agent.logLevel.toLower do
    throw (.logLevel config.agent.logLevel)
  let reconnect := config.reconnect
  if reconnect.initialBackoffMs = 0 || reconnect.maxBackoffMs < reconnect.initialBackoffMs then
    throw (.backoff reconnect.initialBackoffMs reconnect.maxBackoffMs)
  unless Binary64.le (.ofInt 1) reconnect.multiplier && reconnect.multiplier.le maxMultiplier do
    throw (.backoffMultiplier reconnect.multiplier)
  let server := config.server
  if server.heartbeatIntervalSecs = 0 || server.heartbeatTimeoutSecs = 0 then
    throw (.heartbeat server.heartbeatIntervalSecs server.heartbeatTimeoutSecs)
  if config.dependency.pollIntervalMs = 0 then
    throw .pollInterval
  if config.recording.flushIntervalMs = 0 then
    throw .flushInterval
  if config.playback.enabled && (SocketAddress.parse? config.playback.listenAddr).isNone then
    throw (.listenAddr config.playback.listenAddr)

end Config

end TerminalAgent
