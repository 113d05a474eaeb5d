import TerminalAgent.Config.Basic
import TerminalAgent.Toml.Decode
import TerminalAgent.Toml.Document

/-!
# Configuration as text

A section format says for each setting how it is read and how it is written. `Config.parse` reads a
text over the defaults and `Config.render` writes all that is set.
-/

namespace TerminalAgent.Config

open Toml

/-! ## Written values -/

def natural (n : Nat) : Written := .value (toString n)

def boolean (b : Bool) : Written := .value (writeBool b)

def text (s : String) : Written := .value (writeText s)

def text? : Option String → Written
  | some s => text s
  | none => .absent

/-! ## Sections -/

def agentFormat : SectionFormat Agent where
  name := "agent"
  expected := "struct AgentConfig"
  settings := [
    .of "data_dir" .path (fun dataDir agent => { agent with dataDir }) fun agent => text agent.dataDir,
    .of "log_level" .text (fun logLevel agent => { agent with logLevel })
      fun agent => text agent.logLevel,
    .of "log_dir" .path (fun path agent => { agent with logDir := some path })
      fun agent => text? agent.logDir]

def serverFormat : SectionFormat Server where
  name := "server"
  expected := "struct ServerConfig"
  settings := [
    .of "url" .text (fun url server => { server with url }) fun server => text server.url,
    .of "token" .text (fun token server => { server with token := some token })
      fun server => text? server.token,
    .of "heartbeat_interval_secs" .uint64
      (fun secs server => { server with heartbeatIntervalSecs := secs })
      fun server => natural server.heartbeatIntervalSecs.toNat,
    .of "heartbeat_timeout_secs" .uint64
      (fun secs server => { server with heartbeatTimeoutSecs := secs })
      fun server => natural server.heartbeatTimeoutSecs.toNat]

def shellFormat : SectionFormat Shell where
  name := "shell"
  expected := "struct ShellConfig"
  settings := [
    .of "command" .text (fun command shell => { shell with command }) fun shell => text shell.command,
    .of "cols" .uint16 (fun cols shell => { shell with cols }) fun shell => natural shell.cols.toNat,
    .of "rows" .uint16 (fun rows shell => { shell with rows }) fun shell => natural shell.rows.toNat,
    .of "env" .textMap (fun env shell => { shell with env }) fun shell => .table shell.env]

def recordingFormat : SectionFormat Recording where
  name := "recording"
  expected := "struct RecordingConfig"
  settings := [
    .of "enabled" .boolean (fun enabled recording => { recording with enabled })
      fun recording => boolean recording.enabled,
    .of "flush_interval_ms" .uint64
      (fun ms recording => { recording with flushIntervalMs := ms })
      fun recording => natural recording.flushIntervalMs.toNat,
    .of "flush_threshold_bytes" .size
      (fun bytes recording => { recording with flushThresholdBytes := bytes })
      fun recording => natural recording.flushThresholdBytes.toNat]

def playbackFormat : SectionFormat Playback where
  name := "playback"
  expected := "struct PlaybackConfig"
  settings := [
    .of "enabled" .boolean (fun enabled playback => { playback with enabled })
      fun playback => boolean playback.enabled,
    .of "listen_addr" .text (fun listenAddr playback => { playback with listenAddr })
      fun playback => text playback.listenAddr,
    .of "linger_secs" .uint64 (fun secs playback => { playback with lingerSecs := secs })
      fun playback => natural playback.lingerSecs.toNat]

def reconnectFormat : SectionFormat Reconnect where
  name := "reconnect"
  expected := "struct ReconnectConfig"
  settings := [
    .of "initial_backoff_ms" .uint64
      (fun ms reconnect => { reconnect with initialBackoffMs := ms })
      fun reconnect => natural reconnect.initialBackoffMs.toNat,
    .of "max_backoff_ms" .uint64 (fun ms reconnect => { reconnect with maxBackoffMs := ms })
      fun reconnect => natural reconnect.maxBackoffMs.toNat,
    .of "multiplier" .float (fun multiplier reconnect => { reconnect with multiplier })
      fun reconnect => .value (writeFloat reconnect.multiplier),
    .of "max_attempts" .uint32 (fun n reconnect => { reconnect with maxAttempts := some n })
      fun reconnect => (reconnect.maxAttempts.map fun n => natural n.toNat).getD .absent]

def dependencyFormat : SectionFormat Dependency where
  name := "dependency"
  expected := "struct DependencyConfig"
  settings := [
    .of "socket_path" .path (fun path dependency => { dependency with socketPath := some path })
      fun dependency => text? dependency.socketPath,
    .of "poll_interval_ms" .uint64 (fun ms dependency => { dependency with pollIntervalMs := ms })
      fun dependency => natural dependency.pollIntervalMs.toNat]

/-! ## The whole -/

/-- Reads one section into a configuration. -/
def readSection (name : String) (item : Item) (config : Config) : Except Rejection Config :=
  match name with
  | "agent" => (agentFormat.read config.agent item).map fun agent => { config with agent }
  | "server" => (serverFormat.read config.server item).map fun server => { config with server }
  | "shell" => (shellFormat.read config.shell item).map fun shell => { config with shell }
  | "recording" =>
      (recordingFormat.read config.recording item).map fun recording => { config with recording }
  | "playback" =>
      (playbackFormat.read config.playback item).map fun playback => { config with playback }
  | "reconnect" =>
      (reconnectFormat.read config.reconnect item).map fun reconnect => { config with reconnect }
  | "dependency" =>
      (dependencyFormat.read config.dependency item).map fun dependency => { config with dependency }
  | _ => .ok config

/-- Reads the sections of a document over a configuration; unknown ones are passed over. -/
def readTable (start : Config) (table : Table) : Except Rejection Config :=
  table.entries.foldlM
    (fun config entry =>
      Decoder.located (entry.2.span? <|> some entry.1.span)
        (readSection entry.1.name entry.2 config))
    start

/-- Why a text is no configuration. -/
structure TextError where
  reason : String
  /-- The bytes of the text that are at fault. -/
  span : Option (Nat × Nat)
  deriving Repr, DecidableEq

namespace TextError

def message (error : TextError) : String :=
  "Invalid TOML configuration: " ++ error.reason ++
    match error.span with
    | some (start, stop) => s!" (at position {start}..{stop})"
    | none => ""

end TextError

/-- Reads a text over the defaults of an environment. -/
def parse (env : Environment) (source : String) : Except TextError Config := do
  let chars := source.toList
  let table ← (readDocument chars).mapError fun fault =>
    ⟨fault.message, some ((Span.ofPlace fault.place).offsets chars)⟩
  (readTable (.default env) table).mapError fun rejection =>
    ⟨rejection.mismatch.message, rejection.span.map (Span.offsets chars)⟩

/-- The text of a configuration. -/
def render (config : Config) : String :=
  "\n".intercalate [
    agentFormat.write config.agent,
    serverFormat.write config.server,
    shellFormat.write config.shell,
    recordingFormat.write config.recording,
    playbackFormat.write config.playback,
    reconnectFormat.write config.reconnect,
    dependencyFormat.write config.dependency]

/-- Why a configuration has no text. -/
inductive RenderError where
  /-- A number is too large for the numbers of a text, which have 64 bits with sign. -/
  | outOfRange
  deriving Repr, DecidableEq

namespace RenderError

/-- What was done and what came of it, from the outside in. -/
def chain : RenderError → List String
  | outOfRange =>
      ["Failed to serialize configuration to TOML", "out-of-range value for u64 type"]

end RenderError

/-- The settings that are numbers of 64 bits without sign. -/
def wideNumbers (config : Config) : List UInt64 := [
  config.server.heartbeatIntervalSecs,
  config.server.heartbeatTimeoutSecs,
  config.recording.flushIntervalMs,
  config.recording.flushThresholdBytes,
  config.playback.lingerSecs,
  config.reconnect.initialBackoffMs,
  config.reconnect.maxBackoffMs,
  config.dependency.pollIntervalMs]

/-- The text of a configuration, if its numbers can be written. -/
def toText (config : Config) : Except RenderError String :=
  if config.wideNumbers.all fun n => n.toNat < 0x8000000000000000 then .ok config.render
  else .error .outOfRange

end TerminalAgent.Config
