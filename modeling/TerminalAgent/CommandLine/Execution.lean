import TerminalAgent.Agent.Basic
import TerminalAgent.CommandLine.Invocation
import TerminalAgent.Config.Check
import TerminalAgent.Config.File

/-!
# Doing what was said

`execute` answers the words after the name of the program: what is printed, and how the program ends. It
is a function of the machine that the program runs on.
-/

namespace TerminalAgent.CommandLine

/-- What the program runs on. -/
structure Machine where
  env : Environment
  network : Network
  /-- The sockets on which somebody listens. -/
  listeners : List String
  /-- The number of the process. -/
  pid : Nat
  /-- Whether a process is running. -/
  isRunning : Nat → Bool

/-- What the program prints and how it ends. -/
structure Outcome where
  exitCode : Nat
  output : Bytes
  errors : String
  /-- The files of the machine afterwards, as far as directories were made. -/
  files : FileTree
  deriving Repr, DecidableEq

/-! ## Reports -/

/-- A cause below an error: its lines, behind its number if there are several. -/
def causeText (number : Option Nat) (cause : String) : String :=
  let (first, later) : String × String :=
    match number with
    | some n => (String.ofList ((toString n).toList.leftpad 5 ' ') ++ ": ", "       ")
    | none => ("    ", "    ")
  first ++ ("\n" ++ later).intercalate (cause.splitOn "\n")

/-- What went wrong, from the outside in. -/
def report (chain : List String) : String :=
  let causes := chain.drop 1
  let texts :=
    match causes with
    | [cause] => [causeText none cause]
    | causes => causes.mapIdx fun i cause => causeText (some i) cause
  let below := if causes.isEmpty then "" else "\n\nCaused by:\n" ++ "\n".intercalate texts
  "Error: " ++ chain.headD "" ++ below ++ "\n"

/-- What a task prints, or what went wrong from the outside in, and the files after it. -/
abbrev TaskResult := Except (List String) Bytes × FileTree

/-! ## Recordings -/

/-- The store on the directory of recordings, which is made if it is not there. -/
def openStore (env : Environment) (config : Config) :
    Except AgentError (FileStore × Volume) × FileTree :=
  let path := config.recordingsDir
  match env.files.makeDirectories (env.place path) with
  | .ok files => (pure (FileStore.open_ path (files.volume (env.place path))), files)
  | .error fault => (throw (.openingStore path (.io path fault)), env.files)

/-- Does something with the recordings that there are. -/
def withArchive (env : Environment) (config : Config)
    (task : Archive → Except PlaybackError Bytes) : TaskResult :=
  match openStore env config with
  | (.error error, files) => (throw error.chain, files)
  | (.ok (store, volume), files) =>
      ((task (store.archive volume)).mapError PlaybackError.chain, files)

/-- A text in a column of some width. -/
def alignLeft (width : Nat) (text : String) : String :=
  String.ofList (text.toList.rightpad width ' ')

def alignRight (width : Nat) (text : String) : String :=
  String.ofList (text.toList.leftpad width ' ')

/-- One row of the table of recordings. -/
def tableRow (id size chunks : String) : String :=
  alignLeft 38 id ++ " " ++ alignRight 10 size ++ " " ++ alignRight 8 chunks ++ "\n"

def table (recordings : List RecordingSummary) : String :=
  if recordings.isEmpty then "No recordings.\n"
  else
    tableRow "SESSION" "BYTES" "CHUNKS"
      ++ String.join (recordings.map fun r => tableRow r.id (toString r.size) (toString r.chunks))

/-- A recording in JSON. Keys of recordings have no characters that need an escape. -/
def jsonEntry (r : RecordingSummary) : String :=
  "  \x7b\n    \"session_id\": \"" ++ r.id ++ "\",\n    \"size_bytes\": " ++ toString r.size
    ++ ",\n    \"chunks\": " ++ toString r.chunks ++ "\n  \x7d"

def json (recordings : List RecordingSummary) : String :=
  if recordings.isEmpty then "[]\n"
  else "[\n" ++ ",\n".intercalate (recordings.map jsonEntry) ++ "\n]\n"

/-! ## The agent -/

/-- Runs the agent until it gives up. On a machine that can reach the server the agent would not end by
    itself, and neither does one that never gives up; both are left while they run. -/
def runAgent (machine : Machine) (config : Config) : TaskResult :=
  match openStore machine.env config with
  | (.error error, files) => (throw error.chain, files)
  | (.ok (_, volume), files) =>
      match (Agent.create config machine.pid machine.isRunning volume).1 with
      | .error error => (throw error.chain, files)
      | .ok agent =>
          match agent.start machine.network with
          | (.error error, _) => (throw error.chain, files)
          | (.ok (), agent) =>
              let isReady := agent.isDependencyReady machine.env machine.listeners
              let isReached := (WebSocket.connect machine.network (.ofConfig config.server)).toBool
              let agent := if isReached then agent else agent.runUnreached isReady
              match agent.stop.1 with
              | .error error => (throw error.chain, files)
              | .ok () =>
                  if agent.hasGivenUp then (throw ["Giving up: could not reach the server"], files)
                  else (pure [], files)

/-! ## All tasks -/

/-- The configuration of the file that was named, or that of the user, and of the environment. -/
def readConfig (env : Environment) (path : Option String) : Except Config.FileError Config := do
  let config ← match path with
    | some path => Config.load env path
    | none => Config.loadDefault env
  pure (config.overridden env)

/-- The configuration if the agent can run with it. -/
def effectiveConfig (env : Environment) (path : Option String) : Except (List String) Config := do
  let config ← (readConfig env path).mapError Config.FileError.chain
  (config.check env).mapError fun error => [error.message]
  pure config

/-- Makes the directory for logs, if there is to be one. -/
def makeLogDirectory (env : Environment) (config : Config) : Except (List String) FileTree :=
  match config.agent.logDir with
  | none => pure env.files
  | some path =>
      (env.files.makeDirectories (env.place path)).mapError fun fault =>
        ["Failed to create log directory: " ++ path, fault.message]

def perform (machine : Machine) (config : Config) : Task → TaskResult
  | .run => runAgent machine config
  | .playback id _ =>
      withArchive machine.env config fun archive => do
        let chunks ← Playback.load archive id
        pure (chunks.flatMap (·.data))
  | .recordings asJson =>
      withArchive machine.env config fun archive => do
        let recordings ← Playback.list archive
        pure (Utf8.encode (if asJson then json recordings else table recordings))
  | .config isDefault =>
      let shown := if isDefault then .default machine.env else config
      match shown.toText with
      | .ok text => (pure (Utf8.encode text), machine.env.files)
      | .error error => (throw error.chain, machine.env.files)

/-- Does what an invocation says. -/
def invoke (machine : Machine) (invocation : Invocation) : TaskResult :=
  let env := machine.env
  match effectiveConfig env invocation.configPath with
  | .error chain => (throw chain, env.files)
  | .ok config =>
      match makeLogDirectory env config with
      | .error chain => (throw chain, env.files)
      | .ok files => perform { machine with env := { env with files } } config invocation.task

/-- Answers the words after the name of the program. -/
def execute (machine : Machine) (words : List String) : Outcome :=
  let files := machine.env.files
  match Invocation.ofWords words with
  | .error (.help text) => ⟨0, Utf8.encode text, "", files⟩
  | .error .version => ⟨0, Utf8.encode (program ++ " " ++ version ++ "\n"), "", files⟩
  | .error (.nothingSaid text) => ⟨2, [], text, files⟩
  | .error (.wrong error) => ⟨2, [], error.message, files⟩
  | .ok invocation =>
      match invoke machine invocation with
      | (.ok output, files) => ⟨0, output, "", files⟩
      | (.error chain, files) => ⟨1, [], report chain, files⟩

end TerminalAgent.CommandLine
