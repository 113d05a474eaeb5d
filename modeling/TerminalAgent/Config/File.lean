import TerminalAgent.Config.Format

/-!
# Configuration files

A missing file stands for the defaults. Saving makes the directories on the way.
-/

namespace TerminalAgent.Config

/-- Why a configuration file cannot be read or written. -/
inductive FileError where
  | reading (path : String) (fault : FileFault)
  | parsing (path : String) (error : TextError)
  | makingDirectory (path : String) (fault : FileFault)
  | rendering (error : RenderError)
  | writing (path : String) (fault : FileFault)
  deriving Repr, DecidableEq

namespace FileError

/-- What was done and what came of it, from the outside in. -/
def chain : FileError → List String
  | reading path fault => ["Failed to read config file: " ++ path, fault.message]
  | parsing path error => ["Failed to parse config file: " ++ path, error.message]
  | makingDirectory path fault => ["Failed to create config directory: " ++ path, fault.message]
  | rendering error => error.chain
  | writing path fault => ["Failed to write config file: " ++ path, fault.message]

end FileError

/-- Reads the text of a file. -/
def readText (files : FileTree) (path : String) : Except FileFault String := do
  match Utf8.decode? (← files.read path) with
  | some s => pure s
  | none => throw .invalidData

/-- Reads a configuration file. -/
def load (env : Environment) (path : String) : Except FileError Config := do
  if !env.files.hasPath (env.place path) then pure (.default env)
  else
    let source ← (readText env.files (env.place path)).mapError (.reading path)
    (parse env source).mapError (.parsing path)

/-- Reads the configuration file of the user. -/
def loadDefault (env : Environment) : Except FileError Config :=
  load env (defaultPath env)

/-- Writes a configuration file. The directories are made even if the file then cannot be written. -/
def save (config : Config) (path : String) (files : FileTree) : Except FileError Unit × FileTree :=
  let made : Except FileError FileTree :=
    match Path.parent? path with
    | none => pure files
    | some parent => (files.makeDirectories parent).mapError (.makingDirectory parent)
  match made with
  | .error error => (throw error, files)
  | .ok files =>
      match config.toText with
      | .error error => (throw (.rendering error), files)
      | .ok text =>
          match files.write path (Utf8.encode text) with
          | .ok files => (pure (), files)
          | .error fault => (throw (.writing path fault), files)

end TerminalAgent.Config
