import TerminalAgent.Storage.FileTree

/-!
# The environment of the agent

The variables it was started with, the files of its machine, and the directories that follow from
them.
-/

namespace TerminalAgent

structure Environment where
  vars : SortedMap String
  /-- The files of the machine, from the root. -/
  files : FileTree
  /-- The home directory that the account has when no variable names one. -/
  accountHome : String
  /-- Where paths begin that do not begin at the root. -/
  workingDirectory : String
  deriving Repr, DecidableEq

namespace Environment

def value? (env : Environment) (name : String) : Option String :=
  env.vars.get? name

/-- A variable that is set and not empty. -/
def nonEmpty? (env : Environment) (name : String) : Option String :=
  (env.value? name).filter fun value => !value.isEmpty

/-- A path from the root. -/
def place (env : Environment) (path : String) : String :=
  if path.isEmpty then path else Path.join env.workingDirectory path

def home (env : Environment) : String :=
  (env.nonEmpty? "HOME").getD env.accountHome

/-- A directory named by a variable, if that is an absolute path, or else one in the home. -/
def userDirectory (env : Environment) (name inHome : String) : String :=
  match (env.value? name).filter Path.isAbsolute with
  | some path => path
  | none => Path.join env.home inHome

/-- Where settings of the user are kept. -/
def configHome (env : Environment) : String :=
  env.userDirectory "XDG_CONFIG_HOME" ".config"

/-- Where data of the user is kept. -/
def dataHome (env : Environment) : String :=
  env.userDirectory "XDG_DATA_HOME" ".local/share"

/-- The directories in which programs are looked for. -/
def searchPath (env : Environment) : List String :=
  match env.value? "PATH" with
  | some path => path.splitOn ":"
  | none => []

/-- Whether a command names a program: by an absolute path, by one from the working directory, or by a
    name on the search path. -/
def hasCommand (env : Environment) (command : String) : Bool :=
  if Path.isAbsolute command then env.files.hasPath command
  else if 1 < (Path.parts command).length then env.files.isProgram (env.place command)
  else env.searchPath.any fun directory => env.files.isProgram (Path.join directory command)

end Environment

end TerminalAgent
