import TerminalAgent.CommandLine.Execution

/-!
# The program

Looks at the machine as far as the words and the configuration name it, lets `CommandLine.execute`
answer, and does what the answer says: printing, and making directories. The network is left alone, so
the agent behaves as it does where no server can be reached.
-/

namespace TerminalAgent.Program

/-- The variables that mean something to the agent. -/
def variableNames : List String :=
  ["HOME", "PATH", "SHELL", "XDG_CONFIG_HOME", "XDG_DATA_HOME", "DEVTERM_SERVER_URL",
    "DEVTERM_SERVER_TOKEN", "DEVTERM_LOG_LEVEL", "DEVTERM_DEPENDENCY_SOCKET"]

/-- The environment before any file was looked at. -/
def bareEnvironment : IO Environment := do
  let vars ← variableNames.filterMapM fun name => do
    return (← IO.getEnv name).map fun value => (name, value)
  let here ← IO.currentDir
  return ⟨.ofList vars, .empty, "/", here.toString⟩

/-- Puts what stands at an absolute path, and on the way to it, into a tree. Every file is taken for one
    that can be run, and is empty unless it is to be read. -/
def look (isToRead : Bool) (tree : FileTree) (path : String) : IO FileTree := do
  let here ← IO.currentDir
  let rec follow (tree : FileTree) (within : List String) : List String → IO FileTree
    | [] => return tree
    | ".." :: rest => follow tree within.dropLast rest
    | part :: rest => do
        let parts := within ++ [part]
        let place := here / ("/" ++ "/".intercalate parts)
        if ← place.isDir then follow (tree.put parts .directory) parts rest
        else if ← place.pathExists then
          let bytes ← if isToRead then IO.FS.readBinFile place else pure ⟨#[]⟩
          return tree.put parts (.file bytes.toList true)
        else return tree
  follow tree [] (Path.parts path)

/-- Puts a directory and what is in it into a tree. -/
def lookInto (tree : FileTree) (path : String) : IO FileTree := do
  let tree ← look true tree path
  if tree.isDirectory path then
    let entries ← ((← IO.currentDir) / path).readDir
    entries.foldlM (fun tree entry => look true tree (Path.join path entry.fileName)) tree
  else return tree

/-- The places where a command may be. -/
def commandPlaces (env : Environment) (command : String) : List String :=
  env.place command :: env.searchPath.map fun directory => Path.join directory command

/-- The environment with all files that matter to these words. -/
def environment (words : List String) : IO Environment := do
  let env ← bareEnvironment
  let named := ((CommandLine.Invocation.ofWords words).toOption.bind (·.configPath)).getD
    (Config.defaultPath env)
  let env := { env with files := ← look true env.files (env.place named) }
  match CommandLine.readConfig env (some named) with
  | .error _ => return env
  | .ok config =>
      let places := commandPlaces env config.shell.command
        ++ (config.agent.logDir.toList ++ config.dependency.socketPath.toList).map env.place
      let files ← places.foldlM (look false) env.files
      return { env with files := ← lookInto files (env.place config.recordingsDir) }

/-- The numbers of the processes that run, and of this one. -/
def processes : IO (List Nat × Nat) := do
  let table := (← IO.currentDir) / "/proc"
  if ← table.isDir then
    let running := (← table.readDir).toList.filterMap (·.fileName.toNat?)
    let self ← IO.FS.realPath (table / "self")
    return (running, (self.fileName.bind (·.toNat?)).getD 0)
  else return ([], 0)

/-- The machine, as far as it matters to these words. Its own addresses are not looked up: it is taken to
    have every one that it is asked to listen at. -/
def machine (words : List String) : IO CommandLine.Machine := do
  let env ← environment words
  let (running, self) ← processes
  return ⟨env, .isolated fun _ => true, [], self, running.contains⟩

/-- Makes the directories that are in a tree but were not in an earlier one. -/
def makeDirectories (before after : FileTree) : IO Unit := do
  let missing := after.entries.filter fun entry =>
    entry.2 = .directory && (before.at? entry.1).isNone
  missing.forM fun entry => IO.FS.createDirAll ("/" ++ "/".intercalate entry.1)

/-- Answers the words after the name of the program. -/
def run (words : List String) : IO UInt32 := do
  let machine ← machine words
  let outcome := CommandLine.execute machine words
  makeDirectories machine.env.files outcome.files
  let output ← IO.getStdout
  output.write ⟨outcome.output.toArray⟩
  output.flush
  IO.eprint outcome.errors
  return UInt32.ofNat outcome.exitCode

end TerminalAgent.Program

def main (words : List String) : IO UInt32 :=
  TerminalAgent.Program.run words
