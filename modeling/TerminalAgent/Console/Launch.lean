import TerminalAgent.Console.Run
import TerminalAgent.Environment
import TerminalAgent.Session.Host

/-!
# Starting shells on consoles

The command of a shell is the path of a program or a name on the search path. Whether it can be started
is found out before; what turns out to be no program only afterwards starts and fails.
-/

namespace TerminalAgent.Console

/-- The directory that a shell starts in. -/
def startDirectory (env : Environment) (spec : ShellSpec) : String :=
  match spec.cwd.filter env.files.isDirectory with
  | some directory => directory
  | none => env.home

/-- The variables that a shell gets. -/
def startVariables (env : Environment) (spec : ShellSpec) : SortedMap String :=
  spec.env.entries.foldl (fun vars entry => vars.insert entry.1 entry.2) env.vars

/-- Why a path that should be run cannot be, if it cannot. -/
def accessFault? (files : FileTree) (path : String) : Option String :=
  match files.lookup path with
  | .ok .directory => none
  | .ok (.file _ isProgram) => if isProgram then none else some "EACCES: Permission denied"
  | .error .notADirectory => some "ENOTDIR: Not a directory"
  | .error _ => some "ENOENT: No such file or directory"

/-- The path of the program that a command names. -/
def findProgram (env : Environment) (spec : ShellSpec) : Except String String :=
  let command := spec.command
  if Path.isAbsolute command then
    match accessFault? env.files command with
    | none => pure command
    | some fault =>
        throw (s!"Unable to spawn {command} because it doesn't exist on the filesystem "
          ++ s!"or is not executable ({fault})")
  else
    let here := Path.join (startDirectory env spec) command
    if env.files.hasPath here then pure here
    else
      let path := ((startVariables env spec).get? "PATH").getD ""
      let candidates := (path.splitOn ":").map fun directory => Path.join directory command
      match candidates.find? fun candidate => (accessFault? env.files candidate).isNone with
      | some candidate => pure candidate
      | none =>
          throw (s!"Unable to spawn {command} because it doesn't exist on the filesystem "
            ++ "and was not found in PATH")

/-- The exit code of what turns out not to be a program. -/
def noProgramCode : Nat := 1

/-- The first shell of a console, or the program in its place. -/
def firstShell (env : Environment) (spec : ShellSpec) : Shell where
  name := spec.command
  number := 1000
  vars := startVariables env spec
  directory := startDirectory env spec
  status := 0
  lineNumber := 0
  todo := []
  isInteractive := true
  unfinished := ""
  isPrompted := false

/-- Starts the program at a path. -/
def begin_ (env : Environment) (spec : ShellSpec) (path : String) : Console :=
  let shell := firstShell env spec
  let console : Console :=
    { files := env.files, terminal := .new spec.cols spec.rows, programs := [.shell shell],
      unread := [], exitCode := none, jobs := 0 }
  if !env.files.isProgram path then console.leave noProgramCode
  else
    match (Path.parts path).getLast? with
    | some "sh" | some "dash" => console.settle
    | some name => (console.replaceFront ((start? shell name []).getD (.ended 0 ""))).settle
    | none => console.leave noProgramCode

/-- The machine that an environment describes. -/
def host (env : Environment) : Host Console where
  launch spec := (findProgram env spec).map (begin_ env spec)
  write bytes console :=
    if console.hasEnded then (throw "Input/output error (os error 5)", console)
    else (pure (), console.type bytes)
  resize cols rows console := (pure (), console.resize cols rows)
  read console := (console.unread, { console with unread := [] })
  -- Unless something is typed, a console that waits puts out nothing more.
  readToEnd? console :=
    if console.hasEnded then some (console.unread, { console with unread := [] }) else none
  hasEnded := hasEnded
  exitCode? := exitCode
  kill console := (pure (console.exitCode.getD killedCode), console.kill)
  killGroup := killAll

end TerminalAgent.Console
