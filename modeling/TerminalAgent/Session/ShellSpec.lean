import TerminalAgent.Config.Basic

/-!
# What shell to run

The command, the size of its terminal, the variables it gets and the directory it runs in.
-/

namespace TerminalAgent

structure ShellSpec where
  command : String
  cols : UInt16
  rows : UInt16
  env : SortedMap String
  /-- The working directory; the home of the user if none is set. -/
  cwd : Option String
  deriving Repr, DecidableEq

namespace ShellSpec

/-- The size of a terminal where nothing asks for another one. -/
def defaultSize : UInt16 × UInt16 := (80, 24)

def default : ShellSpec where
  command := "/bin/sh"
  cols := defaultSize.1
  rows := defaultSize.2
  env := ∅
  cwd := none

/-- The shell that a configuration asks for. -/
def ofConfig (config : Config.Shell) : ShellSpec where
  command := config.command
  cols := config.cols
  rows := config.rows
  env := config.env
  cwd := none

end ShellSpec

end TerminalAgent
