import TerminalAgent.Console.Expansion

/-!
# Programs on a console

Shells, which do what they read, and the few other programs that matter to somebody at a terminal. There
is no clock: a program that sleeps for a short time comes back at once, and one that sleeps for long
never does.
-/

namespace TerminalAgent

open Script

/-- What a shell still has to do for a line. -/
inductive Task where
  | run (command : Command)
  | ifSucceeded (command : Command)
  | ifFailed (command : Command)
  /-- The command once for each argument. -/
  | forEach (name : String) (arguments : List String) (body : Command)
  /-- What depends on the condition of a loop, which was just tried. -/
  | loop (isUntil : Bool) (condition body : Command)
  /-- What depends on a condition that was just tried. -/
  | choose (yes no : Command)
  /-- Reads a line into variables. -/
  | read (names : List String)
  deriving Repr, DecidableEq

/-- A shell at work. -/
structure Shell where
  /-- How it calls itself in complaints. -/
  name : String
  /-- The number of its process. -/
  number : Nat
  vars : SortedMap String
  directory : String
  /-- The exit status of the last command. -/
  status : Nat
  /-- How many lines it has read. -/
  lineNumber : Nat
  todo : List Task
  /-- Whether it reads commands from the terminal. -/
  isInteractive : Bool
  /-- Lines of a command that is not finished. -/
  unfinished : String
  /-- Whether it has asked for the next line. -/
  isPrompted : Bool
  deriving Repr, DecidableEq

namespace Shell

def value (shell : Shell) (name : String) : String :=
  if name = "?" then toString shell.status
  else if name = "0" then shell.name
  else if name = "#" then "0"
  else if name = "$" then toString shell.number
  else (shell.vars.get? name).getD ""

/-- A shell of its own that does one thing. -/
def child (shell : Shell) (body : Command) : Shell :=
  { shell with todo := [.run body], isInteractive := false, unfinished := "", status := 0 }

def set (shell : Shell) (name value : String) : Shell :=
  { shell with vars := shell.vars.insert name value }

end Shell

inductive Program where
  /-- Repeats every line. -/
  | cat
  /-- Does nothing for longer than anybody waits. -/
  | asleep
  | shell (shell : Shell)
  deriving Repr, DecidableEq

end TerminalAgent
