import TerminalAgent.Session.Output
import TerminalAgent.Session.ShellSpec

/-!
# What runs shells

Sessions need little of the machine: to start a shell on a terminal of its own, to write to that
terminal and read from it, to change its size, and to end the shell.
-/

namespace TerminalAgent

/-- A machine that runs shells; `π` is the state of one shell and its terminal. What fails says why. -/
structure Host (π : Type) where
  launch : ShellSpec → Except String π
  /-- Types bytes at the terminal. -/
  write : Bytes → π → Except String Unit × π
  resize : (cols rows : UInt16) → π → Except String Unit × π
  /-- What was put out since the last time, in pieces and in order. -/
  read : π → List Output × π
  /-- What is put out from now on until nobody is left who could put something out, if that ever comes. -/
  readToEnd? : π → Option (List Output × π)
  /-- Whether nobody is left who could put something out. -/
  hasEnded : π → Bool
  /-- How the shell ended, if it has. -/
  exitCode? : π → Option Nat
  /-- Ends the shell if it has not ended, and tells its exit code. -/
  kill : π → Except String Nat × π
  /-- Ends everything that the shell has left behind. -/
  killGroup : π → π

end TerminalAgent
