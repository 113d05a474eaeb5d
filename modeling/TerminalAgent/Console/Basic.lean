import TerminalAgent.Console.Program
import TerminalAgent.Console.Terminal
import TerminalAgent.Storage.FileTree

/-!
# A console

A terminal with the programs that run on it, of which the one in front reads what is typed.
-/

namespace TerminalAgent

structure Console where
  files : FileTree
  terminal : Terminal
  /-- The one in front first; each was started by the next one. -/
  programs : List Program
  /-- Output that was not read yet, oldest first. -/
  unread : List Output
  /-- The exit status of the first program, once it has ended. -/
  exitCode : Option Nat
  /-- How many programs were left running beside the others. -/
  jobs : Nat
  deriving Repr, DecidableEq

namespace Console

/-- How much is read at a time. -/
def readSize : Nat := 4096

/-- Output in pieces that can be read at a time. -/
def pieces (echo : EchoMode) : (fuel : Nat) → Bytes → List Output
  | 0, _ => []
  | fuel + 1, bytes =>
      if bytes.isEmpty then []
      else ⟨bytes.take readSize, echo⟩ :: pieces echo fuel (bytes.drop readSize)

/-- Shows bytes on the screen. -/
def show_ (console : Console) (bytes : Bytes) : Console :=
  { console with
    unread := console.unread ++ pieces console.terminal.echo (bytes.length / readSize + 1) bytes }

/-- What a program writes. -/
def write (console : Console) (text : Bytes) : Console :=
  console.show_ (Terminal.onScreen text)

def writeText (console : Console) (text : String) : Console :=
  console.write (Utf8.encode text)

/-- Puts the program in front into another state. -/
def withFront (console : Console) (program : Program) : Console :=
  { console with programs := program :: console.programs.tail }

/-- The exit status that a shell sees of a program that a signal ended. -/
def interruptedStatus : Nat := 130

/-- The exit code of a program that a signal ended, as it is reported. -/
def killedCode : Nat := 1

/-- The program in front goes on after one that it waited for. -/
def leaveTo (console : Console) (status : Nat) : Console :=
  match console.programs with
  | .shell shell :: rest => { console with programs := .shell { shell with status } :: rest }
  | [] => { console with exitCode := some (console.exitCode.getD (status % 256)) }
  | _ => console

/-- The program in front ends. -/
def leave (console : Console) (status : Nat) : Console :=
  { console with programs := console.programs.tail }.leaveTo status

end Console

end TerminalAgent
