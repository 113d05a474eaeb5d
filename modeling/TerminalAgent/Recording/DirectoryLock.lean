import TerminalAgent.Recording.StoreError
import TerminalAgent.Text.Blank
import TerminalAgent.Text.Utf8

/-!
# Ownership of a recordings directory

The owner of a directory keeps a file there that holds the number of its process. A file that names
no running process is stale and is taken over. Taking and giving up ownership are sequences of file
operations; `step` performs one of them, so that the steps of several processes can be interleaved.
-/

namespace TerminalAgent.DirectoryLock

/-- The name of the file in the owned directory. -/
def fileName : String := "agent.pid"

/-- A process that may own the directory. -/
structure Contender where
  pid : Nat
  /-- The path of the file, as errors name it. -/
  path : String
  /-- Whether a process is running. -/
  isRunning : Nat → Bool

/-- How far a process has come. `left` counts the attempts that remain. -/
inductive Phase where
  /-- About to make the file. -/
  | creating (left : Nat)
  /-- The file is made; about to write the process number. -/
  | writing (id : Nat)
  /-- The file was there; about to see who owns it. -/
  | inspecting (left : Nat)
  /-- The owner is gone; about to remove the file. -/
  | clearing (left : Nat)
  /-- Out of attempts; about to see who owns the file. -/
  | blaming
  | holding
  | refused (error : StoreError)
  /-- About to see whether the file is still its own. -/
  | releasing
  /-- About to remove its own file. -/
  | withdrawing
  | released
  deriving Repr, DecidableEq

/-- A natural number below `2 ^ 32` in decimal digits, with an optional plus sign. -/
def parsePid? (s : String) : Option Nat :=
  let digits :=
    match s.toList with
    | '+' :: rest => rest
    | cs => cs
  if digits ≠ [] && digits.all Char.isDigit then
    let n := digits.foldl (fun n c => 10 * n + (c.toNat - 48)) 0
    if n < 0x100000000 then some n else none
  else none

/-- The process that the file names. -/
def owner? (volume : Volume) : Option Nat := do
  let bytes ← (volume.read fileName).toOption
  let text ← Utf8.decode? bytes
  parsePid? (Text.trim text)

/-- What the file of a process holds. -/
def fileText (pid : Nat) : Bytes :=
  Utf8.encode (toString pid ++ "\n")

/-- Performs the next file operation. -/
def step (self : Contender) : Phase → Volume → Phase × Volume
  | .creating 0, volume => (.blaming, volume)
  | .creating (left + 1), volume =>
      match volume.createNew fileName with
      | .ok (volume, id) => (.writing id, volume)
      | .error .alreadyExists => (.inspecting left, volume)
      | .error fault => (.refused (.io self.path fault), volume)
  | .writing id, volume => (.holding, volume.append id (fileText self.pid))
  | .inspecting left, volume =>
      match owner? volume with
      | some pid =>
          if self.isRunning pid then (.refused (.locked self.path pid), volume)
          else (.clearing left, volume)
      | none => (.clearing left, volume)
  | .clearing left, volume =>
      match volume.remove fileName with
      | .ok volume => (.creating left, volume)
      | .error .notFound => (.creating left, volume)
      | .error fault => (.refused (.io self.path fault), volume)
  | .blaming, volume =>
      match owner? volume with
      | some pid => (.refused (.locked self.path pid), volume)
      | none => (.refused (.io self.path (.other "entity already exists")), volume)
  | .releasing, volume =>
      if owner? volume = some self.pid then (.withdrawing, volume) else (.released, volume)
  | .withdrawing, volume =>
      match volume.remove fileName with
      | .ok volume => (.released, volume)
      | .error _ => (.released, volume)
  | .holding, volume => (.holding, volume)
  | .refused error, volume => (.refused error, volume)
  | .released, volume => (.released, volume)

/-- Performs so many operations in a row. -/
def steps (self : Contender) : Nat → Phase × Volume → Phase × Volume
  | 0, state => state
  | n + 1, state => steps self n (step self state.1 state.2)

/-- How often a process tries to make the file. -/
def attempts : Nat := 2

/-- Takes ownership of the directory undisturbed. -/
def acquire (self : Contender) (volume : Volume) : Except StoreError Unit × Volume :=
  match steps self (3 * attempts + 2) (.creating attempts, volume) with
  | (.refused error, volume) => (throw error, volume)
  | (_, volume) => (pure (), volume)

/-- Gives up ownership undisturbed; a file that others took over stays. -/
def release (self : Contender) (volume : Volume) : Volume :=
  (steps self 2 (.releasing, volume)).2

end TerminalAgent.DirectoryLock
