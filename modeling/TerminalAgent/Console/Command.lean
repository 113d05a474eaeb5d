import TerminalAgent.Console.Basic

/-!
# Commands

What a shell does for one command: something of its own, or starting a program. What is no program that
the console knows is not found.
-/

namespace TerminalAgent.Console

open Script

/-- The longest time, in seconds, that a sleeper comes back from. -/
def patience : Nat := 5

/-- What a program that is started does. -/
inductive Started where
  | ended (status : Nat) (output : String)
  | goesOn (program : Program)

/-- The seconds of a decimal number, rounded down. -/
def seconds? (text : String) : Option Nat :=
  match text.splitOn "." with
  | [whole] => whole.toNat?
  | [whole, part] => if part.toList.all Char.isDigit then whole.toNat? else none
  | _ => none

/-- Starts a program by its name. -/
def start? (shell : Shell) (name : String) (arguments : List String) : Option Started :=
  match name, arguments with
  | "true", _ => some (.ended 0 "")
  | "false", _ => some (.ended 1 "")
  | "cat", [] => some (.goesOn .cat)
  | "sleep", [time] =>
      match seconds? time with
      | some time => some (if patience < time then .goesOn .asleep else .ended 0 "")
      | none => some (.ended 1 ("sleep: invalid time interval '" ++ time ++ "'\n"))
  | "seq", arguments =>
      match seqText arguments with
      | some text => some (.ended 0 text)
      | none => some (.ended 1 "")
  | "echo", arguments => some (.ended 0 (echoText arguments))
  | "printf", format :: arguments => some (.ended 0 (printfText format arguments))
  | "pwd", _ => some (.ended 0 (shell.directory ++ "\n"))
  | "env", [] =>
      some (.ended 0 (String.join (shell.vars.entries.map fun e => s!"{e.1}={e.2}\n")))
  | "sh", "-c" :: text :: _ | "dash", "-c" :: text :: _ =>
      match parse text with
      | .ok body => some (.goesOn (.shell { shell.child body with name, number := shell.number + 1 }))
      | .error _ => some (.ended 2 s!"{name}: 1: Syntax error\n")
  | "sh", [] | "dash", [] =>
      some (.goesOn (.shell { shell.child .nothing with
        name, number := shell.number + 1, todo := [], isInteractive := true, lineNumber := 0, isPrompted := false }))
  | _, _ => none

/-- The name of the program that a command runs: one on the search path, or the last part of a path. -/
def programName? (console : Console) (command : String) : Option String :=
  if command.toList.contains '/' then
    if console.files.isProgram command then (Path.parts command).getLast? else none
  else some command

/-- A complaint of a shell. -/
def complain (console : Console) (shell : Shell) (text : String) : Console :=
  console.writeText s!"{shell.name}: {shell.lineNumber}: {text}\n"

/-- A program takes the place of the one in front. -/
def replaceFront (console : Console) : Started → Console
  | .ended status output => (console.writeText output).leave status
  | .goesOn program => console.withFront program

/-- Runs a program for the shell in front, or in its place. -/
def launch (console : Console) (shell : Shell) (isInPlace : Bool) (command : String)
    (arguments : List String) : Console :=
  match (console.programName? command).bind fun name => start? shell name arguments with
  | none =>
      let console := console.complain shell (command ++ ": not found")
      if isInPlace then console.leave 127 else console.withFront (.shell { shell with status := 127 })
  | some started =>
      if isInPlace then console.replaceFront started
      else
        match started with
        | .ended status output => (console.writeText output).withFront (.shell { shell with status })
        | .goesOn program =>
            { console with programs := program :: .shell shell :: console.programs.tail }

/-- Settings of the terminal. -/
def setTerminal (console : Console) (arguments : List String) : Console :=
  arguments.foldl
    (fun console argument =>
      let terminal := console.terminal
      match argument with
      | "size" => console.writeText s!"{terminal.rows.toNat} {terminal.cols.toNat}\n"
      | "echo" => { console with terminal := { terminal with echo := .enabled } }
      | "-echo" => { console with terminal := { terminal with echo := .disabled } }
      | _ => console)
    console

/-! ## Conditions -/

/-- Compares two numbers. -/
def compare? (operator : String) (a b : Int) : Option Bool :=
  match operator with
  | "-eq" => some (a = b)
  | "-ne" => some (a ≠ b)
  | "-lt" => some (a < b)
  | "-le" => some (a ≤ b)
  | "-gt" => some (a > b)
  | "-ge" => some (a ≥ b)
  | _ => none

/-- Whether a condition holds, if it is one. Every descriptor is a terminal. -/
def condition? (files : FileTree) (directory : String) : List String → Option Bool
  | [] => some false
  | [text] => some (text ≠ "")
  | "!" :: rest => (condition? files directory rest).map not
  | ["-n", text] => some (text ≠ "")
  | ["-z", text] => some (text = "")
  | ["-t", _] => some true
  | ["-e", path] => some (files.hasPath (Path.join directory path))
  | ["-d", path] => some (files.isDirectory (Path.join directory path))
  | ["-f", path] =>
      let place := Path.join directory path
      some (files.hasPath place && !files.isDirectory place)
  | [a, "=", b] => some (a = b)
  | [a, "!=", b] => some (a ≠ b)
  | [a, operator, b] => do compare? operator (← a.toInt?) (← b.toInt?)
  | _ => none

/-! ## Signals -/

/-- The number of a signal. -/
def signalNumber? (name : String) : Option Nat :=
  let known := [("HUP", 1), ("INT", 2), ("QUIT", 3), ("ABRT", 6), ("KILL", 9), ("USR1", 10), ("SEGV", 11),
    ("USR2", 12), ("PIPE", 13), ("ALRM", 14), ("TERM", 15)]
  name.toNat? <|> (known.find? fun entry => entry.1 = name || "SIG" ++ entry.1 = name).map (·.2)

/-- A signal and whom it is sent to. -/
def signalOf : List String → Option (Nat × List String)
  | "-s" :: name :: targets => (signalNumber? name).map (·, targets)
  | first :: targets =>
      if first.startsWith "-" then (signalNumber? (String.ofList (first.toList.drop 1))).map (·, targets)
      else some (15, first :: targets)
  | [] => none

/-- What a shell says of a program that a signal ended. -/
def signalText (signal : Nat) : String :=
  match signal with
  | 1 => "Hangup"
  | 6 => "Aborted"
  | 9 => "Killed"
  | 11 => "Segmentation fault"
  | 14 => "Alarm clock"
  | 15 => "Terminated"
  | n => s!"Signal {n}"

/-- Ends the shell of this number, and what it started, by a signal. Brackets start shells of the same
    number. -/
def endShell (console : Console) (number signal : Nat) : Console :=
  let isOther : Program → Bool
    | .shell shell => shell.number ≠ number
    | _ => true
  match (console.programs.reverse.takeWhile isOther).reverse with
  | [] => { console with programs := [], exitCode := some (console.exitCode.getD killedCode) }
  | programs => ({ console with programs }.writeText (signalText signal ++ "\n")).leaveTo (128 + signal)

/-- A shell sends itself a signal. One that reads from the terminal does not mind all of them. -/
def signalSelf (console : Console) (shell : Shell) (signal : Nat) : Console :=
  if signal = 0 || (shell.isInteractive && (signal = 3 || signal = 15)) then
    console.withFront (.shell { shell with status := 0 })
  else if shell.isInteractive && signal = 2 then
    (console.writeText "\n").withFront (.shell { shell with todo := [], status := interruptedStatus })
  else (console.withFront (.shell shell)).endShell shell.number signal

/-- Runs a command with its arguments for the shell in front. -/
def runSimple (console : Console) (shell : Shell) (command : String) (arguments : List String) : Console :=
  let done (console : Console) (shell : Shell) (status : Nat) : Console :=
    console.withFront (.shell { shell with status })
  let check (arguments : List String) : Console :=
    match condition? console.files shell.directory arguments with
    | some answer => done console shell (if answer then 0 else 1)
    | none => done (console.complain shell (command ++ ": unexpected operator")) shell 2
  match command, arguments with
  | "exit", [] => console.leave shell.status
  | "exit", status :: _ =>
      match status.toNat? with
      | some status => console.leave (status % 256)
      | none => done (console.complain shell s!"exit: Illegal number: {status}") shell 2
  | "exec", [] => done console shell 0
  | "exec", command :: arguments => console.launch shell true command arguments
  | ":", _ | "trap", _ | "set", _ => done console shell 0
  | "export", arguments =>
      let shell := arguments.foldl
        (fun (shell : Shell) argument =>
          match argument.splitOn "=" with
          | name :: first :: rest => shell.set name ("=".intercalate (first :: rest))
          | _ => shell)
        shell
      done console shell 0
  | "unset", arguments =>
      let vars := arguments.foldl (fun vars name => vars.erase name) shell.vars
      done console { shell with vars } 0
  | "cd", arguments =>
      let place := arguments.headD (shell.value "HOME")
      let target := Path.join shell.directory place
      match console.files.resolve target with
      | .ok parts =>
          if console.files.isDirectory target then
            done console { shell with directory := "/" ++ "/".intercalate parts } 0
          else done (console.complain shell ("cd: can't cd to " ++ place)) shell 2
      | .error _ => done (console.complain shell ("cd: can't cd to " ++ place)) shell 2
  | "stty", arguments => done (console.setTerminal arguments) shell 0
  | "read", names => console.withFront (.shell { shell with todo := .read names :: shell.todo })
  | "test", arguments => check arguments
  | "[", arguments =>
      if arguments.getLast? = some "]" then check arguments.dropLast
      else done (console.complain shell "[: missing ]") shell 2
  | "kill", arguments =>
      match signalOf arguments with
      | some (signal, [target]) =>
          if target = toString shell.number then console.signalSelf shell signal
          else done (console.complain shell "kill: No such process") shell 1
      | _ => done (console.complain shell "kill: usage") shell 2
  | "wait", _ =>
      if console.jobs = 0 then done console shell 0
      else { console with programs := .asleep :: .shell shell :: console.programs.tail }
  | command, arguments => console.launch shell false command arguments

/-- Runs a command without variables to be set for it. -/
def runWords (console : Console) (shell : Shell) (words : List Word) : Console :=
  let settings := words.takeWhile fun word => (assignment? shell.value word).isSome
  let shell := settings.foldl
    (fun (shell : Shell) word =>
      match assignment? shell.value word with
      | some (name, value) => shell.set name value
      | none => shell)
    shell
  match (words.drop settings.length).flatMap (expand shell.value) with
  | [] => console.withFront (.shell { shell with status := 0 })
  | command :: arguments => console.runSimple shell command arguments

end TerminalAgent.Console
