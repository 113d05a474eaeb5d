import TerminalAgent.Console.Command

/-!
# Running

Shells do what they have to do, one thing at a time, until nothing happens before somebody types.
-/

namespace TerminalAgent.Console

open Script

/-- What happens next. -/
inductive Next where
  /-- Nothing until somebody types. -/
  | idle
  | changed (console : Console)
  /-- A program is started beside the others. -/
  | beside (program : Program) (console : Console)

/-- Gives variables the fields of a line; the last one gets the rest. -/
def setFields (shell : Shell) (names : List String) (line : String) : Shell :=
  let fields := (line.splitToList fun c => c = ' ' || c = '\t' || c = '\n').filter (· ≠ "")
  names.zipIdx.foldl
    (fun shell (name, i) =>
      let rest := fields.drop i
      shell.set name (if i + 1 < names.length then rest.headD "" else " ".intercalate rest))
    shell

/-- A shell does what comes next of its line. -/
def runTask (console : Console) (shell : Shell) : Task → Next
  | .run .nothing => .changed (console.withFront (.shell shell))
  | .run (.simple words) => .changed (console.runWords shell words)
  | .run (.subshell body) =>
      .changed { console with
        programs := .shell (shell.child body) :: .shell shell :: console.programs.tail }
  | .run (.sequence first second) =>
      .changed (console.withFront (.shell { shell with
        todo := .run first :: .run second :: shell.todo }))
  | .run (.ifSucceeded first second) =>
      .changed (console.withFront (.shell { shell with
        todo := .run first :: .ifSucceeded second :: shell.todo }))
  | .run (.ifFailed first second) =>
      .changed (console.withFront (.shell { shell with
        todo := .run first :: .ifFailed second :: shell.todo }))
  | .run (.forEach name words body) =>
      .changed (console.withFront (.shell { shell with
        todo := .forEach name (words.flatMap (expand shell.value)) body :: shell.todo }))
  | .run (.loop isUntil condition body) =>
      .changed (console.withFront (.shell { shell with
        todo := .run condition :: .loop isUntil condition body :: shell.todo }))
  | .run (.ifThen condition yes no) =>
      .changed (console.withFront (.shell { shell with
        todo := .run condition :: .choose yes no :: shell.todo }))
  | .run (.background body) =>
      .beside (.shell (shell.child body)) (console.withFront (.shell { shell with status := 0 }))
  | .forEach _ [] _ => .changed (console.withFront (.shell shell))
  | .forEach name (argument :: arguments) body =>
      .changed (console.withFront (.shell { shell.set name argument with
        todo := .run body :: .forEach name arguments body :: shell.todo }))
  | .loop isUntil condition body =>
      .changed (console.withFront (.shell
        (if decide (shell.status = 0) = isUntil then { shell with status := 0 }
        else { shell with todo := .run body :: .run (.loop isUntil condition body) :: shell.todo })))
  | .choose yes no =>
      .changed (console.withFront (.shell
        (if shell.status = 0 then { shell with todo := .run yes :: shell.todo }
        else { shell with status := 0, todo := .run no :: shell.todo })))
  | .read names =>
      match console.terminal.lines with
      | [] => .idle
      | line :: lines =>
          let shell := setFields { shell with status := if line.isEmpty then 1 else 0 } names
            (Utf8.decodeLossy line)
          .changed { console.withFront (.shell shell) with
            terminal := { console.terminal with lines } }
  | .ifSucceeded command =>
      .changed (console.withFront (.shell
        (if shell.status = 0 then { shell with todo := .run command :: shell.todo } else shell)))
  | .ifFailed command =>
      .changed (console.withFront (.shell
        (if shell.status = 0 then shell else { shell with todo := .run command :: shell.todo })))

/-- A shell reads a line. -/
def readLine (console : Console) (shell : Shell) (line : Bytes) : Console :=
  if line.isEmpty then (console.writeText "\n").leave shell.status
  else
    let shell := { shell with lineNumber := shell.lineNumber + 1, isPrompted := false }
    let text := shell.unfinished ++ Utf8.decodeLossy line
    match parse text with
    | .ok command => console.withFront (.shell { shell with unfinished := "", todo := [.run command] })
    | .error .unfinished => console.withFront (.shell { shell with unfinished := text })
    | .error (.unexpected token) =>
        (console.complain shell ("Syntax error: \"" ++ token ++ "\" unexpected")).withFront
          (.shell { shell with unfinished := "", status := 2 })

/-- What a shell asks for the next line with. -/
def prompt (shell : Shell) : String :=
  if shell.unfinished.isEmpty then (shell.vars.get? "PS1").getD "# "
  else (shell.vars.get? "PS2").getD "> "

def next (console : Console) : Next :=
  match console.programs with
  | [] | .asleep :: _ => .idle
  | .cat :: _ =>
      match console.terminal.lines with
      | [] => .idle
      | line :: lines =>
          let console := { console with terminal := { console.terminal with lines } }
          .changed (if line.isEmpty then console.leave 0 else console.write line)
  | .shell shell :: _ =>
      match shell.todo with
      | task :: todo => runTask console { shell with todo } task
      | [] =>
          if !shell.isInteractive then .changed (console.leave shell.status)
          else if !shell.isPrompted then
            .changed ((console.writeText (prompt shell)).withFront
              (.shell { shell with isPrompted := true }))
          else
            match console.terminal.lines with
            | [] => .idle
            | line :: lines =>
                .changed (readLine { console with terminal := { console.terminal with lines } }
                  shell line)

/-- Lets the programs run until nothing happens, at most for `fuel` steps. A program that runs beside
    the others gets no input. -/
def run : (fuel : Nat) → Console → Console
  | 0, console => console
  | fuel + 1, console =>
      match console.next with
      | .idle => console
      | .changed console => run fuel console
      | .beside program console =>
          let job := run fuel { console with
            programs := [program], exitCode := none,
            terminal := { console.terminal with lines := [] } }
          let jobs := if job.exitCode.isSome then job.jobs else job.jobs + 1
          run fuel { console with
            unread := job.unread, jobs,
            terminal := { job.terminal with lines := console.terminal.lines } }

/-- How many steps programs are given before they are taken to go on forever. -/
def stepLimit : Nat := 1000000

def settle (console : Console) : Console :=
  run stepLimit console

/-! ## From outside -/

/-- The programs that are left when a signal reaches those in front: it ends them up to the nearest
    shell that reads from the terminal. -/
def afterSignal : List Program → List Program
  | [] => []
  | .shell shell :: rest =>
      if shell.isInteractive then
        .shell { shell with
          todo := [], unfinished := "", isPrompted := false, status := interruptedStatus } :: rest
      else afterSignal rest
  | _ :: rest => afterSignal rest

/-- A signal reaches the programs in front. -/
def raise (console : Console) (signal : Signal) : Console :=
  match signal, console.programs with
  | .quit, .shell shell :: _ => if shell.isInteractive then console else kill
  | _, _ => kill
where
  kill : Console :=
    match afterSignal console.programs with
    | [] => { console with programs := [], exitCode := some (console.exitCode.getD killedCode) }
    | programs => { console with programs }.writeText "\n"

/-- Bytes are typed. -/
def type (console : Console) (bytes : Bytes) : Console :=
  let typed := console.terminal.type bytes
  let console := { console with terminal := typed.terminal }.show_ typed.screen
  (typed.signals.foldl raise console).settle

/-- Whether every program has ended, so that there is no more output. -/
def hasEnded (console : Console) : Bool :=
  console.exitCode.isSome && console.jobs = 0

def resize (console : Console) (cols rows : UInt16) : Console :=
  { console with terminal := { console.terminal with cols, rows } }

/-- Ends the first program and those that it started, but not those beside them. -/
def kill (console : Console) : Console :=
  { console with programs := [], exitCode := some (console.exitCode.getD killedCode) }

/-- Ends all programs. -/
def killAll (console : Console) : Console :=
  { console.kill with jobs := 0 }

end TerminalAgent.Console
