/-!
# What can be said on the command line

The program has commands; a command has flags and at most one argument. Flags that every command has
may also stand before the command.
-/

namespace TerminalAgent.CommandLine

/-- What the value of a flag or an argument must be. -/
inductive ValueKind where
  /-- Any text. -/
  | text
  /-- Text that is not empty. -/
  | path
  /-- A natural number below `2 ^ 64`. -/
  | count
  deriving Repr, DecidableEq

namespace ValueKind

/-- A number in decimal digits, read up to the first thing that is wrong. -/
def readDigits : (value : Nat) → List Char → Except String Nat
  | value, [] => pure value
  | value, c :: rest =>
      if !c.isDigit then throw "invalid digit found in string"
      else
        let value := 10 * value + (c.toNat - '0'.toNat)
        if 0x10000000000000000 ≤ value then throw "number too large to fit in target type"
        else readDigits value rest

/-- A number with an optional plus sign. -/
def readCount (s : String) : Except String Nat :=
  match s.toList with
  | [] => throw "cannot parse integer from empty string"
  | '+' :: c :: rest => readDigits 0 (c :: rest)
  | chars => readDigits 0 chars

end ValueKind

/-- What a flag does. -/
inductive FlagAction where
  /-- It is set, with a value that is shown under a name. -/
  | take (valueName : String) (kind : ValueKind)
  /-- It is set. -/
  | mark
  | showHelp
  | showVersion
  deriving Repr, DecidableEq

structure Flag where
  long : String
  short : Option Char
  action : FlagAction
  about : String
  deriving Repr, DecidableEq

namespace Flag

/-- The flag as errors name it. -/
def text (flag : Flag) : String :=
  match flag.action with
  | .take name _ => s!"--{flag.long} <{name}>"
  | _ => "--" ++ flag.long

/-- Whether the flag asks about the program instead of telling it something. -/
def isQuestion (flag : Flag) : Bool :=
  flag.action = .showHelp || flag.action = .showVersion

end Flag

/-- The argument of a command. -/
structure Argument where
  name : String
  isRequired : Bool
  isRepeated : Bool
  about : String
  deriving Repr, DecidableEq

namespace Argument

def text (argument : Argument) : String :=
  (if argument.isRequired then s!"<{argument.name}>" else s!"[{argument.name}]")
    ++ if argument.isRepeated then "..." else ""

end Argument

/-- A command, or the program without a command. -/
structure Command where
  /-- The words that call it. -/
  words : List String
  about : String
  flags : List Flag
  argument : Option Argument
  /-- The commands of which one must follow, with what they do. -/
  commands : List (String × String)
  deriving Repr, DecidableEq

namespace Command

def name (command : Command) : String :=
  command.words.getLastD ""

def findLong? (command : Command) (long : String) : Option Flag :=
  command.flags.find? (·.long = long)

def findShort? (command : Command) (short : Char) : Option Flag :=
  command.flags.find? (·.short = some short)

end Command

/-! ## The commands -/

def program : String := "devterm-agent"

def version : String := "0.3.0"

def configFlag : Flag :=
  ⟨"config", some 'c', .take "FILE" .path, "Path to configuration file"⟩

def verboseFlag : Flag := ⟨"verbose", some 'v', .mark, "Enable verbose logging"⟩

def helpFlag : Flag := ⟨"help", some 'h', .showHelp, "Print help"⟩

def versionFlag : Flag := ⟨"version", some 'V', .showVersion, "Print version"⟩

def pauseFlag : Flag :=
  ⟨"sleep-ms", none, .take "SLEEP_MS" .count, "Delay between chunks in milliseconds [default: 0]"⟩

def jsonFlag : Flag := ⟨"json", none, .mark, "Output in JSON format"⟩

def defaultFlag : Flag := ⟨"default", none, .mark, "Print the built-in defaults instead"⟩

def runCommand : Command where
  words := [program, "run"]
  about := "Connect to the backend and serve shell sessions until interrupted"
  flags := [configFlag, verboseFlag, helpFlag]
  argument := none
  commands := []

def playbackCommand : Command where
  words := [program, "playback"]
  about := "Write a recorded session's output to stdout"
  flags := [configFlag, pauseFlag, verboseFlag, helpFlag]
  argument := some ⟨"SESSION_ID", true, false, "Session ID of the recording"⟩
  commands := []

def recordingsCommand : Command where
  words := [program, "recordings"]
  about := "List sealed recordings"
  flags := [configFlag, jsonFlag, verboseFlag, helpFlag]
  argument := none
  commands := []

def configCommand : Command where
  words := [program, "config"]
  about := "Print the effective configuration as TOML"
  flags := [configFlag, defaultFlag, verboseFlag, helpFlag]
  argument := none
  commands := []

/-- Words after it name the command that is asked about. -/
def helpCommand : Command where
  words := [program, "help"]
  about := "Print this message or the help of the given subcommand(s)"
  flags := []
  argument := some ⟨"COMMAND", false, true, "Print help for the subcommand(s)"⟩
  commands := []

def allCommands : List Command :=
  [runCommand, playbackCommand, recordingsCommand, configCommand, helpCommand]

/-- The program without a command. -/
def bareProgram : Command where
  words := [program]
  about := "DevTerm agent - device-resident service exposing a remote shell"
  flags := [configFlag, verboseFlag, helpFlag, versionFlag]
  argument := none
  commands := allCommands.map fun command => (command.name, command.about)

def findCommand? (name : String) : Option Command :=
  allCommands.find? (·.name = name)

end TerminalAgent.CommandLine
