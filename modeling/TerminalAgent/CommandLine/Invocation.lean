import TerminalAgent.CommandLine.UsageError
import TerminalAgent.Text.Similarity

/-!
# Reading the command line

The words after the name of the program are read from left to right. A flag that takes a value may have
it attached or in the next word; what was read last is settled only when the next thing is, so that an
unknown flag is found before a value that is wrong. The words after a command are read as its own.
-/

namespace TerminalAgent.CommandLine

/-- Why the program does not go on with what was said. -/
inductive Stop where
  /-- Help was asked for. -/
  | help (text : String)
  | version
  /-- Nothing was said; the help says what could be. -/
  | nothingSaid (help : String)
  | wrong (error : UsageError)
  deriving Repr, DecidableEq

/-- What a value is for. -/
inductive Item where
  | flag (flag : Flag)
  | argument (argument : Argument)
  deriving Repr, DecidableEq

/-- How far the words of a command are read. -/
structure Reading where
  command : Command
  /-- What is settled, in order. -/
  given : List (Item × String)
  /-- What is not settled yet, with its value unless that is the next word. -/
  pending : Option (Item × Option String)
  /-- Whether a mark has ended flags and commands. -/
  isMarked : Bool

namespace Reading

def new (command : Command) : Reading := ⟨command, [], none, false⟩

/-- Whether the next word is the value of a flag. -/
def isAwaiting (reading : Reading) : Bool :=
  match reading.pending with
  | some (_, none) => true
  | _ => false

def hasArgument (reading : Reading) : Bool :=
  let isArgument : Item → Bool
    | .argument _ => true
    | .flag _ => false
  reading.given.any (isArgument ·.1) || reading.pending.any (isArgument ·.1)

/-- The flags that are settled, by their text. -/
def flagTexts (reading : Reading) : List String :=
  reading.given.filterMap fun entry =>
    match entry.1 with
    | .flag flag => some flag.text
    | .argument _ => none

/-- The value that was settled for a flag. -/
def value? (reading : Reading) (flag : Flag) : Option String :=
  (reading.given.find? (·.1 = .flag flag)).map (·.2)

/-- The value of the argument. -/
def argumentValue? (reading : Reading) : Option String :=
  reading.given.findSome? fun entry =>
    match entry.1 with
    | .argument _ => some entry.2
    | .flag _ => none

def mistake (mistake : Mistake) (tip : Option Tip) (usage : Option String) : Stop :=
  .wrong ⟨mistake, tip, usage⟩

/-- What is wrong with the value of a flag. -/
def valueFault? (flag : Flag) (value : String) : Option Mistake :=
  match flag.action with
  | .take _ .path => if value.isEmpty then some (.missingValue flag.text) else none
  | .take _ .count =>
      match ValueKind.readCount value with
      | .ok _ => none
      | .error reason => some (.invalidValue value flag.text reason)
  | _ => none

/-- Gives a flag a value, which may turn out wrong. -/
def give (reading : Reading) (flag : Flag) (value : String) : Option Stop × Reading :=
  if (reading.value? flag).isSome then
    (some (mistake (.repeatedFlag flag.text) none reading.command.usage), reading)
  else
    ((valueFault? flag value).map (mistake · none none),
      { reading with given := reading.given ++ [(.flag flag, value)] })

/-- Settles what is pending, which may turn out wrong. -/
def settle (reading : Reading) : Option Stop × Reading :=
  let settled := { reading with pending := none }
  match reading.pending with
  | none => (none, settled)
  | some (.argument argument, value) =>
      (none, { settled with given := settled.given ++ [(.argument argument, value.getD "")] })
  | some (.flag flag, none) => (some (mistake (.missingValue flag.text) none none), settled)
  | some (.flag flag, some value) => settled.give flag value

/-- Goes on if nothing is wrong. -/
def orStop : Option Stop × Reading → Except Stop Reading
  | (some stop, _) => throw stop
  | (none, reading) => pure reading

/-! ## Flags -/

/-- Takes a flag without a value. -/
def takeMark (reading : Reading) (flag : Flag) : Except Stop Reading := do
  let reading ← orStop reading.settle
  match flag.action with
  | .showHelp => throw (.help reading.command.help)
  | .showVersion => throw .version
  | _ => orStop (reading.give flag "")

/-- Takes a flag with the value that is attached to it or comes next. -/
def takeValue (reading : Reading) (flag : Flag) (value : Option String) : Except Stop Reading := do
  let reading ← orStop reading.settle
  match value with
  | some value => orStop (reading.give flag value)
  | none => pure { reading with pending := some (.flag flag, none) }

/-- The command that has a flag like an unknown one and comes first among the words that follow. -/
def flagElsewhere? (command : Command) (long : String) (rest : List String) : Option Tip :=
  let known := command.commands.filterMap fun entry => do
    let other ← findCommand? entry.1
    let flag ← (Text.similarWords long (other.flags.map Flag.long)).getLast?
    let place ← rest.idxOf? other.name
    some (place, Tip.flagOf other.name ("--" ++ flag))
  (known.mergeSort fun x y => x.1 ≤ y.1).head?.map (·.2)

/-- What is said on a long flag that is not known. -/
def unknownLong (reading : Reading) (long : String) (rest : List String) : Stop :=
  let command := reading.command
  let reading := reading.settle.2
  let flags := reading.flagTexts
  let word := "--" ++ long
  let stop (tip : Option Tip) (flags : List String) : Stop :=
    mistake (.unknownArgument word) tip (command.usageWith flags reading.hasArgument)
  match (Text.similarWords long (command.flags.map Flag.long)).getLast? with
  | some similar =>
      let text := ((command.findLong? similar).map Flag.text).getD ""
      stop (some (.similarFlag ("--" ++ similar)))
        (if flags.contains text then flags else flags ++ [text])
  | none =>
      match flagElsewhere? command long rest with
      | some tip => stop (some tip) flags
      | none => stop (if command.argument.isSome then some (.asArgument word) else none) flags

/-- Reads a long flag, with a value if there is an equals sign. -/
def readLong (reading : Reading) (word : List Char) (rest : List String) : Except Stop Reading :=
  let long := String.ofList (word.takeWhile (· ≠ '='))
  let value : Option String :=
    match word.dropWhile (· ≠ '=') with
    | [] => none
    | _ :: value => some (String.ofList value)
  match reading.command.findLong? long with
  | none => throw (reading.unknownLong long rest)
  | some flag =>
      match flag.action, value with
      | .take _ _, value => reading.takeValue flag value
      | _, none => reading.takeMark flag
      | _, some value =>
          throw (mistake (.unwantedValue value flag.text) none
            (reading.command.usageOf (reading.flagTexts ++ [flag.text])))

/-- Reads short flags; the rest of the word may be the value of one. -/
def readShorts (reading : Reading) : List Char → Except Stop Reading
  | [] => pure reading
  | c :: rest =>
      match reading.command.findShort? c with
      | none =>
          let word := "-" ++ c.toString
          throw (mistake (.unknownArgument word)
            (if reading.command.argument.isSome then some (.asArgument word) else none)
            reading.command.usage)
      | some flag =>
          match flag.action, rest with
          | .take _ _, [] => reading.takeValue flag none
          | .take _ _, '=' :: value => reading.takeValue flag (some (String.ofList value))
          | .take _ _, value => reading.takeValue flag (some (String.ofList value))
          | _, rest => do readShorts (← reading.takeMark flag) rest

/-! ## Other words -/

/-- What is said on a word that has no place. -/
def unexpected (reading : Reading) (word : String) : Stop :=
  let command := reading.command
  let names := command.commands.map (·.1)
  if reading.isMarked && names.contains word then
    mistake (.unknownArgument word) (some (.withoutMark word)) command.usage
  else if names.isEmpty then mistake (.unknownArgument word) none command.usage
  else
    let similar := Text.similarWords word names
    mistake (.unknownCommand word) (if similar.isEmpty then none else some (.similarCommands similar))
      command.usage

/-- Reads a word that is no flag. -/
def readPlain (reading : Reading) (word : String) : Except Stop Reading :=
  match reading.pending, reading.isMarked with
  | some (item, none), false => pure { reading with pending := some (item, some word) }
  | _, _ =>
      match reading.command.argument with
      | some argument => do
          if reading.hasArgument then throw (reading.unexpected word)
          let reading ← orStop reading.settle
          pure { reading with pending := some (.argument argument, some word) }
      | none => throw (reading.unexpected word)

/-- Reads a word that calls no command. -/
def readWord (reading : Reading) (word : String) (rest : List String) : Except Stop Reading :=
  if reading.isMarked then reading.readPlain word
  else
    match word.toList with
    | ['-', '-'] => pure { reading with isMarked := true }
    | '-' :: '-' :: long => reading.readLong long rest
    | '-' :: c :: shorts => reading.readShorts (c :: shorts)
    | _ => reading.readPlain word

/-- Reads words up to the end, or up to a command that they call. -/
def readWords : List String → Reading → Except Stop (Reading × Option (String × List String))
  | [], reading => pure (reading, none)
  | word :: rest, reading =>
      let isCalled := (reading.command.commands.map (·.1)).contains word
      if isCalled && !reading.isMarked && !reading.isAwaiting then pure (reading, some (word, rest))
      else do readWords rest (← reading.readWord word rest)

/-- Settles the rest. What a command needs must be there. -/
def finish (reading : Reading) (isCalling : Bool) : Except Stop Reading := do
  let reading ← orStop reading.settle
  let command := reading.command
  let names := command.commands.map (·.1)
  if !names.isEmpty && !isCalling then
    if reading.given.isEmpty then throw (.nothingSaid command.help)
    throw (mistake (.missingCommand command.name names) none command.usage)
  match command.argument with
  | some argument =>
      if argument.isRequired && !reading.hasArgument then
        throw (mistake (.missingArgument argument.text) none (command.usageOf reading.flagTexts))
      else pure reading
  | none => pure reading

end Reading

/-- What the program is to do. -/
inductive Task where
  | run
  | playback (id : String) (pause : Nat)
  | recordings (asJson : Bool)
  | config (isDefault : Bool)
  deriving Repr, DecidableEq

/-- What was said. -/
structure Invocation where
  configPath : Option String
  isVerbose : Bool
  task : Task
  deriving Repr, DecidableEq

/-- The help that words after the help command ask for. -/
def helpOf : Command → List String → Stop
  | command, [] => .help command.help
  | command, word :: rest =>
      match if (command.commands.map (·.1)).contains word then findCommand? word else none with
      | some command => helpOf command rest
      | none => Reading.mistake (.unknownCommand word) none command.usage

/-- The task of a command that was read. -/
def taskOf (reading : Reading) : Task :=
  let has (flag : Flag) : Bool := (reading.value? flag).isSome
  match reading.command.name with
  | "playback" =>
      let pause := ((reading.value? pauseFlag).bind fun value => (ValueKind.readCount value).toOption)
      .playback (reading.argumentValue?.getD "") (pause.getD 0)
  | "recordings" => .recordings (has jsonFlag)
  | "config" => .config (has defaultFlag)
  | _ => .run

/-- Reads the words after the name of the program. -/
def Invocation.ofWords (words : List String) : Except Stop Invocation := do
  let (outer, call) ← Reading.readWords words (.new bareProgram)
  match call with
  | none =>
      let _ ← outer.finish false
      throw (.nothingSaid bareProgram.help)
  | some (name, rest) =>
      if name = helpCommand.name then throw (helpOf bareProgram rest)
      let command := (findCommand? name).getD bareProgram
      let (inner, _) ← Reading.readWords rest (.new command)
      let inner ← inner.finish true
      let outer ← outer.finish true
      pure {
        configPath := inner.value? configFlag <|> outer.value? configFlag
        isVerbose := (inner.value? verboseFlag <|> outer.value? verboseFlag).isSome
        task := taskOf inner }

end TerminalAgent.CommandLine
