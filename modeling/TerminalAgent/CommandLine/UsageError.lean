import TerminalAgent.CommandLine.Help

/-!
# What was said wrong

An error says what is wrong, perhaps what was meant, and perhaps how the command is used.
-/

namespace TerminalAgent.CommandLine

/-- What may have been meant by a word that is not understood. -/
inductive Tip where
  | similarFlag (flag : String)
  | similarCommands (names : List String)
  /-- A command has such a flag. -/
  | flagOf (command flag : String)
  /-- The word was meant as an argument. -/
  | asArgument (word : String)
  /-- The word is a command, after a mark that ends flags and commands. -/
  | withoutMark (word : String)
  deriving Repr, DecidableEq

namespace Tip

def quote (word : String) : String := "'" ++ word ++ "'"

def text : Tip → String
  | similarFlag flag => "a similar argument exists: " ++ quote flag
  | similarCommands [name] => "a similar subcommand exists: " ++ quote name
  | similarCommands names =>
      "some similar subcommands exist: " ++ ", ".intercalate (names.map quote)
  | flagOf command flag => quote (command ++ " " ++ flag) ++ " exists"
  | asArgument word => "to pass " ++ quote word ++ " as a value, use " ++ quote ("-- " ++ word)
  | withoutMark word =>
      "subcommand " ++ quote word ++ " exists; to use it, remove the '--' before it"

end Tip

/-- What is wrong. Flags and arguments are given by their text. -/
inductive Mistake where
  | unknownArgument (word : String)
  | unknownCommand (word : String)
  | missingArgument (argument : String)
  | missingCommand (command : String) (names : List String)
  | missingValue (flag : String)
  | invalidValue (value flag reason : String)
  | unwantedValue (value flag : String)
  | repeatedFlag (flag : String)
  deriving Repr, DecidableEq

namespace Mistake

open Tip (quote)

def text : Mistake → String
  | unknownArgument word => "unexpected argument " ++ quote word ++ " found"
  | unknownCommand word => "unrecognized subcommand " ++ quote word
  | missingArgument argument =>
      "the following required arguments were not provided:\n  " ++ argument
  | missingCommand command names =>
      quote command ++ " requires a subcommand but one was not provided\n  [subcommands: "
        ++ ", ".intercalate names ++ "]"
  | missingValue flag => "a value is required for " ++ quote flag ++ " but none was supplied"
  | invalidValue value flag reason =>
      "invalid value " ++ quote value ++ " for " ++ quote flag ++ ": " ++ reason
  | unwantedValue value flag =>
      "unexpected value " ++ quote value ++ " for " ++ quote flag ++ " found; no more were expected"
  | repeatedFlag flag => "the argument " ++ quote flag ++ " cannot be used multiple times"

end Mistake

structure UsageError where
  mistake : Mistake
  tip : Option Tip
  usage : Option String
  deriving Repr, DecidableEq

namespace UsageError

def message (error : UsageError) : String :=
  let tip := error.tip.toList.map fun tip => "  tip: " ++ tip.text
  "\n\n".intercalate (("error: " ++ error.mistake.text) :: tip ++ error.usage.toList
    ++ ["For more information, try '--help'.\n"])

end UsageError

end TerminalAgent.CommandLine
