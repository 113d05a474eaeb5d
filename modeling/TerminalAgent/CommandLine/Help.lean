import TerminalAgent.CommandLine.Grammar

/-!
# Help

The usage of a command in one line, and its help. A usage may be made for what was said: then it names
the flags that were given instead of saying that there are some.
-/

namespace TerminalAgent.CommandLine

namespace Command

/-- The words after the name of a command in its usage. -/
def usageOf (command : Command) (flags : List String) : String :=
  let argument := (command.argument.map Argument.text).toList
  let next := if command.commands.isEmpty then [] else ["<COMMAND>"]
  "Usage: " ++ " ".intercalate (command.words ++ flags ++ argument ++ next)

/-- The usage of a command. -/
def usage (command : Command) : String :=
  command.usageOf (if command.flags.all Flag.isQuestion then [] else ["[OPTIONS]"])

/-- The usage of a command with what was given: flags by their text, and whether the argument was. -/
def usageWith (command : Command) (flags : List String) (hasArgument : Bool) : String :=
  if flags.isEmpty && !hasArgument then command.usage else command.usageOf flags

end Command

/-- Two columns of which the first is as wide as its widest entry. -/
def columns (rows : List (String × String)) : List String :=
  let width := (rows.map fun row => row.1.length).foldl max 0
  rows.map fun row => "  " ++ row.1 ++ String.ofList (List.replicate (width - row.1.length + 2) ' ')
    ++ row.2

/-- A titled section, if it has rows. -/
def helpSection (title : String) (rows : List (String × String)) : List String :=
  if rows.isEmpty then [] else ["\n".intercalate ((title ++ ":") :: columns rows)]

def Flag.helpRow (flag : Flag) : String × String :=
  let short := match flag.short with
    | some c => "-" ++ c.toString ++ ", "
    | none => "    "
  (short ++ flag.text, flag.about)

/-- The help of a command. -/
def Command.help (command : Command) : String :=
  let arguments := command.argument.toList.map fun argument => (argument.text, argument.about)
  let sections := [command.about, command.usage]
    ++ helpSection "Commands" command.commands
    ++ helpSection "Arguments" arguments
    ++ helpSection "Options" (command.flags.map Flag.helpRow)
  "\n\n".intercalate sections ++ "\n"

end TerminalAgent.CommandLine
