/-!
# Paths

A path is text with slashes. Joining keeps a path as it was written; only following it needs its parts.
-/

namespace TerminalAgent.Path

/-- Whether a path begins at the root. -/
def isAbsolute (path : String) : Bool :=
  path.startsWith "/"

/-- A path seen from another one. -/
def join (base path : String) : String :=
  if isAbsolute path || base.isEmpty then path
  else if base.endsWith "/" then base ++ path
  else base ++ "/" ++ path

/-- The parts of a path. Empty parts and dots say nothing, except a dot in front. -/
def parts (path : String) : List String :=
  let parts := path.splitOn "/"
  match parts with
  | "." :: rest => "." :: rest.filter fun part => part ≠ "" && part ≠ "."
  | parts => parts.filter fun part => part ≠ "" && part ≠ "."

/-- Drops slashes, and parts that are dots, from the end of a path given backwards. -/
def trimBackwards : List Char → List Char
  | [] => []
  | ['/'] => ['/']
  | '/' :: rest => trimBackwards rest
  | '.' :: '/' :: rest => trimBackwards ('/' :: rest)
  | chars => chars
termination_by chars => chars.length

/-- The path without its last part, if it has one. -/
def parent? (path : String) : Option String :=
  let chars := trimBackwards path.toList.reverse
  if chars = [] || chars = ['/'] then none
  else some (String.ofList (trimBackwards (chars.dropWhile (· ≠ '/'))).reverse)

end TerminalAgent.Path
