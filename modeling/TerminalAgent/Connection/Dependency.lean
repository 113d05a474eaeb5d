import TerminalAgent.Connection.Error
import TerminalAgent.Storage.FileTree
import TerminalAgent.Text.Utf8

/-!
# The local dependency

What the agent needs on its own machine is ready when somebody listens on its socket. Without a socket
to ask there is nothing to wait for.
-/

namespace TerminalAgent.Dependency

/-- The path of a socket has fewer bytes than this. -/
def pathLimit : Nat := 108

/-- Why nobody is reached at a path, if so. `listeners` are the paths on which somebody listens. -/
def fault? (files : FileTree) (listeners : List String) (path : String) : Option String :=
  if pathLimit ≤ (Utf8.encode path).length then some "path must be shorter than SUN_LEN"
  else if listeners.contains path then none
  else
    match files.lookup path with
    | .ok _ => some "Connection refused (os error 111)"
    | .error fault => some fault.message

/-- Asks whether the dependency is ready. -/
def check (files : FileTree) (listeners : List String) (path : Option String) :
    Except NetworkError Unit :=
  match path with
  | none => pure ()
  | some path =>
      match fault? files listeners path with
      | none => pure ()
      | some reason => throw (.dependencyUnavailable (path ++ ": " ++ reason))

end TerminalAgent.Dependency
