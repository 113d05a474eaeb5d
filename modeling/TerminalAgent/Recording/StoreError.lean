import TerminalAgent.Storage.Volume
import TerminalAgent.Text.Quoted

/-!
# Errors of recording stores
-/

namespace TerminalAgent

/-- Why a store refuses an operation. -/
inductive StoreError where
  /-- There is no such recording, or it is not sealed yet. -/
  | notFound (key : String)
  /-- The recording is sealed and can no longer be written. -/
  | sealed (key : String)
  | invalidKey (key : String)
  /-- Another running process owns the directory. -/
  | locked (path : String) (pid : Nat)
  | corrupt (reason : String)
  | io (path : String) (fault : FileFault)
  deriving Repr, DecidableEq

namespace StoreError

def message : StoreError → String
  | notFound key => "recording not found: " ++ key
  | sealed key => "recording already sealed: " ++ key
  | invalidKey key => "invalid recording key: " ++ Text.quoted key
  | locked path pid => s!"recordings directory {path} is in use by process {pid}"
  | corrupt reason => "recording log is corrupt: " ++ reason
  | io path fault => s!"storage I/O error on {path}: " ++ fault.message

/-- What was done and what came of it, from the outside in. -/
def chain (error : StoreError) : List String :=
  match error with
  | io _ fault => [error.message, fault.message]
  | _ => [error.message]

end StoreError

end TerminalAgent
