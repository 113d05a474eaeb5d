import TerminalAgent.Connection.Supervisor
import TerminalAgent.Playback.Service

/-!
# Errors of the agent as a whole
-/

namespace TerminalAgent

/-- Why the agent cannot be made, started or stopped. -/
inductive AgentError where
  | openingStore (path : String) (error : StoreError)
  /-- The directory of recordings is not free. -/
  | directoryInUse (error : StoreError)
  | recovery (error : StoreError)
  | alreadyRunning
  | alreadyStopping
  | playback (error : PlaybackError)
  | supervisor (error : SupervisorError)
  deriving Repr, DecidableEq

namespace AgentError

/-- What was done and what came of it, from the outside in. -/
def chain : AgentError → List String
  | openingStore path error => ("Failed to open recording store: " ++ path) :: error.chain
  | directoryInUse error => "Another agent is using this data directory" :: error.chain
  | recovery error => "Failed to recover unsealed recordings" :: error.chain
  | alreadyRunning => ["Orchestrator is already running"]
  | alreadyStopping => ["Orchestrator is already shutting down"]
  | playback error => "Failed to start playback server" :: error.chain
  | supervisor error => ["Failed to start connection supervisor", error.message]

end AgentError

end TerminalAgent
