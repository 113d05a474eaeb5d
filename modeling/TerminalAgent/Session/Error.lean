/-!
# Session errors

Operators read these texts, so they say only what went wrong.
-/

namespace TerminalAgent

/-- Why something could not be done with a session. -/
inductive SessionError where
  /-- Another session is starting or running. -/
  | alreadyRunning
  /-- No running session has this id. -/
  | notFound (id : String)
  | spawnFailed (reason : String)
  | writeFailed (reason : String)
  | resizeFailed (reason : String)
  /-- The shell could not be killed or waited for. -/
  | killFailed (reason : String)
  | io (reason : String)
  deriving Repr, DecidableEq

namespace SessionError

def message : SessionError → String
  | alreadyRunning => "shell is already running"
  | notFound id => "session not found: " ++ id
  | spawnFailed reason => "failed to spawn shell: " ++ reason
  | writeFailed reason => "failed to write to shell: " ++ reason
  | resizeFailed reason => "failed to resize terminal: " ++ reason
  | killFailed reason => "failed to stop shell: " ++ reason
  | io reason => "I/O error: " ++ reason

end SessionError

end TerminalAgent
