import TerminalAgent.Config.Basic
import TerminalAgent.Duration

/-!
# Settings of the connection to the server
-/

namespace TerminalAgent

structure WebSocketSettings where
  url : String
  /-- What the server is shown to let the agent in. -/
  token : Option String
  heartbeatInterval : Duration
  heartbeatTimeout : Duration
  deriving Repr, DecidableEq

namespace WebSocketSettings

/-- The settings that a configuration asks for. -/
def ofConfig (config : Config.Server) : WebSocketSettings where
  url := config.url
  token := config.token
  heartbeatInterval := .ofSeconds config.heartbeatIntervalSecs.toNat
  heartbeatTimeout := .ofSeconds config.heartbeatTimeoutSecs.toNat

end WebSocketSettings

end TerminalAgent
