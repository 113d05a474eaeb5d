import TerminalAgent.Duration

/-!
# Errors of the connection to the server
-/

namespace TerminalAgent

namespace Duration

/-- A number of units with a fraction of so many digits, without zeros at its end. -/
def decimalText (whole fraction digits : Nat) : String :=
  let text := (Nat.toDigits 10 fraction).leftpad digits '0'
  let text := (text.reverse.dropWhile (· = '0')).reverse
  if text.isEmpty then toString whole else toString whole ++ "." ++ String.ofList text

/-- The duration in the largest unit of which it has at least one. -/
def text (d : Duration) : String :=
  let n := d.nanos
  if nanosPerSecond ≤ n then decimalText d.seconds d.subsecond 9 ++ "s"
  else if nanosPerMilli ≤ n then decimalText d.millis (n % nanosPerMilli) 6 ++ "ms"
  else if 1000 ≤ n then decimalText (n / 1000) (n % 1000) 3 ++ "µs"
  else toString n ++ "ns"

end Duration

/-- Why there is no connection, or no longer. All but an error in the URL may pass with time. -/
inductive NetworkError where
  | connectFailed (reason : String)
  | connectionClosed (reason : String)
  /-- What the agent needs on its own machine is not there yet. -/
  | dependencyUnavailable (reason : String)
  /-- Nothing was heard of the server for so long. -/
  | heartbeatTimeout (silent : Duration)
  | invalidUrl (reason : String)
  deriving Repr, DecidableEq

namespace NetworkError

def message : NetworkError → String
  | connectFailed reason => "failed to connect: " ++ reason
  | connectionClosed reason => "connection closed: " ++ reason
  | dependencyUnavailable reason => "local dependency unavailable: " ++ reason
  | heartbeatTimeout silent => "heartbeat timed out after " ++ silent.text
  | invalidUrl reason => "invalid server URL: " ++ reason

end NetworkError

end TerminalAgent
