import TerminalAgent.Recording.Chunk

/-!
# Output of a shell
-/

namespace TerminalAgent

/-- A piece of output with the echo mode that was seen right after it. -/
structure Output where
  data : Bytes
  echo : EchoMode
  deriving Repr, DecidableEq

end TerminalAgent
