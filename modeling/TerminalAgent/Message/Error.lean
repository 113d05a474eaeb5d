import TerminalAgent.MessagePack.ReadError

/-!
# Protocol errors

What can go wrong between bytes and messages or frames. `truncated` is the one error that more input
may remove.
-/

namespace TerminalAgent

/-- Why bytes are no message or frame, or the other way round. -/
inductive ProtocolError where
  | serialization (reason : String)
  /-- The bytes are whole but hold something else. -/
  | deserialization (reason : String)
  /-- The bytes end too early. -/
  | truncated (reason : String)
  | frameTooLarge (size max : Nat)
  | wrongMagic (expected got : Nat)
  | decompression (reason : String)
  deriving Repr, DecidableEq

namespace ProtocolError

/-- A word of 32 bits as it is shown in errors. -/
def hexWord (n : Nat) : String :=
  "0x" ++ Text.hexadecimal 8 n

def message : ProtocolError → String
  | serialization reason => "serialization failed: " ++ reason
  | deserialization reason => "deserialization failed: " ++ reason
  | truncated reason => "truncated input: " ++ reason
  | frameTooLarge size max => s!"frame too large: {size} bytes exceeds maximum of {max} bytes"
  | wrongMagic expected got =>
      "invalid frame magic: expected " ++ hexWord expected ++ ", got " ++ hexWord got
  | decompression reason => "failed to decompress payload: " ++ reason

/-- The protocol error that a failed reading of a value is. -/
def ofRead (error : MessagePack.ReadError) : ProtocolError :=
  if error.isTruncation then .truncated error.message else .deserialization error.message

end ProtocolError

end TerminalAgent
