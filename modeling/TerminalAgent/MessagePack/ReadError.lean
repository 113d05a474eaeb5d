import TerminalAgent.MessagePack.Marker
import TerminalAgent.Text.Quoted
import TerminalAgent.Text.Utf8
import TerminalAgent.Binary64.Decimal

/-!
# Why a value cannot be read

`ReadError` lists the causes, and `ReadError.message` words them. `isTruncation` singles out the
causes that more input could remove.
-/

namespace TerminalAgent.MessagePack

/-- What was met where something else was asked for. -/
inductive Found where
  | nothing
  | boolean (b : Bool)
  | integer (i : Int)
  | float (x : Binary64)
  | text (s : String)
  | bytes
  | sequence
  | map
  | extension
  deriving Repr, DecidableEq

namespace Found

def message : Found → String
  | nothing => "unit value"
  | boolean b => if b then "boolean `true`" else "boolean `false`"
  | integer i => s!"integer `{i}`"
  | float x =>
      let shown := x.pointed
      s!"floating point `{shown}`"
  | text s => "string " ++ Text.quoted s
  | bytes => "byte array"
  | sequence => "sequence"
  | map => "map"
  | extension => "newtype struct"

end Found

/-- Why a value cannot be read. -/
inductive ReadError where
  /-- The input ends where a value should begin. -/
  | endAtMarker
  /-- The input ends inside a number or a length. -/
  | endInNumber
  /-- The input ends inside a string, a binary or an extension. -/
  | endInBytes
  | wrongMarker (marker : Marker)
  | wrongLength (expected : Nat)
  | depthExceeded
  | invalidText (fault : Utf8.Fault)
  | invalidType (found : Found) (expected : String)
  | invalidValue (found : Found) (expected : String)
  | invalidLength (length : Nat) (expected : String)
  | missingField (name : String)
  | duplicateField (name : String)
  | unknownVariant (name : String) (expected : List String)
  /-- A value that is none of the scalars a property may hold. -/
  | noVariant (type : String)
  deriving Repr, DecidableEq

namespace ReadError

/-- Whether the input merely ends too early. -/
def isTruncation : ReadError → Bool
  | endAtMarker | endInNumber | endInBytes => true
  | _ => false

def message : ReadError → String
  | endAtMarker => "IO error while reading marker: failed to fill whole buffer"
  | endInNumber => "IO error while reading data: failed to fill whole buffer"
  | endInBytes => "IO error while reading data: unexpected end of file"
  | wrongMarker marker => "wrong msgpack marker " ++ marker.name
  | wrongLength expected => s!"array had incorrect length, expected {expected}"
  | depthExceeded => "depth limit exceeded"
  | invalidText fault => "string found to be invalid utf8: " ++ fault.message
  | invalidType found expected => "invalid type: " ++ found.message ++ ", expected " ++ expected
  | invalidValue found expected => "invalid value: " ++ found.message ++ ", expected " ++ expected
  | invalidLength length expected => s!"invalid length {length}, expected {expected}"
  | missingField name => s!"missing field `{name}`"
  | duplicateField name => s!"duplicate field `{name}`"
  | unknownVariant name expected =>
      let choices := String.intercalate " or " (expected.map fun choice => s!"`{choice}`")
      s!"unknown variant `{name}`, expected {choices}"
  | noVariant type => s!"data did not match any variant of untagged enum {type}"

end ReadError

end TerminalAgent.MessagePack
