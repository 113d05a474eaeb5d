import TerminalAgent.Bytes
import TerminalAgent.SortedMap
import TerminalAgent.Binary64.Basic

/-!
# Messages

A message names its namespace and its type, carries properties, which are scalars by name, and a
body of any bytes. Requests and replies are messages; a reply repeats what its request was about.
-/

namespace TerminalAgent

/-! ## Namespaces -/

namespace Proto

/-- Interactive shell sessions. -/
def shell : UInt16 := 1

/-- Keepalive and protocol errors. -/
def control : UInt16 := 0xFFFF

end Proto

/-! ## Types -/

namespace Kind

/-- Starts a shell. -/
def spawn : String := "new"

/-- Input for the shell, or output of it. -/
def shell : String := "shell"

def stop : String := "stop"

def resize : String := "resize"

def ping : String := "ping"

def pong : String := "pong"

def error : String := "error"

end Kind

/-! ## Properties with a meaning -/

namespace Key

def status : String := "status"

def sessionId : String := "session_id"

def terminalWidth : String := "terminal_width"

def terminalHeight : String := "terminal_height"

end Key

/-- How a request went. -/
inductive Status where
  | normal
  | error
  deriving Repr, DecidableEq

namespace Status

def word : Status → String
  | normal => "normal"
  | error => "error"

def ofWord? (s : String) : Option Status :=
  if s = "normal" then some normal
  else if s = "error" then some error
  else none

theorem ofWord?_word (status : Status) : ofWord? status.word = some status := by
  cases status <;> decide

end Status

/-- The value of a property. -/
inductive Property where
  | bool (b : Bool)
  | int (i : Int64)
  | float (x : Binary64)
  | text (s : String)
  deriving Repr, DecidableEq

namespace Property

def text? : Property → Option String
  | text s => some s
  | _ => none

def bool? : Property → Option Bool
  | bool b => some b
  | _ => none

/-- The integer of a property; a float without a fraction counts as one, clamped to its range. -/
def int? : Property → Option Int64
  | int i => some i
  | float x => if x.isInteger then some x.toInt64Clamped else none
  | _ => none

/-- The number of a property, rounded if it is an integer. -/
def float? : Property → Option Binary64
  | float x => some x
  | int i => some (Binary64.ofInt i.toInt)
  | _ => none

/-- The integer of a property, if it is a word of sixteen bits. -/
def word? (p : Property) : Option UInt16 := do
  let i ← p.int?
  if 0 ≤ i.toInt ∧ i.toInt < 0x10000 then some (UInt16.ofNat i.toInt.toNat) else none

/-- Whether properties are equal as values, in which a NaN equals nothing and the zeros are equal. -/
def agrees : Property → Property → Bool
  | float x, float y => x.numEq y
  | p, q => p = q

end Property

/-- The part of a message beside its body. -/
structure Header where
  proto : UInt16
  typ : String
  props : SortedMap Property
  deriving Repr, DecidableEq

structure Message extends Header where
  body : Bytes
  deriving Repr, DecidableEq

namespace Message

/-- The message without properties and with an empty body. -/
def new (proto : UInt16) (typ : String) : Message where
  proto := proto
  typ := typ
  props := ∅
  body := []

def withProperty (m : Message) (key : String) (value : Property) : Message :=
  { m with props := m.props.insert key value }

def withStatus (m : Message) (status : Status) : Message :=
  m.withProperty Key.status (.text status.word)

def withSessionId (m : Message) (id : String) : Message :=
  m.withProperty Key.sessionId (.text id)

def withBody (m : Message) (body : Bytes) : Message :=
  { m with body := body }

def property? (m : Message) (key : String) : Option Property :=
  m.props.get? key

def text? (m : Message) (key : String) : Option String := do
  (← m.property? key).text?

/-- The status of a message, if it is one of the known words. -/
def status? (m : Message) : Option Status := do
  Status.ofWord? (← m.text? Key.status)

def sessionId? (m : Message) : Option String :=
  m.text? Key.sessionId

/-- A property that is a word of sixteen bits, such as a terminal dimension. -/
def word? (m : Message) (key : String) : Option UInt16 := do
  (← m.property? key).word?

/-- Whether messages are equal as values. -/
def agrees (m n : Message) : Bool :=
  m.proto = n.proto && m.typ = n.typ && m.body == n.body
    && m.props.entries.map (·.1) = n.props.entries.map (·.1)
    && (m.props.entries.zip n.props.entries).all fun (a, b) => a.2.agrees b.2

/-- The reply that repeats the namespace, the type and the session of a request. -/
def responseTo (request : Message) : Message :=
  let reply := new request.proto request.typ
  match request.sessionId? with
  | some id => reply.withSessionId id
  | none => reply

end Message

end TerminalAgent
