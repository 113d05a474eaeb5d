import TerminalAgent.Connection.Error
import TerminalAgent.Connection.WebSocketSettings
import TerminalAgent.Network.Isolated
import TerminalAgent.Url.Text

/-!
# Connecting over WebSocket

The URL of the server must also be readable as the target of a request, which is stricter: it names a
host, with a scheme and two slashes in front or all by itself, in characters that a request admits. What
is read there says which host and which port are dialled.
-/

namespace TerminalAgent.WebSocket

/-- Why the text of a URL is no target of a request. -/
inductive TargetFault where
  | tooLong
  | schemeTooLong
  | invalidCharacter
  | invalidAuthority
  | invalidFormat
  deriving Repr, DecidableEq

namespace TargetFault

def message : TargetFault → String
  | tooLong => "uri too long"
  | schemeTooLong => "scheme too long"
  | invalidCharacter => "invalid uri character"
  | invalidAuthority => "invalid authority"
  | invalidFormat => "invalid format"

end TargetFault

/-- A target has at most so many bytes. -/
def maxTarget : Nat := 65534

def maxScheme : Nat := 64

/-- Whether a character ends the authority. -/
def endsAuthority (c : Char) : Bool :=
  c = '/' || c = '?' || c = '#'

/-- Whether a request admits a character. -/
def isAdmitted (c : Char) : Bool :=
  c.isAlphanum || "!$&'()*+,-.:;=@[]_~".toList.contains c

/-- What is known of an authority after its first characters. -/
structure AuthorityScan where
  /-- Colons since the last at sign or bracket. -/
  colons : Nat
  isOpened : Bool
  isClosed : Bool
  /-- Whether there was an escape since the last at sign or bracket. -/
  hasEscape : Bool
  endsInAt : Bool

namespace AuthorityScan

def new : AuthorityScan := ⟨0, false, false, false, false⟩

/-- Fewer colons than in an address of eight words and a port may follow each other. -/
def maxColons : Nat := 8

/-- Takes in one character. -/
def next (scan : AuthorityScan) (c : Char) : Except TargetFault AuthorityScan :=
  let scan := { scan with endsInAt := c = '@' }
  if c = ':' then
    if maxColons ≤ scan.colons then throw .invalidAuthority
    else pure { scan with colons := scan.colons + 1 }
  else if c = '[' then
    if scan.hasEscape || scan.isOpened then throw .invalidAuthority
    else pure { scan with isOpened := true }
  else if c = ']' then
    if !scan.isOpened || scan.isClosed then throw .invalidAuthority
    else pure { scan with isClosed := true, colons := 0, hasEscape := false }
  else if c = '@' then pure { scan with colons := 0, hasEscape := false }
  else if c = '%' then pure { scan with hasEscape := true }
  else if isAdmitted c then pure scan
  else throw .invalidCharacter

/-- Whether the authority may end here. -/
def isWhole (scan : AuthorityScan) : Bool :=
  scan.isOpened = scan.isClosed && scan.colons ≤ 1 && !scan.endsInAt && !scan.hasEscape

end AuthorityScan

/-- The authority at the front of a text. -/
def authority (text : List Char) : Except TargetFault (List Char) := do
  let front := text.takeWhile (!endsAuthority ·)
  let scan ← front.foldlM AuthorityScan.next AuthorityScan.new
  if scan.isWhole then pure front else throw .invalidAuthority

/-- Where a request goes. -/
structure Target where
  scheme : Option String
  authority : String
  deriving Repr, DecidableEq

namespace Target

/-- The scheme in front of a colon and two slashes, and the text after them. -/
def splitScheme? (text : List Char) : Option (List Char × List Char) :=
  let scheme := text.takeWhile fun c => c.isAlphanum || c = '+' || c = '-' || c = '.'
  match text.drop scheme.length with
  | ':' :: '/' :: '/' :: rest => some (scheme, rest)
  | _ => none

/-- Reads the text of a URL. -/
def ofText (text : String) : Except TargetFault Target := do
  if maxTarget < text.utf8ByteSize then throw .tooLong
  match splitScheme? text.toList with
  | none =>
      let host ← WebSocket.authority text.toList
      if host.length = text.length then pure ⟨none, text⟩ else throw .invalidFormat
  | some (scheme, rest) =>
      if maxScheme < scheme.length then throw .schemeTooLong
      let host ← WebSocket.authority rest
      if host = [] then throw .invalidFormat
      pure ⟨some (String.ofList scheme), String.ofList host⟩

/-- Host and port without the user. -/
def place (target : Target) : String :=
  (target.authority.splitOn "@").getLastD ""

def host (target : Target) : String :=
  let place := target.place
  if place.startsWith "[" then String.ofList (place.toList.takeWhile (· ≠ ']')) ++ "]"
  else (place.splitOn ":").headD ""

/-- The port that is named after the last colon, or the one that belongs to the scheme. -/
def port? (target : Target) : Option UInt16 :=
  let named :=
    match Network.splitPort target.authority with
    | .ok (_, port) => some port
    | .error _ => none
  named <|>
    match target.scheme with
    | some "ws" => some 80
    | some "wss" => some 443
    | _ => none

end Target

/-- Whether a text can be sent in a header. -/
def isHeaderText (text : String) : Bool :=
  (Utf8.encode text).all fun b => (0x20 ≤ b && b ≠ 0x7F) || b = 0x09

/-- What is asked of the server. -/
structure Request where
  target : Target
  /-- Path and query. -/
  resource : String
  authorization : Option String
  deriving Repr, DecidableEq

/-- The request that opens a connection. -/
def request (settings : WebSocketSettings) : Except NetworkError Request := do
  let url ← (Url.parse settings.url).mapError fun fault =>
    .invalidUrl (settings.url ++ ": " ++ fault.message)
  let target ← (Target.ofText url.text).mapError fun fault =>
    .invalidUrl ("HTTP format error: " ++ fault.message)
  let authorization := settings.token.map ("Bearer " ++ ·)
  unless authorization.all isHeaderText do
    throw (.connectFailed "invalid token: failed to parse header value")
  pure ⟨target, url.targetText, authorization⟩

/-- Reaches the server. -/
def connect (network : Network) (settings : WebSocketSettings) : Except NetworkError Request := do
  let request ← request settings
  match request.target.port? with
  | none => throw (.connectFailed "URL error: URL scheme not supported")
  | some port =>
      (network.dial request.target.host port).mapError .connectFailed
      pure request

end TerminalAgent.WebSocket
