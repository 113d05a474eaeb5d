import TerminalAgent.Network.SocketAddress

/-!
# Networks

A network says what comes of reaching an address and of listening at one. A machine on an isolated
network reaches nobody and cannot look up names. It can listen at the addresses that it has.
-/

namespace TerminalAgent

/-- What a machine can reach, and where it can listen. Failures are given as the system words them. -/
structure Network where
  /-- Reaches a port of a host, which is a name or an address. -/
  dial : (host : String) → (port : UInt16) → Except String Unit
  listen : (address : String) → Except String Unit

namespace Network

def unreachable : String := "Network is unreachable (os error 101)"

def notAvailable : String := "Cannot assign requested address (os error 99)"

/-- What comes of looking up a name without a network. No host has the empty name. -/
def lookupFailure (name : String) : String :=
  "failed to lookup address information: "
    ++ if name.isEmpty then "Name or service not known" else "Temporary failure in name resolution"

/-- The text of an address with a port. -/
def addressText (host : String) (port : UInt16) : String :=
  host ++ ":" ++ toString port

/-- The name that every machine has for itself. -/
def ownName : String := "localhost"

def dialIsolated (host : String) (port : UInt16) : Except String Unit :=
  if host = ownName || (SocketAddress.parse? (addressText host port)).isSome then throw unreachable
  else throw (lookupFailure host)

/-- The host and the port around the last colon. -/
def splitPort (address : String) : Except String (String × UInt16) :=
  let parts := address.splitOn ":"
  match parts.getLast?, parts.dropLast with
  | _, [] => throw "invalid socket address"
  | some port, host =>
      match SocketAddress.port? (':' :: (if port.startsWith "+" then port.toList.drop 1 else port.toList)) with
      | some port => pure (":".intercalate host, UInt16.ofNat port)
      | none => throw "invalid port value"
  | none, _ => throw "invalid socket address"

/-- Listens at an address. `isOwn` tells which ones the machine has. -/
def listenIsolated (isOwn : IpAddress → Bool) (address : String) : Except String Unit := do
  match SocketAddress.parse? address with
  | some place => if isOwn place.ip then pure () else throw notAvailable
  | none =>
      let (host, _) ← splitPort address
      if host = ownName then pure () else throw (lookupFailure host)

/-- A machine on its own, with the addresses that it has. -/
def isolated (isOwn : IpAddress → Bool) : Network where
  dial := dialIsolated
  listen := listenIsolated isOwn

end Network

end TerminalAgent
