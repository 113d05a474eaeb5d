import TerminalAgent.Connection.Supervisor
import TerminalAgent.Router.Basic

/-!
# Serving connections

While its connection stands, a supervisor routes what arrives on it. Each connection has a session of
its own, and when the connection is lost or the supervisor is cancelled the session is stopped first. A
supervisor whose connection waits for something that never comes waits with it.
-/

namespace TerminalAgent

/-- What is served: a connection, or between connections only the store. -/
inductive Served (π σ : Type) where
  | nothing (store : σ)
  | one (connection : Connection π σ)

namespace Served

variable {π σ : Type}

def store : Served π σ → σ
  | nothing store => store
  | one connection => connection.store

def connection? : Served π σ → Option (Connection π σ)
  | nothing _ => none
  | one connection => some connection

end Served

/-- A supervisor with what it serves. -/
structure Service (π σ : Type) where
  supervisor : Supervisor
  /-- What sessions are started with. -/
  shell : ShellSpec
  /-- How sessions are recorded, if they are. -/
  recording : Option RecorderSettings
  served : Served π σ

namespace Service

variable {π σ : Type} (host : Host π) (store : RecordingStore σ)

def new (settings : SupervisorSettings) (shell : ShellSpec) (recording : Option RecorderSettings)
    (s : σ) : Service π σ where
  supervisor := .new settings
  shell := shell
  recording := recording
  served := .nothing s

/-- Whether the connection that is served waits for something that never comes. -/
def isStuck (service : Service π σ) : Bool :=
  service.served.connection?.any (·.isStuck)

/-- Tells the supervisor what happened. A connection begins when it is made and ends before the
    supervisor leaves it. -/
def step (service : Service π σ) (event : SupervisorEvent) : Service π σ :=
  let supervisor := service.supervisor.step event
  match supervisor.phase, service.served with
  | .serving, .nothing s =>
      { service with supervisor, served := .one (.new service.shell service.recording s) }
  | .serving, .one _ | _, .nothing _ => { service with supervisor }
  | _, .one connection =>
      let connection := connection.shutdown host store
      if connection.isStuck then { service with served := .one connection }
      else { service with supervisor, served := .nothing connection.store }

/-- Routes what has arrived, one after the other. A connection on which nothing can be sent is lost, and
    behind what never comes to its end nothing is routed. -/
def handle (service : Service π σ) (fresh : String) (bytes : Bytes) : Service π σ :=
  match service.served with
  | .nothing _ => service
  | .one connection =>
      if connection.isStuck then service
      else
        match connection.handle host store fresh bytes with
        | (some (.error _), connection) =>
            { service with served := .one connection }.step host store .lost
        | (_, connection) => { service with served := .one connection }

/-- Lets the session of the connection go on. -/
def advance (service : Service π σ) : Service π σ :=
  match service.served with
  | .nothing _ => service
  | .one connection => { service with served := .one (connection.advance host store) }

/-- Takes what was sent on the connection. -/
def takeSent (service : Service π σ) : List Message × Service π σ :=
  match service.served with
  | .nothing _ => ([], service)
  | .one connection =>
      let (sent, connection) := connection.takeSent
      (sent, { service with served := .one connection })

/-- Nobody takes what is sent on the connection any more. -/
def hangUp (service : Service π σ) : Service π σ :=
  match service.served with
  | .nothing _ => service
  | .one connection =>
      let connection := { connection with outbound := connection.outbound.hangUp }
      { service with served := .one connection }

end Service

end TerminalAgent
