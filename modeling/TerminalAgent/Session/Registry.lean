import TerminalAgent.Session.Running

/-!
# The one session of a connection

A connection has at most one session. Starting one takes two steps: the slot is claimed, so that nobody
else starts one meanwhile, and then it is filled, or given back as it was. A session leaves the slot by
being retired, and only who retires it finishes it. What finishes a session has no result if that never
comes to its end.
-/

namespace TerminalAgent

/-- The place for the session. -/
inductive Slot (π : Type) where
  | absent
  /-- Claimed; before, it held a session with this id, which was stopped, or none. -/
  | starting (previous : Option String)
  | running (session : RunningSession π)
  | stopped (id : String)

namespace Slot

variable {π : Type}

/-- A slot without a session: nothing, or the id of the last session. -/
def idle : (previous : Option String) → Slot π
  | none => absent
  | some id => stopped id

def running? : Slot π → Option (RunningSession π)
  | running session => some session
  | _ => none

/-- The id of the session that runs or has stopped. -/
def id? : Slot π → Option String
  | running session => some session.pty.id
  | stopped id => some id
  | _ => none

/-- The session with this id. -/
def find? (slot : Slot π) (id : String) : Option (RunningSession π) :=
  slot.running?.filter fun session => session.pty.id = id

end Slot

/-- The slot of a connection, and what sessions it gets. -/
structure Registry (π : Type) where
  spec : ShellSpec
  /-- How sessions are recorded, if they are. -/
  recording : Option RecorderSettings
  slot : Slot π

namespace Registry

variable {π σ : Type} (host : Host π) (store : RecordingStore σ)

def new (spec : ShellSpec) (recording : Option RecorderSettings) : Registry π where
  spec := spec
  recording := recording
  slot := .absent

/-- The id of the session that runs. -/
def activeId? (registry : Registry π) : Option String :=
  registry.slot.running?.map (·.pty.id)

/-! ## Starting -/

/-- Takes the slot, unless a session is starting or running. -/
def claim (registry : Registry π) : Except SessionError (Registry π) :=
  match registry.slot with
  | .absent => pure { registry with slot := .starting none }
  | .stopped id => pure { registry with slot := .starting (some id) }
  | .starting _ | .running _ => throw .alreadyRunning

/-- Puts a session into the slot that was claimed. -/
def fill (registry : Registry π) (pty : PtySession π) (s : σ) : Registry π × σ :=
  let (session, s) := RunningSession.start store registry.recording pty s
  ({ registry with slot := .running session }, s)

/-- Gives a slot back that was claimed. -/
def abandon (registry : Registry π) : Registry π :=
  match registry.slot with
  | .starting previous => { registry with slot := .idle previous }
  | _ => registry

/-- What to start, with another terminal size if one is asked for. -/
def specOf (registry : Registry π) (size : Option (UInt16 × UInt16)) : ShellSpec :=
  match size with
  | some (cols, rows) => { registry.spec with cols, rows }
  | none => registry.spec

/-- Starts a session with this id. -/
def spawn (registry : Registry π) (id : String) (size : Option (UInt16 × UInt16)) (s : σ) :
    Except SessionError Unit × Registry π × σ :=
  match registry.claim with
  | .error error => (throw error, registry, s)
  | .ok claimed =>
      match PtySession.start host id (registry.specOf size) with
      | .error error => (throw error, claimed.abandon, s)
      | .ok pty =>
          let (registry, s) := claimed.fill store pty s
          (pure (), registry, s)

/-! ## Using -/

/-- The session with this id, if it takes input. -/
def lookup (registry : Registry π) (id : String) : Except SessionError (RunningSession π) :=
  match (registry.slot.find? id).filter fun session => session.pty.isRunning with
  | some session => pure session
  | none => throw (.notFound id)

/-- Does something to the session with this id. -/
def use (registry : Registry π) (id : String)
    (operation : PtySession π → Except SessionError Unit × PtySession π) :
    Except SessionError Unit × Registry π :=
  match registry.lookup id with
  | .error error => (throw error, registry)
  | .ok session =>
      let (result, pty) := operation session.pty
      (result, { registry with slot := .running { session with pty } })

def write (registry : Registry π) (id : String) (data : Bytes) : Except SessionError Unit × Registry π :=
  registry.use id fun pty => pty.write host data

def resize (registry : Registry π) (id : String) (cols rows : UInt16) :
    Except SessionError Unit × Registry π :=
  registry.use id fun pty => pty.resize host cols rows

/-! ## Retiring -/

/-- Takes a session out of the slot. -/
def retire (registry : Registry π) (session : RunningSession π) : Registry π :=
  { registry with slot := .stopped session.pty.id }

/-- The session that a request to stop this id retires. -/
def stoppable? (registry : Registry π) (id : String) : Option (RunningSession π) :=
  registry.slot.find? id

/-- The session with this id that has ended on its own. -/
def reapable? (registry : Registry π) (id : String) : Option (RunningSession π) :=
  (registry.slot.find? id).filter fun session => !session.pty.isRunning

/-- Stops the session with this id. Also gives the rest of its output that is watched. -/
def stop (registry : Registry π) (id : String) (s : σ) :
    Option (Except SessionError Nat) × List Output × Registry π × σ :=
  match registry.stoppable? id with
  | none => (some (throw (.notFound id)), [], registry, s)
  | some session =>
      let (result, watched, _, s) := session.finish host store s
      (result, watched, registry.retire session, s)

/-- Retires the session with this id if it has ended on its own, and tells whether it did. -/
def reap (registry : Registry π) (id : String) (s : σ) : Option Bool × Registry π × σ :=
  match registry.reapable? id with
  | none => (some false, registry, s)
  | some session =>
      let (result, _, _, s) := session.finish host store s
      (result.map fun _ => true, registry.retire session, s)

/-- Stops whatever runs. -/
def shutdown (registry : Registry π) (s : σ) : Option Unit × Registry π × σ :=
  match registry.slot.running? with
  | none => (some (), registry, s)
  | some session =>
      let (result, _, _, s) := session.finish host store s
      (result.map fun _ => (), registry.retire session, s)

end Registry

end TerminalAgent
