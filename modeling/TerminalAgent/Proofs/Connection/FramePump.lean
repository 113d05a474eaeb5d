import TerminalAgent.Connection.FramePump

/-! # What one event does to a pump

While a connection goes on, an event brings a sign of the server or the end of a wait for room, leads to
something that is written, changes the queues and the socket alone, or ends the connection.
-/

namespace TerminalAgent

namespace PumpEvent

def isRead : PumpEvent → Bool
  | .read _ => true
  | _ => false

/-- Whether the server sends nothing with an event and neither queue nor socket ends. -/
def isCalm : PumpEvent → Bool
  | .read _ | .exhausted | .severed _ => false
  | _ => true

end PumpEvent

namespace FramePump

/-- When pings were written. -/
def pings (pump : FramePump) : List Duration :=
  (pump.written.filter (·.2 = .ping)).map (·.1)

theorem pings_append_ping (pump : FramePump) (now : Duration) :
    { pump with written := pump.written ++ [(now, ClientFrame.ping)] }.pings = pump.pings ++ [now] := by
  simp [pings]

theorem pings_append_binary (pump : FramePump) (now : Duration) (bytes : Bytes) :
    { pump with written := pump.written ++ [(now, ClientFrame.binary bytes)] }.pings = pump.pings := by
  simp [pings]

/-- What an event leads to on a connection that goes on. -/
inductive Leads (pump : FramePump) (now : Duration) : PumpEvent → FramePump → Prop where
  /-- Something is read, and held if there is no room for it. -/
  | read {frame} (idle : pump.held = none) (inbound : List Bytes) (held : Option Bytes) :
      Leads pump now (.read frame)
        { pump with
          heartbeat := { pump.heartbeat with seen := if held.isSome then none else some now }
          inbound
          held }
  /-- What was held finds room. -/
  | resumed (waits : pump.held.isSome = true) (inbound : List Bytes) :
      Leads pump now .retried
        { pump with heartbeat := { pump.heartbeat with seen := some now }, inbound, held := none }
  | pinged (patient : ∀ silent, pump.heartbeat.silence? now = some silent →
      silent ≤ pump.heartbeat.patience) :
      Leads pump now .tick { pump with written := pump.written ++ [(now, .ping)] }
  | given {bytes} :
      Leads pump now (.given bytes) { pump with written := pump.written ++ [(now, .binary bytes)] }
  /-- Queue or socket change, or something is tried in vain. -/
  | aside {event} (noTick : event ≠ .tick) (waits : event.isRead = true → pump.held.isSome = true)
      (inbound : List Bytes) (isListening : Bool) (fault : Option String)
      (kept : event.isCalm = true → fault = pump.fault) :
      Leads pump now event { pump with inbound, isListening, fault }
  /-- The server is given up. -/
  | silent {silent} (known : pump.heartbeat.silence? now = some silent)
      (tooLong : ¬silent ≤ pump.heartbeat.patience) :
      Leads pump now .tick { pump with reason := some (.heartbeatTimeout silent) }
  | closed {event} {why : String}
      (cause : event.isCalm = false ∨ pump.held.isSome = true ∨ pump.fault.isSome = true)
      (written : List (Duration × ClientFrame))
      (told : written = pump.written ∨ written = pump.written ++ [(now, .close)]) :
      Leads pump now event { pump with reason := some (.connectionClosed why), written }

section
variable {pump next : FramePump} {now : Duration} {event : PumpEvent}

theorem step_of_ok (goesOn : pump.reason = none) (reacts : pump.react now event = .ok next) :
    pump.step now event = next := by
  simp [step, goesOn, reacts]

theorem step_of_error (goesOn : pump.reason = none) {reason : NetworkError}
    (ends : pump.react now event = .error reason) : pump.step now event = pump.finish now reason := by
  simp [step, goesOn, ends]

/-- What becomes of a frame that is to be written. -/
theorem write_cases (pump : FramePump) (now : Duration) (frame : ClientFrame) :
    pump.write now frame = .ok { pump with written := pump.written ++ [(now, frame)] } ∨
      ∃ why, pump.write now frame = .error (.connectionClosed why) ∧ pump.fault.isSome = true := by
  unfold write
  split
  next why fault => exact .inr ⟨why, rfl, by rw [fault]; rfl⟩
  next => exact .inl rfl

theorem step_closed (goesOn : pump.reason = none) {why : String}
    (ends : pump.react now event = .error (.connectionClosed why))
    (cause : event.isCalm = false ∨ pump.held.isSome = true ∨ pump.fault.isSome = true) :
    Leads pump now event (pump.step now event) := by
  let ended := { pump with reason := some (.connectionClosed why) }
  rw [step_of_error goesOn ends, finish]
  split
  next =>
    obtain written | ⟨_, failed, -⟩ := ended.write_cases now .close
    · rw [written]
      exact .closed cause _ (.inr rfl)
    · rw [failed]
      exact .closed cause _ (.inl rfl)
  next => exact .closed cause _ (.inl rfl)

/-- What becomes of a frame that was read. -/
theorem place_cases (pump : FramePump) (now : Duration) (bytes : Bytes) :
    pump.place now bytes = .error closedLocally ∨
      pump.place now bytes = .ok { pump with held := some bytes } ∨
      pump.place now bytes = .ok
        { pump with
          heartbeat := { pump.heartbeat with seen := some now }
          inbound := pump.inbound ++ [bytes]
          held := none } := by
  unfold place
  split
  next => exact .inl rfl
  next =>
    split
    next => exact .inr (.inr rfl)
    next => exact .inr (.inl rfl)

theorem read_leads (goesOn : pump.reason = none) (now : Duration) (frame : ServerFrame) :
    Leads pump now (.read frame) (pump.step now (.read frame)) := by
  cases waits : pump.held with
  | some bytes =>
      have isHeld : pump.held.isSome = true := by rw [waits]; rfl
      have unread : pump.react now (.read frame) = .ok pump := if_pos isHeld
      rw [step_of_ok goesOn unread]
      exact .aside (by nofun) (fun _ => isHeld) _ _ _ fun _ => rfl
  | none =>
      have idle : ¬pump.held.isSome = true := by simp [waits]
      have heard : pump.react now (.read frame) =
          { pump with heartbeat := { pump.heartbeat with seen := some now } }.receive now frame :=
        if_neg idle
      cases frame with
      | binary bytes =>
          let stalled := { pump with heartbeat := { pump.heartbeat with seen := none } }
          have placed : pump.react now (.read (.binary bytes)) = stalled.place now bytes := heard
          obtain refused | held | found := stalled.place_cases now bytes
          · exact step_closed goesOn (placed.trans refused) (.inl rfl)
          · rw [step_of_ok goesOn (placed.trans held)]
            exact .read waits _ (some bytes)
          · rw [step_of_ok goesOn (placed.trans found)]
            exact .read waits _ none
      | text | ping | pong =>
          rw [step_of_ok goesOn heard]
          simpa only [if_neg idle] using Leads.read waits pump.inbound pump.held
      | close | fault | ended => exact step_closed goesOn heard (.inl rfl)

theorem retried_leads (goesOn : pump.reason = none) (now : Duration) :
    Leads pump now .retried (pump.step now .retried) := by
  have calm : Leads pump now .retried pump := .aside (by nofun) (by nofun) _ _ _ fun _ => rfl
  cases waits : pump.held with
  | none =>
      have same : pump.react now .retried = .ok pump := by
        simp only [react, waits]
        rfl
      rw [step_of_ok goesOn same]
      exact calm
  | some bytes =>
      have isHeld : pump.held.isSome = true := by rw [waits]; rfl
      have placed : pump.react now .retried = pump.place now bytes := by simp only [react, waits]
      obtain refused | held | found := pump.place_cases now bytes
      · exact step_closed goesOn (placed.trans refused) (.inr (.inl isHeld))
      · have same : { pump with held := some bytes } = pump := by rw [← waits]
        rw [step_of_ok goesOn (placed.trans held), same]
        exact calm
      · rw [step_of_ok goesOn (placed.trans found)]
        exact .resumed isHeld _

theorem tick_leads (goesOn : pump.reason = none) (now : Duration) :
    Leads pump now .tick (pump.step now .tick) := by
  have pinged (patient : ∀ silent, pump.heartbeat.silence? now = some silent →
      silent ≤ pump.heartbeat.patience) (passes : pump.react now .tick = pump.write now .ping) :
      Leads pump now .tick (pump.step now .tick) := by
    obtain written | ⟨_, failed, broken⟩ := pump.write_cases now .ping
    · rw [step_of_ok goesOn (passes.trans written)]
      exact .pinged patient
    · exact step_closed goesOn (passes.trans failed) (.inr (.inr broken))
  cases known : pump.heartbeat.silence? now with
  | none => exact pinged (by simp [known]) (by simp only [react, note, Heartbeat.step, known]; rfl)
  | some silent =>
      by_cases tooLong : silent ≤ pump.heartbeat.patience
      · refine pinged (by simpa [known] using tooLong) ?_
        simp only [react, note, Heartbeat.step, known, if_pos tooLong]
        rfl
      · have ends : pump.react now .tick = .error (.heartbeatTimeout silent) := by
          simp only [react, note, Heartbeat.step, known, if_neg tooLong]
          rfl
        rw [step_of_error goesOn ends]
        exact .silent known tooLong

end

theorem step_leads {pump : FramePump} (goesOn : pump.reason = none) (now : Duration) (event : PumpEvent) :
    Leads pump now event (pump.step now event) := by
  cases event with
  | read frame => exact read_leads goesOn now frame
  | retried => exact retried_leads goesOn now
  | tick => exact tick_leads goesOn now
  | taken | abandoned =>
      rw [step_of_ok goesOn rfl]
      exact .aside (by nofun) (by nofun) _ _ _ fun _ => rfl
  | severed =>
      rw [step_of_ok goesOn rfl]
      exact .aside (by nofun) (by nofun) _ _ _ (by nofun)
  | given bytes =>
      have passes : pump.react now (.given bytes) = pump.write now (.binary bytes) := rfl
      obtain written | ⟨_, failed, broken⟩ := pump.write_cases now (.binary bytes)
      · rw [step_of_ok goesOn (passes.trans written)]
        exact .given
      · exact step_closed goesOn (passes.trans failed) (.inr (.inr broken))
  | exhausted => exact step_closed goesOn rfl (.inl rfl)

end FramePump

end TerminalAgent
