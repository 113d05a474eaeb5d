import Mathlib.Data.List.Induction
import TerminalAgent.Proofs.Connection.FramePump

/-! # When a silent server is given up

A server is given up at a tick, and only if the reader waits for it and has had no sign of it for longer
than an interval and the time for an answer. There is a ping within one interval of every sign, so a
server that answers each ping in time is never silent for so long.
-/

namespace TerminalAgent

/-- The moments of the ticks. -/
def PumpEvent.ticks (events : List (Duration × PumpEvent)) : List Duration :=
  (events.filter (·.2 = .tick)).map (·.1)

/-- A connection with what has happened on it. -/
structure LivePump where
  pump : FramePump
  /-- When the last event came. -/
  now : Duration
  /-- When something was read, oldest first. -/
  reads : List Duration
  /-- When something was read or a wait for room was over, oldest first. -/
  signs : List Duration

namespace LivePump

open PumpEvent

def new (interval timeout : Duration) : LivePump where
  pump := .new interval timeout
  now := ⟨0⟩
  reads := []
  signs := []

/-- When something was last read or a wait for room was last over, or else the beginning. -/
def lastSign (live : LivePump) : Duration := live.signs.getLastD ⟨0⟩

/-- Whether something is read with an event. -/
def isRead (live : LivePump) (event : PumpEvent) : Bool :=
  event.isRead && live.pump.held.isNone

/-- Whether something is read with an event or a wait for room is over. -/
def isSign (live : LivePump) (now : Duration) (event : PumpEvent) : Bool :=
  live.isRead event || (live.pump.held.isSome && (live.pump.step now event).held.isNone)

def step (live : LivePump) (now : Duration) (event : PumpEvent) : LivePump :=
  if live.pump.reason.isSome then live
  else
    { pump := live.pump.step now event
      now := now
      reads := if live.isRead event then live.reads ++ [now] else live.reads
      signs := if live.isSign now event then live.signs ++ [now] else live.signs }

def run (live : LivePump) (events : List (Duration × PumpEvent)) : LivePump :=
  events.foldl (fun live event => live.step event.1 event.2) live

/-- Each ping whose time is over was answered in its time. -/
def Answered (live : LivePump) (timeout : Duration) : Prop :=
  ∀ ping ∈ live.pump.pings, ping.nanos + timeout.nanos < live.now.nanos →
    ∃ answer ∈ live.reads, ping ≤ answer ∧ answer.nanos ≤ ping.nanos + timeout.nanos

/-- Events in the order of their moments, with ticks at the first multiples of the interval. -/
structure Timed (interval : Duration) (events : List (Duration × PumpEvent)) : Prop where
  ordered : events.Pairwise fun earlier later => earlier.1 ≤ later.1
  ticking : ∃ n, ticks events = (List.range n).map (Heartbeat.tickAt interval)

section
variable {live : LivePump}

theorem step_of_ended (ended : live.pump.reason.isSome = true) (now : Duration) (event : PumpEvent) :
    live.step now event = live := if_pos ended

theorem run_of_ended (ended : live.pump.reason.isSome = true) (events : List (Duration × PumpEvent)) :
    live.run events = live := by
  induction events with
  | nil => rfl
  | cons event rest ih =>
      have same : live.run (event :: rest) = (live.step event.1 event.2).run rest := rfl
      rw [same, step_of_ended ended, ih]

theorem pump_step (live : LivePump) (now : Duration) (event : PumpEvent) :
    (live.step now event).pump = live.pump.step now event := by
  unfold step
  split
  next ended => exact (if_pos ended).symm
  next => rfl

theorem pump_run (live : LivePump) (events : List (Duration × PumpEvent)) :
    (live.run events).pump = live.pump.run events := by
  induction events generalizing live with
  | nil => rfl
  | cons event rest ih => exact (ih _).trans (congrArg (·.run rest) (pump_step live event.1 event.2))

theorem run_append (live : LivePump) (events more : List (Duration × PumpEvent)) :
    live.run (events ++ more) = (live.run events).run more :=
  List.foldl_append ..

theorem now_step (goesOn : live.pump.reason = none) (now : Duration) (event : PumpEvent) :
    (live.step now event).now = now := by
  simp [step, goesOn]

theorem reads_step (goesOn : live.pump.reason = none) (now : Duration) (event : PumpEvent) :
    (live.step now event).reads = if live.isRead event then live.reads ++ [now] else live.reads := by
  simp [step, goesOn]

theorem lastSign_step (goesOn : live.pump.reason = none) (now : Duration) (event : PumpEvent) :
    (live.step now event).lastSign = if live.isSign now event then now else live.lastSign := by
  cases isSign : live.isSign now event <;> simp [step, goesOn, lastSign, isSign]

end

/-- What neither is read nor ends a wait is no sign. -/
theorem lastSign_of_unread {live : LivePump} (goesOn : live.pump.reason = none) (now : Duration)
    (event : PumpEvent) (unread : event.isRead = true → live.pump.held.isSome = true)
    (held : (live.pump.step now event).held = live.pump.held) :
    (live.step now event).lastSign = live.lastSign := by
  have quiet : live.isSign now event = false := by
    rw [isSign, isRead, held]
    cases isRead : event.isRead <;> cases waits : live.pump.held <;> simp_all
  rw [lastSign_step goesOn, quiet, if_neg Bool.false_ne_true]

theorem ticks_append (events more : List (Duration × PumpEvent)) :
    ticks (events ++ more) = ticks events ++ ticks more := by
  simp [ticks]

theorem ticks_concat {event : PumpEvent} (other : event ≠ .tick)
    (events : List (Duration × PumpEvent)) (now : Duration) :
    ticks (events ++ [(now, event)]) = ticks events := by
  simp [ticks, other]

namespace Timed

variable {interval now : Duration} {events : List (Duration × PumpEvent)} {event : PumpEvent}

theorem before {more : List (Duration × PumpEvent)} (timed : Timed interval (events ++ more)) :
    Timed interval events := by
  obtain ⟨ordered, n, ticking⟩ := timed
  refine ⟨(List.pairwise_append.mp ordered).1, ?_⟩
  rw [ticks_append] at ticking
  have part : ticks events <+: (List.range n).map (Heartbeat.tickAt interval) := ⟨_, ticking⟩
  rw [List.prefix_iff_eq_take, ← List.map_take, List.take_range] at part
  exact ⟨_, part⟩

theorem later (timed : Timed interval (events ++ [(now, event)])) :
    ∀ earlier ∈ events, earlier.1 ≤ now :=
  fun earlier member => (List.pairwise_append.mp timed.ordered).2.2 earlier member _ (List.mem_singleton_self _)

/-- A tick comes at the multiple of the interval whose turn it is. -/
theorem onTime (timed : Timed interval (events ++ [(now, .tick)])) :
    ∃ n, now = Heartbeat.tickAt interval n ∧
      ticks events = (List.range n).map (Heartbeat.tickAt interval) := by
  obtain ⟨-, n, ticking⟩ := timed
  have last : ticks (events ++ [(now, .tick)]) = ticks events ++ [now] := ticks_append ..
  rw [last] at ticking
  cases n with
  | zero => simp at ticking
  | succ n =>
      rw [List.range_succ, List.map_append] at ticking
      obtain ⟨before, same⟩ := List.append_inj' ticking rfl
      exact ⟨n, List.singleton_inj.mp same, before⟩

end Timed

/-! ## What was heard -/

/-- What was read is no later than the last sign, and the last sign no later than the last event. -/
structure InOrder (live : LivePump) : Prop where
  reads : ∀ read ∈ live.reads, read ≤ live.lastSign
  lastSign : live.lastSign ≤ live.now

theorem InOrder.step {live : LivePump} (h : InOrder live) {now : Duration} (later : live.now ≤ now)
    (event : PumpEvent) : InOrder (live.step now event) := by
  cases goesOn : live.pump.reason with
  | some reason =>
      rw [step_of_ended (by rw [goesOn]; rfl)]
      exact h
  | none =>
      have past : live.lastSign ≤ now := Nat.le_trans h.lastSign later
      have most : (live.step now event).lastSign ≤ now := by
        rw [lastSign_step goesOn]
        split
        next => exact Nat.le_refl _
        next => exact past
      constructor
      case reads =>
        rw [reads_step goesOn, lastSign_step goesOn, isSign]
        intro read member
        cases isRead : live.isRead event with
        | true =>
            rw [isRead, if_pos rfl, List.mem_append, List.mem_singleton] at member
            obtain old | rfl := member
            · exact Nat.le_trans (h.reads read old) past
            · exact Nat.le_refl _
        | false =>
            rw [isRead, if_neg Bool.false_ne_true] at member
            split
            next => exact Nat.le_trans (h.reads read member) past
            next => exact h.reads read member
      case lastSign =>
        rw [now_step goesOn]
        exact most

/-- How the heartbeat of a connection goes with what has happened on it in these events. -/
structure Sound (interval timeout : Duration) (events : List (Duration × PumpEvent)) (live : LivePump) :
    Prop where
  settings : live.pump.heartbeat.interval = interval ∧ live.pump.heartbeat.timeout = timeout
  seen : live.pump.reason = none →
    live.pump.heartbeat.seen = if live.pump.held.isSome then none else some live.lastSign
  pings : live.pump.reason = none → live.pump.pings = ticks events
  silent : ∀ {silent}, live.pump.reason = some (.heartbeatTimeout silent) →
    live.pump.held = none ∧
      live.lastSign.nanos + interval.nanos + timeout.nanos < live.now.nanos ∧
      ∃ n, live.now = Heartbeat.tickAt interval n ∧
        live.pump.pings = (List.range n).map (Heartbeat.tickAt interval)

namespace Sound

variable {interval timeout : Duration} {events : List (Duration × PumpEvent)} {live : LivePump}

/-- A connection that goes on is not given up. -/
theorem of_goesOn
    (settings : live.pump.heartbeat.interval = interval ∧ live.pump.heartbeat.timeout = timeout)
    (goesOn : live.pump.reason = none)
    (seen : live.pump.heartbeat.seen = if live.pump.held.isSome then none else some live.lastSign)
    (pings : live.pump.pings = ticks events) : Sound interval timeout events live where
  settings := settings
  seen _ := seen
  pings _ := pings
  silent ended := by rw [goesOn] at ended; cases ended

/-- The server is silent since the last sign, unless something waits for room. -/
theorem silence?_eq (h : Sound interval timeout events live) (goesOn : live.pump.reason = none)
    (now : Duration) :
    live.pump.heartbeat.silence? now =
      if live.pump.held.isSome then none else some ⟨now.nanos - live.lastSign.nanos⟩ := by
  rw [Heartbeat.silence?, h.seen goesOn]
  split <;> rfl

/-- A silence that is too long has a beginning, and nothing waits for room. -/
theorem longer (h : Sound interval timeout events live) (goesOn : live.pump.reason = none)
    {now silent : Duration} (known : live.pump.heartbeat.silence? now = some silent)
    (tooLong : ¬silent ≤ live.pump.heartbeat.patience) :
    live.pump.held = none ∧ live.lastSign.nanos + interval.nanos + timeout.nanos < now.nanos := by
  rw [h.silence?_eq goesOn] at known
  obtain ⟨rfl, rfl⟩ := h.settings
  split at known
  next => cases known
  next idle =>
    cases known
    have longer : live.pump.heartbeat.patience.nanos < now.nanos - live.lastSign.nanos :=
      Nat.lt_of_not_le tooLong
    simp only [Heartbeat.patience] at longer
    exact ⟨by simpa using idle, by omega⟩

theorem step (h : Sound interval timeout events live) {now : Duration} {event : PumpEvent}
    (timed : Timed interval (events ++ [(now, event)])) :
    Sound interval timeout (events ++ [(now, event)]) (live.step now event) := by
  cases goesOn : live.pump.reason with
  | some reason =>
      have ended : live.pump.reason.isSome = true := by rw [goesOn]; rfl
      rw [step_of_ended ended]
      exact { h with pings := fun goesOn' => by simp [goesOn] at goesOn' }
  | none =>
      have leads := FramePump.step_leads goesOn now event
      have sign := lastSign_step goesOn now event
      have quiet := lastSign_of_unread goesOn now event
      have moment := now_step goesOn now event
      have same := pump_step live now event
      rw [isSign, isRead, ← same] at sign
      rw [← same] at leads quiet
      -- All that matters of the step is what the event leads to, so that each case gives its fields.
      generalize live.step now event = after at *
      obtain ⟨pump, _, reads, signs⟩ := after
      have seen := h.seen goesOn
      have pings := h.pings goesOn
      cases leads with
      | read idle inbound held =>
          rw [idle] at sign
          exact .of_goesOn h.settings goesOn (by rw [sign]; rfl)
            (pings.trans (ticks_concat (by nofun) events now).symm)
      | resumed waits inbound =>
          rw [waits] at sign
          exact .of_goesOn h.settings goesOn (by rw [sign]; rfl)
            (pings.trans (ticks_concat (by nofun) events now).symm)
      | pinged patient =>
          refine .of_goesOn h.settings goesOn (by rw [quiet (by nofun) rfl]; exact seen) ?_
          rw [FramePump.pings_append_ping, pings, ticks_append]
          rfl
      | given =>
          refine .of_goesOn h.settings goesOn (by rw [quiet (by nofun) rfl]; exact seen) ?_
          rw [FramePump.pings_append_binary, pings, ticks_concat (by nofun)]
      | aside noTick waits inbound isListening fault kept =>
          exact .of_goesOn h.settings goesOn (by rw [quiet waits rfl]; exact seen)
            (pings.trans (ticks_concat noTick events now).symm)
      | silent known tooLong =>
          obtain ⟨idle, longer⟩ := h.longer goesOn known tooLong
          obtain ⟨n, onTime, before⟩ := timed.onTime
          refine ⟨h.settings, nofun, nofun, fun _ => ⟨idle, ?_, n, moment.trans onTime, ?_⟩⟩
          · rw [quiet (by nofun) rfl, moment]
            exact longer
          · exact pings.trans before
      | closed => exact ⟨h.settings, nofun, nofun, nofun⟩

end Sound

theorem run_concat (live : LivePump) (events : List (Duration × PumpEvent)) (now : Duration)
    (event : PumpEvent) : live.run (events ++ [(now, event)]) = (live.run events).step now event :=
  run_append ..

theorem now_run {interval timeout moment : Duration} {events : List (Duration × PumpEvent)}
    (past : ∀ event ∈ events, event.1 ≤ moment) : ((new interval timeout).run events).now ≤ moment := by
  induction events using List.reverseRecOn with
  | nil => exact Nat.zero_le _
  | append_singleton events event ih =>
      have earlier := ih fun event member => past event (List.mem_append_left _ member)
      rw [run_concat]
      cases goesOn : ((new interval timeout).run events).pump.reason with
      | some reason =>
          rw [step_of_ended (by rw [goesOn]; rfl)]
          exact earlier
      | none =>
          rw [now_step goesOn]
          exact past event (by simp)

theorem run_sound {interval : Duration} (timeout : Duration) {events : List (Duration × PumpEvent)}
    (timed : Timed interval events) :
    let live := (new interval timeout).run events
    live.InOrder ∧ Sound interval timeout events live := by
  induction events using List.reverseRecOn with
  | nil => exact ⟨⟨nofun, Nat.le_refl _⟩, .of_goesOn ⟨rfl, rfl⟩ rfl rfl rfl⟩
  | append_singleton events event ih =>
      obtain ⟨inOrder, sound⟩ := ih timed.before
      rw [run_concat]
      exact ⟨inOrder.step (now_run timed.later) event.2, sound.step timed⟩

/-! ## A server that answers -/

/-- There is a tick within one interval of any moment. -/
theorem exists_tick_after {interval : Duration} (positive : 0 < interval.nanos) (moment : Duration) :
    ∃ n, moment.nanos < (Heartbeat.tickAt interval n).nanos ∧
      (Heartbeat.tickAt interval n).nanos ≤ moment.nanos + interval.nanos := by
  have whole := Nat.div_add_mod' moment.nanos interval.nanos
  have rest := Nat.mod_lt moment.nanos positive
  refine ⟨moment.nanos / interval.nanos, ?_, ?_⟩ <;>
    simp only [Heartbeat.tickAt, Nat.succ_mul] <;> omega

theorem Sound.spares {interval timeout : Duration} {events : List (Duration × PumpEvent)} {live : LivePump}
    (h : Sound interval timeout events live) (inOrder : live.InOrder) (positive : 0 < interval.nanos)
    (answered : live.Answered timeout) (silent : Duration) :
    live.pump.reason ≠ some (.heartbeatTimeout silent) := by
  intro ended
  obtain ⟨-, longer, n, onTime, pings⟩ := h.silent ended
  -- The ping after the last sign has been answered, so that this sign is not the last.
  obtain ⟨m, later, soon⟩ := exists_tick_after positive live.lastSign
  have past : (Heartbeat.tickAt interval m).nanos + timeout.nanos < live.now.nanos := by omega
  have before : m < n := by
    have less : (m + 1) * interval.nanos < (n + 1) * interval.nanos := by
      rw [onTime] at past
      exact Nat.lt_of_le_of_lt (Nat.le_add_right _ _) past
    exact Nat.lt_of_succ_lt_succ (Nat.lt_of_mul_lt_mul_right less)
  have sent : Heartbeat.tickAt interval m ∈ live.pump.pings :=
    pings ▸ List.mem_map_of_mem (List.mem_range.mpr before)
  obtain ⟨answer, read, since, -⟩ := answered _ sent past
  exact Nat.not_lt.mpr (Nat.le_trans since (inOrder.reads answer read)) later

/-! ## A server that is silent -/

/-- The connection goes on, the reader waits for the server, and the server can be written to. -/
structure Waiting (live : LivePump) : Prop where
  goesOn : live.pump.reason = none
  idle : live.pump.held = none
  sound : live.pump.fault = none

namespace Waiting

variable {interval timeout : Duration} {events : List (Duration × PumpEvent)} {live : LivePump}

theorem step (waiting : Waiting live) (h : Sound interval timeout events live) (now : Duration)
    {event : PumpEvent} (calm : event.isCalm = true)
    (patient : event = .tick → now.nanos ≤ live.lastSign.nanos + interval.nanos + timeout.nanos) :
    Waiting (live.step now event) ∧ (live.step now event).lastSign = live.lastSign := by
  obtain ⟨goesOn, idle, sound⟩ := waiting
  have leads := FramePump.step_leads goesOn now event
  have quiet := lastSign_of_unread goesOn now event
  have same := pump_step live now event
  rw [← same] at leads quiet
  generalize live.step now event = after at *
  obtain ⟨pump, _, reads, signs⟩ := after
  cases leads with
  | read => cases calm
  | resumed waits => rw [idle] at waits; cases waits
  | pinged | given => exact ⟨⟨goesOn, idle, sound⟩, quiet (by nofun) rfl⟩
  | aside noTick waits inbound isListening fault kept =>
      exact ⟨⟨goesOn, idle, (kept calm).trans sound⟩, quiet waits rfl⟩
  | silent known tooLong =>
      have longer := (h.longer goesOn known tooLong).2
      exact absurd (patient rfl) (Nat.not_le.mpr longer)
  | closed cause => simp [calm, idle, sound] at cause

/-- A tick that comes too late after the last sign ends the connection. -/
theorem tick (waiting : Waiting live) (h : Sound interval timeout events live) {now : Duration}
    (late : live.lastSign.nanos + interval.nanos + timeout.nanos < now.nanos) :
    (live.step now .tick).pump.reason =
      some (.heartbeatTimeout ⟨now.nanos - live.lastSign.nanos⟩) := by
  obtain ⟨goesOn, idle, sound⟩ := waiting
  have known := h.silence?_eq goesOn now
  rw [idle] at known
  rw [pump_step]
  have leads := FramePump.step_leads goesOn now .tick
  generalize live.pump.step now .tick = pump at leads
  cases leads with
  | pinged patient =>
      have short : now.nanos - live.lastSign.nanos ≤ _ := patient _ known
      obtain ⟨rfl, rfl⟩ := h.settings
      simp only [Heartbeat.patience] at short
      omega
  | aside noTick => exact absurd rfl noTick
  | silent known' =>
      cases known.symm.trans known'
      rfl
  | closed cause => simp [isCalm, idle, sound] at cause

/-- While nothing comes from the server, all ticks before the limit pass. -/
theorem run {before quiet : List (Duration × PumpEvent)} (timed : Timed interval (before ++ quiet))
    (waiting : Waiting ((new interval timeout).run before))
    (calm : ∀ event ∈ quiet, event.2.isCalm = true)
    (patient : ∀ tick ∈ ticks quiet,
      tick.nanos ≤ ((new interval timeout).run before).lastSign.nanos + interval.nanos + timeout.nanos) :
    Waiting ((new interval timeout).run (before ++ quiet)) ∧
      ((new interval timeout).run (before ++ quiet)).lastSign =
        ((new interval timeout).run before).lastSign := by
  induction quiet using List.reverseRecOn with
  | nil =>
      rw [List.append_nil]
      exact ⟨waiting, rfl⟩
  | append_singleton quiet event ih =>
      rw [← List.append_assoc] at timed ⊢
      obtain ⟨waits, same⟩ := ih timed.before (fun event member => calm event (List.mem_append_left _ member))
        fun tick member => patient tick (by rw [ticks_append]; exact List.mem_append_left _ member)
      rw [run_concat]
      -- The limit does not move, for the last sign is still that of the beginning.
      obtain ⟨waits', same'⟩ := waits.step (run_sound timeout timed.before).2 event.1
        (calm event (by simp)) fun isTick => by
          rw [same]
          exact patient event.1 (by simp [ticks, isTick])
      exact ⟨waits', same'.trans same⟩

end Waiting

/-- A server is given up only if it is silent. If each ping is answered in time by something that is read,
    the connection does not end for silence, nor does it while something waits for room. If nothing
    comes after the last sign, it ends so at the first tick that is later than an interval and the time
    for an answer. -/
theorem run_drops_silent {interval : Duration} (positive : 0 < interval.nanos) (timeout : Duration)
    {events : List (Duration × PumpEvent)} (timed : Timed interval events) :
    let live := (new interval timeout).run events
    live.pump = (FramePump.new interval timeout).run events ∧
    (live.Answered timeout → ∀ silent, live.pump.reason ≠ some (.heartbeatTimeout silent)) ∧
    (live.pump.held.isSome = true → ∀ silent, live.pump.reason ≠ some (.heartbeatTimeout silent)) ∧
    ∀ before quiet tick after, events = before ++ quiet ++ (tick, .tick) :: after →
      let past := (new interval timeout).run before
      let limit := past.lastSign.nanos + interval.nanos + timeout.nanos
      past.Waiting → (∀ event ∈ quiet, event.2.isCalm = true) →
        (∀ earlier ∈ ticks quiet, earlier.nanos ≤ limit) → limit < tick.nanos →
        live.pump.reason = some (.heartbeatTimeout ⟨tick.nanos - past.lastSign.nanos⟩) := by
  intro live
  obtain ⟨inOrder, sound⟩ := run_sound timeout timed
  refine ⟨pump_run .., sound.spares inOrder positive, ?_, ?_⟩
  · intro waits silent ended
    rw [(sound.silent ended).1] at waits
    cases waits
  · rintro before quiet tick after rfl past limit waiting calm patient late
    obtain ⟨waits, same⟩ := Waiting.run timed.before waiting calm patient
    have ended := waits.tick (run_sound timeout timed.before).2 (by rw [same]; exact late)
    have split : live = (((new interval timeout).run (before ++ quiet)).step tick .tick).run after :=
      run_append ..
    rw [split, run_of_ended (by rw [ended]; rfl), ended, same]

/-- A server that answers each ping at the last moment. -/
def prompt : List (Duration × PumpEvent) :=
  [(⟨4⟩, .tick), (⟨7⟩, .read .pong), (⟨8⟩, .tick), (⟨11⟩, .read .text), (⟨12⟩, .tick)]

/-- One frame more than the inbound queue has room for, and three ticks. -/
def crowded : List (Duration × PumpEvent) :=
  .replicate (FramePump.capacity + 1) (⟨1⟩, .read (.binary [0])) ++
    [(⟨4⟩, .tick), (⟨8⟩, .tick), (⟨12⟩, .tick)]

/-- While something waits for room, a tick that would be too late passes. Counted from the end of the
    wait, the second tick is just in time and the third one too late. -/
theorem run_drops_silent_crowded :
    let freed := crowded ++ [(⟨13⟩, .taken), (⟨13⟩, .retried)]
    let events := freed ++ [(⟨16⟩, .tick), (⟨20⟩, .tick)] ++ [(⟨24⟩, .tick)]
    0 < (4 : Nat) ∧ Timed ⟨4⟩ prompt ∧ Timed ⟨4⟩ crowded ∧ Timed ⟨4⟩ events ∧
      (((new ⟨4⟩ ⟨3⟩).run prompt).Answered ⟨3⟩ ∧
        ∀ silent, ((new ⟨4⟩ ⟨3⟩).run prompt).pump.reason ≠ some (.heartbeatTimeout silent)) ∧
      (((new ⟨4⟩ ⟨3⟩).run crowded).pump.held.isSome = true ∧
        ∀ silent, ((new ⟨4⟩ ⟨3⟩).run crowded).pump.reason ≠ some (.heartbeatTimeout silent)) ∧
      ((new ⟨4⟩ ⟨3⟩).run freed).Waiting ∧ ((new ⟨4⟩ ⟨3⟩).run freed).lastSign = ⟨13⟩ ∧
      ((new ⟨4⟩ ⟨3⟩).run events).pump.reason = some (.heartbeatTimeout ⟨11⟩) := by
  intro freed events
  have positive : 0 < (⟨4⟩ : Duration).nanos := by decide
  have timedPrompt : Timed ⟨4⟩ prompt := ⟨by decide, 3, by decide⟩
  have timedCrowded : Timed ⟨4⟩ crowded := ⟨by decide +kernel, 3, by decide +kernel⟩
  have timed : Timed ⟨4⟩ events := ⟨by decide +kernel, 6, by decide +kernel⟩
  have answered : ((new ⟨4⟩ ⟨3⟩).run prompt).Answered ⟨3⟩ := by
    unfold Answered
    decide
  have held : ((new ⟨4⟩ ⟨3⟩).run crowded).pump.held.isSome = true := by decide +kernel
  have waiting : ((new ⟨4⟩ ⟨3⟩).run freed).Waiting :=
    ⟨by decide +kernel, by decide +kernel, by decide +kernel⟩
  have last : ((new ⟨4⟩ ⟨3⟩).run freed).lastSign = ⟨13⟩ := by decide +kernel
  obtain ⟨-, answers, -, -⟩ := run_drops_silent positive ⟨3⟩ timedPrompt
  obtain ⟨-, -, spares, -⟩ := run_drops_silent positive ⟨3⟩ timedCrowded
  obtain ⟨-, -, -, drops⟩ := run_drops_silent positive ⟨3⟩ timed
  have ended := drops freed [(⟨16⟩, .tick), (⟨20⟩, .tick)] ⟨24⟩ [] rfl waiting (by decide)
    (by decide +kernel) (by decide +kernel)
  refine ⟨positive, timedPrompt, timedCrowded, timed, ⟨answered, answers answered⟩, ⟨held, spares held⟩,
    waiting, last, ended.trans ?_⟩
  rw [last]
  rfl

end LivePump

end TerminalAgent
