import TerminalAgent.Connection.Service
import TerminalAgent.Proofs.Connection.Safety
import TerminalAgent.Proofs.Router.Sequence

/-! # A supervisor that does one thing after the other

A supervisor that finishes one thing before it does another is one whose loop and connections take
turns in one of the possible ways. Whatever it is told, they can bring about what comes of it.
-/

namespace TerminalAgent

namespace Service

variable {π σ : Type} (host : Host π) (store : RecordingStore σ)

/-- What may happen to a service. -/
inductive Event where
  | told (event : SupervisorEvent)
  /-- Something arrives. A session that it starts gets the id `fresh`. -/
  | arrive (fresh : String) (bytes : Bytes)
  | advance
  /-- What was sent is taken. -/
  | takeSent
  deriving Repr, DecidableEq

def perform (service : Service π σ) : Event → Service π σ
  | .told event => service.step host store event
  | .arrive fresh bytes => service.handle host store fresh bytes
  | .advance => service.advance host store
  | .takeSent => service.takeSent.2

/-- A service after these events. -/
def run (service : Service π σ) (events : List Event) : Service π σ :=
  events.foldl (perform host store) service

variable {host store} {service : Service π σ} {event : SupervisorEvent}

/-- Without a connection, an event that makes none concerns only the supervisor. -/
theorem step_of_nothing {s : σ} (served : service.served = .nothing s)
    (rests : (service.supervisor.step event).phase ≠ .serving) :
    service.step host store event = { service with supervisor := service.supervisor.step event } := by
  simp only [step, served]

/-- Unless it stands after an event, the connection that is served ends. -/
theorem step_of_one {connection : Connection π σ} (served : service.served = .one connection)
    (rests : (service.supervisor.step event).phase ≠ .serving) :
    service.step host store event =
      let connection := connection.shutdown host store
      if connection.isStuck then { service with served := .one connection }
      else { service with
        supervisor := service.supervisor.step event
        served := .nothing connection.store } := by
  simp only [step, served]

theorem isStuck_of_one {connection : Connection π σ} (served : service.served = .one connection) :
    service.isStuck = connection.isStuck := by
  simp [isStuck, served, Served.connection?]

/-- A service that waits for something that never comes waits for ever. -/
theorem isStuck_perform (isStuck : service.isStuck = true) (event : Event) :
    (service.perform host store event).isStuck = true := by
  cases served : service.served with
  | nothing s =>
      rw [Service.isStuck, served] at isStuck
      cases isStuck
  | one connection =>
      rw [isStuck_of_one served] at isStuck
      cases event with
      | told event =>
          by_cases serving : (service.supervisor.step event).phase = .serving
          · simp only [perform, step, serving, served]
            exact isStuck
          · have same : connection.shutdown host store = connection := if_pos isStuck
            simp only [perform, step_of_one served serving, same, isStuck, if_true]
            exact isStuck
      | arrive fresh bytes =>
          simp only [perform, handle, served, isStuck, if_true]
          exact (isStuck_of_one served).trans isStuck
      | advance =>
          simp only [perform, advance, served]
          exact Connection.isStuck_advance.trans isStuck
      | takeSent =>
          simp only [perform, takeSent, served]
          exact isStuck

theorem isStuck_run (isStuck : service.isStuck = true) (events : List Event) :
    (service.run host store events).isStuck = true := by
  induction events generalizing service with
  | nil => exact isStuck
  | cons event rest ih => exact ih (isStuck_perform isStuck event)

end Service

theorem SupervisorPhase.Rests.not_serving {phase : SupervisorPhase} (rests : phase.Rests) :
    phase ≠ .serving := by
  rintro rfl
  cases rests.free

namespace LiveService

variable {π σ : Type} {host : Host π} {store : RecordingStore σ} {service : Service π σ}
  {live : LiveService π σ}

/-- Loop and connections have brought a service to this state, and now nothing is under way. -/
structure Follows (service : Service π σ) (live : LiveService π σ) : Prop where
  supervisor : live.supervisor = service.supervisor
  shell : live.shell = service.shell
  recording : live.recording = service.recording
  isStarted : live.isStarted = true
  isBusy : live.isBusy = false
  cancelled : live.isCancelled = true → service.supervisor.result?.isSome = true
  idle : ∀ {s : σ}, service.served = .nothing s → service.supervisor.phase ≠ .serving
  serving : ∀ {connection : Connection π σ}, service.served = .one connection →
    service.supervisor.phase = .serving ∧
      ∃ newest earlier, live.connections = newest :: earlier ∧ newest.Follows connection

/-- Loop and connections can bring the service to this state. -/
def Leads (store : RecordingStore σ) (service : Service π σ) (live : LiveService π σ) : Prop :=
  ∃ actions : List (Action π σ), Follows service (live.run store actions)

theorem run_connection {newest : LiveConnection π σ} {earlier : List (LiveConnection π σ)}
    (connections : live.connections = newest :: earlier)
    (actions : List (LiveConnection.Action π σ)) :
    live.run store (actions.map (.connection 0)) =
      { live with connections := newest.run store actions :: earlier } := by
  induction actions generalizing live newest with
  | nil => rw [show newest.run store [] = newest from rfl, ← connections]; rfl
  | cons action rest ih =>
      let next := { live with connections := newest.step store action :: earlier }
      have step : live.step store (.connection 0 action) = next := by
        simp [LiveService.step, connections, next]
      have later : next.run store (rest.map (.connection 0)) = _ := ih rfl
      rw [List.map_cons, run, List.foldl_cons, step]
      exact later

theorem step_loop (isStarted : live.isStarted = true) (turn : Turn σ) :
    live.step store (.loop turn) = live.turn turn :=
  if_pos isStarted

namespace Follows

theorem refl (h : Follows service live) : Leads store service live := ⟨[], h⟩

/-- Without a connection that is served, only the store is there. -/
theorem served_of_phase (h : Follows service live)
    (notServing : service.supervisor.phase ≠ .serving) : ∃ s, service.served = .nothing s := by
  cases served : service.served with
  | nothing s => exact ⟨s, rfl⟩
  | one connection => exact absurd (h.serving served).1 notServing

/-- The connection that is served goes on. -/
theorem serve (h : Follows service live) {connection connection' : Connection π σ}
    (served : service.served = .one connection) {ids : List String}
    (goesOn : ∀ {newest : LiveConnection π σ}, newest.Follows connection →
      newest.Leads store connection' ids) :
    Leads store { service with served := .one connection' } live := by
  obtain ⟨phase, newest, earlier, connections, follows⟩ := h.serving served
  obtain ⟨actions, -, later⟩ := goesOn follows
  refine ⟨actions.map (.connection 0), ?_⟩
  rw [run_connection connections]
  refine ⟨h.supervisor, h.shell, h.recording, h.isStarted, h.isBusy, h.cancelled, nofun, ?_⟩
  rintro _ ⟨⟩
  exact ⟨phase, _, earlier, rfl, later⟩

theorem uncancelled (h : Follows service live) (goesOn : service.supervisor.result? = none) :
    live.isCancelled = false := by
  refine Bool.eq_false_iff.mpr fun cancelled => ?_
  have ended := h.cancelled cancelled
  rw [goesOn] at ended
  cases ended

/-- Nothing follows from an event that does not fit. -/
theorem unfit (h : Follows service live) {event : SupervisorEvent}
    (same : service.supervisor.step event = service.supervisor) :
    service.step host store event = service := by
  cases served : service.served with
  | nothing s => rw [Service.step_of_nothing served (by rw [same]; exact h.idle served), same]
  | one connection =>
      simp only [Service.step, same, (h.serving served).1, served]
      rw [← served]

/-- The loop goes on, and nothing is served before or after. -/
theorem goOn (h : Follows service live) {event : SupervisorEvent}
    (notServing : service.supervisor.phase ≠ .serving)
    (rests : (service.supervisor.step event).phase ≠ .serving) {actions : List (Action π σ)}
    {isCancelled : Bool}
    (ran : ∃ trace, live.run store actions = { live.follow event with trace, isCancelled })
    (cancelled : isCancelled = true → (service.supervisor.step event).result?.isSome = true) :
    Leads store (service.step host store event) live := by
  obtain ⟨s, served⟩ := h.served_of_phase notServing
  have step : service.step host store event = _ := Service.step_of_nothing served rests
  obtain ⟨trace, ran⟩ := ran
  refine ⟨actions, ?_⟩
  rw [ran, step]
  refine ⟨congrArg (Supervisor.step · event) h.supervisor, h.shell, h.recording, h.isStarted, rfl,
    cancelled, fun _ => rests, fun other => ?_⟩
  rw [served] at other
  cases other

/-- The loop goes on, and nobody has told it to end. -/
theorem turn (h : Follows service live) {event : SupervisorEvent}
    (notServing : service.supervisor.phase ≠ .serving)
    (goesOn : service.supervisor.result? = none)
    (rests : (service.supervisor.step event).phase ≠ .serving) {actions : List (Action π σ)}
    (ran : ∃ trace, live.run store actions = { live.follow event with trace }) :
    Leads store (service.step host store event) live := by
  refine h.goOn notServing rests ran fun cancelled => ?_
  rw [show (live.follow event).isCancelled = _ from h.uncancelled goesOn] at cancelled
  cases cancelled

theorem ask (h : Follows service live) {waits : Backoff}
    (phase : service.supervisor.phase = .checking waits) (isReady : Bool) :
    Leads store (service.step host store (.checked isReady)) live := by
  have rests : (service.supervisor.step (.checked isReady)).phase ≠ .serving := by
    cases isReady <;> simp only [Supervisor.step, phase, Supervisor.phase_within] <;> simp
  have there : live.supervisor.phase = .checking waits := by rw [h.supervisor, phase]
  let asking := live.engage.note .asked
  have asked : live.turn .ask = asking := by simp only [LiveService.turn, there, h.isBusy, asking]
  have answered : asking.turn (.answer isReady) =
      (asking.follow (.checked isReady)).note (.answered isReady) := by
    have still : asking.supervisor.phase = .checking waits := there
    have busy : asking.isBusy = true := rfl
    simp only [LiveService.turn, still, busy]
  have ran : ∃ trace, live.run store [.loop .ask, .loop (.answer isReady)] =
      { live.follow (.checked isReady) with trace } := by
    rw [run, List.foldl_cons, step_loop h.isStarted, asked, List.foldl_cons,
      step_loop (by exact h.isStarted), answered]
    exact ⟨_, rfl⟩
  exact h.turn (by rw [phase]; simp) (by rw [Supervisor.result?, phase]) rests ran

theorem wake (h : Follows service live)
    (phase : (∃ waits delay, service.supervisor.phase = .waiting waits delay) ∨
      ∃ delay, service.supervisor.phase = .backingOff delay) :
    Leads store (service.step host store .slept) live := by
  obtain ⟨rests, goesOn, notServing, woken⟩ : (service.supervisor.step .slept).phase ≠ .serving ∧
      service.supervisor.result? = none ∧ service.supervisor.phase ≠ .serving ∧
      live.turn .wake = live.follow .slept := by
    obtain ⟨waits, delay, phase⟩ | ⟨delay, phase⟩ := phase
    all_goals
      simp only [Supervisor.step, Supervisor.result?, LiveService.turn, h.supervisor, phase]
      exact ⟨by rintro ⟨⟩, trivial, by rintro ⟨⟩, trivial⟩
  have ran : ∃ trace, live.run store [.loop .wake] = { live.follow .slept with trace } := by
    rw [run, List.foldl_cons, step_loop h.isStarted, woken]
    exact ⟨_, rfl⟩
  exact h.turn notServing goesOn rests ran

theorem step_dial (h : Follows service live) (phase : service.supervisor.phase = .connecting) :
    live.step store (.loop .dial) = live.engage.note .dialled := by
  have there : live.supervisor.phase = .connecting := by rw [h.supervisor, phase]
  rw [step_loop h.isStarted]
  simp only [LiveService.turn, there, h.isBusy]

theorem refuse (h : Follows service live) (phase : service.supervisor.phase = .connecting) :
    Leads store (service.step host store .refused) live := by
  have rests := (Supervisor.rests_refused phase).not_serving
  let dialling := live.engage.note .dialled
  have refused : dialling.turn .refuse = (dialling.follow .refused).note .refused := by
    have still : dialling.supervisor.phase = .connecting := by rw [← phase, ← h.supervisor]; rfl
    have busy : dialling.isBusy = true := rfl
    simp only [LiveService.turn, still, busy]
  have ran : ∃ trace, live.run store [.loop .dial, .loop .refuse] =
      { live.follow .refused with trace } := by
    rw [run, List.foldl_cons, h.step_dial phase, List.foldl_cons,
      step_loop (by exact h.isStarted), refused]
    exact ⟨_, rfl⟩
  exact h.turn (by rw [phase]; simp) (by rw [Supervisor.result?, phase]) rests ran

/-- A connection is made. -/
theorem connect (h : Follows service live) (phase : service.supervisor.phase = .connecting) :
    Leads store (service.step host store .connected) live := by
  obtain ⟨s, served⟩ := h.served_of_phase (by rw [phase]; simp)
  have serving : (service.supervisor.step .connected).phase = .serving := by
    simp only [Supervisor.step, phase, Supervisor.phase_within]
  have step : service.step host store .connected =
      { service with
        supervisor := service.supervisor.step .connected
        served := .one (.new service.shell service.recording s) } := by
    simp only [Service.step, serving, served]
  let dialling := live.engage.note .dialled
  have connected : dialling.turn (.connect s) =
      ((dialling.follow .connected).begin s).note .connected := by
    have still : dialling.supervisor.phase = .connecting := by rw [← phase, ← h.supervisor]; rfl
    have busy : dialling.isBusy = true := rfl
    simp only [LiveService.turn, still, busy]
  refine ⟨[.loop .dial, .loop (.connect s)], ?_⟩
  rw [step, run, List.foldl_cons, h.step_dial phase, List.foldl_cons,
    step_loop (by exact h.isStarted), connected]
  refine ⟨congrArg (Supervisor.step · .connected) h.supervisor, h.shell, h.recording, h.isStarted,
    rfl, fun cancelled => ?_, by simp, ?_⟩
  · have uncancelled := h.uncancelled (by rw [Supervisor.result?, phase])
    rw [show live.isCancelled = true from cancelled] at uncancelled
    cases uncancelled
  · rintro _ ⟨⟩
    refine ⟨serving, _, live.connections, rfl, ?_⟩
    rw [← h.shell, ← h.recording]
    exact LiveConnection.follows_new live.shell live.recording s

/-- The connection that is served comes to its end, and the loop leaves it. -/
theorem leave (h : Follows service live) {connection : Connection π σ}
    (served : service.served = .one connection) {before : List (Action π σ)} {isCancelled : Bool}
    (ran : live.run store before = { live with isCancelled }) {event : SupervisorEvent}
    (why : event = if isCancelled then .cancelled else .lost)
    (rests : (service.supervisor.step event).phase ≠ .serving)
    (cancelled : isCancelled = true → (service.supervisor.step event).result?.isSome = true)
    (goesOn : (service.step host store event).isStuck = false) :
    Leads store (service.step host store event) live := by
  obtain ⟨phase, newest, earlier, connections, follows⟩ := h.serving served
  have step : service.step host store event = _ := Service.step_of_one served rests
  have notStuck : (connection.shutdown host store).isStuck = false := by
    refine Bool.eq_false_iff.mpr fun isStuck => ?_
    rw [step] at goesOn
    simp only [isStuck, if_true] at goesOn
    rw [Service.isStuck_of_one rfl, isStuck] at goesOn
    cases goesOn
  simp only [notStuck, Bool.false_eq_true, if_false] at step
  -- The loop leaves a connection only when that has come to its end.
  obtain ⟨actions, -, ends⟩ : newest.LeadsToEnd store _ := follows.shutdown host notStuck
  refine ⟨before ++ actions.map (.connection 0) ++ [.loop .leave], ?_⟩
  rw [run_append, run_append, ran, step]
  rw [run_connection (by exact connections)]
  have there : live.supervisor.phase = .serving := by rw [h.supervisor, phase]
  simp only [run, List.foldl_cons, List.foldl_nil, LiveService.step, h.isStarted, if_true,
    LiveService.turn, there, ends.complete, ← why]
  exact ⟨congrArg (Supervisor.step · event) h.supervisor, h.shell, h.recording, rfl, rfl,
    cancelled, fun _ => rests, by simp⟩

/-- The connection that is served is lost. -/
theorem lose (h : Follows service live) (phase : service.supervisor.phase = .serving)
    (notStuck : (service.step host store .lost).isStuck = false) :
    Leads store (service.step host store .lost) live := by
  have rests := (Supervisor.rests_lost phase).not_serving
  have uncancelled := h.uncancelled (by rw [Supervisor.result?, phase])
  cases served : service.served with
  | nothing s => exact absurd phase (h.idle served)
  | one connection =>
      have ran : live.run store [] = { live with isCancelled := false } := by
        rw [← uncancelled]
        rfl
      exact h.leave served ran rfl rests (by simp) notStuck

/-- The loop is told to end. -/
theorem cancel (h : Follows service live) (goesOn : service.supervisor.result? = none)
    (notStuck : (service.step host store .cancelled).isStuck = false) :
    Leads store (service.step host store .cancelled) live := by
  have rests := service.supervisor.rests_cancelled.not_serving
  have ended : (service.supervisor.step .cancelled).result?.isSome = true := by
    cases phase : service.supervisor.phase with
    | ended result => simp only [Supervisor.step, Supervisor.result?, phase, Option.isSome_some]
    | checking | waiting | connecting | serving | backingOff =>
        simp only [Supervisor.step, Supervisor.result?, phase, Supervisor.phase_within,
          Option.isSome_some]
  let cancelled := { live with isCancelled := true }
  have ran : live.run store [.cancel] = cancelled := rfl
  cases served : service.served with
  | nothing s =>
      have noticed : cancelled.turn .notice = cancelled.follow .cancelled := by
        simp only [LiveService.turn, cancelled, h.isBusy, if_true]
        split
        next phase => exact absurd phase (h.supervisor ▸ h.idle served)
        next phase =>
          rw [h.supervisor] at phase
          rw [Supervisor.result?, phase] at goesOn
          cases goesOn
        next busy => cases busy
        next => rfl
      have ran : ∃ trace, live.run store [.cancel, .loop .notice] =
          { live.follow .cancelled with trace, isCancelled := true } := by
        have step : live.step store .cancel = cancelled := rfl
        rw [run, List.foldl_cons, step, List.foldl_cons, step_loop (by exact h.isStarted), noticed]
        exact ⟨_, rfl⟩
      exact h.goOn (h.idle served) rests ran fun _ => ended
  | one connection => exact h.leave served ran rfl rests (fun _ => ended) notStuck

/-- The supervisor is told something. -/
theorem tell (h : Follows service live) (host : Host π) (event : SupervisorEvent)
    (notStuck : (service.step host store event).isStuck = false) :
    Leads store (service.step host store event) live := by
  have leads := service.supervisor.step_leads event
  generalize after : service.supervisor.step event = supervisor at leads
  cases leads with
  | nowhere =>
      rw [h.unfit after]
      exact h.refl
  | cancelled goesOn => exact h.cancel goesOn notStuck
  | ready phase | unready phase => exact h.ask phase _
  | awake phase => exact h.wake (.inl ⟨_, _, phase⟩)
  | again phase => exact h.wake (.inr ⟨_, phase⟩)
  | connected phase => exact h.connect phase
  | refused phase => exact h.refuse phase
  | lost phase => exact h.lose phase notStuck

/-- What arrives is handled, the session goes on, or what was sent is taken. -/
theorem perform (h : Follows service live) (host : Host π) (event : Service.Event)
    (notStuck : (service.perform host store event).isStuck = false) :
    Leads store (service.perform host store event) live := by
  cases served : service.served with
  | nothing s =>
      cases event with
      | told event => exact h.tell host event notStuck
      | arrive | advance | takeSent =>
          simp only [Service.perform, Service.handle, Service.advance, Service.takeSent, served]
          exact h.refl
  | one connection =>
      cases event with
      | told event => exact h.tell host event notStuck
      | arrive fresh bytes =>
          obtain ⟨-, newest, -, -, follows⟩ := h.serving served
          have goesOn : service.handle host store fresh bytes =
              { service with served := .one (connection.handle host store fresh bytes).2 } := by
            simp only [Service.handle, served, follows.notStuck, Bool.false_eq_true, if_false]
            split
            next result =>
              have handled := Connection.handle_ok follows.isOpen bytes _ (congrArg Prod.fst result)
              cases handled
            next result => rw [result]
          simp only [Service.perform, goesOn] at notStuck ⊢
          exact h.serve served fun follows => follows.handle host notStuck
      | advance =>
          simp only [Service.perform, Service.advance, served]
          exact h.serve served fun follows => follows.advance host
      | takeSent =>
          simp only [Service.perform, Service.takeSent, served]
          exact h.serve served fun follows => follows.takeSent

theorem run (h : Follows service live) (host : Host π) (events : List Service.Event)
    (notStuck : (service.run host store events).isStuck = false) :
    Leads store (service.run host store events) live := by
  induction events generalizing service live with
  | nil => exact h.refl
  | cons event rest ih =>
      have later : (service.perform host store event).isStuck = false := by
        refine Bool.eq_false_iff.mpr fun isStuck => ?_
        have always : (service.run host store (event :: rest)).isStuck = true :=
          Service.isStuck_run isStuck rest
        rw [notStuck] at always
        cases always
      obtain ⟨actions, follows⟩ : Leads store (service.perform host store event) live :=
        h.perform host event later
      obtain ⟨more, later⟩ := ih follows notStuck
      refine ⟨actions ++ more, ?_⟩
      rwa [run_append]

end Follows

/-- Whatever happens to a service that does not wait for something that never comes, loop and connections
    can take turns so that they bring it about. -/
theorem run_leads (host : Host π) (store : RecordingStore σ) (settings : SupervisorSettings)
    (shell : ShellSpec) (recording : Option RecorderSettings) (s : σ) (events : List Service.Event) :
    let service := (Service.new settings shell recording s).run host store events
    service.isStuck = false → Leads store service (new settings shell recording) := by
  intro service notStuck
  let started : LiveService π σ := { new settings shell recording with isStarted := true }
  have follows : Follows (Service.new settings shell recording s) started :=
    ⟨rfl, rfl, rfl, rfl, rfl, nofun, fun _ => nofun, nofun⟩
  obtain ⟨actions, later⟩ : Leads store _ started := follows.run host events notStuck
  exact ⟨.start :: actions, later⟩

end LiveService

end TerminalAgent
