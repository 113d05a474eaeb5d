import Mathlib.Data.List.Chain
import TerminalAgent.Proofs.Connection.Live
import TerminalAgent.Recording.MemoryStore

/-! # What no run of a supervisor does

Whatever is answered, connected, received or lost, and whenever it is cancelled, a supervisor takes its
states in order, asks before it dials, has one connection at a time, and leaves nothing behind.
-/

namespace TerminalAgent

/-! ## The states of a supervisor -/

/-- Whether a state may follow on another one. -/
def ConnectionState.precedes : ConnectionState → ConnectionState → Bool
  | .disconnected, .connecting | .connecting, .connected | .connecting, .disconnected
  | .connected, .disconnected | .disconnected, .failed => true
  | _, _ => false

/-- The state that goes with a phase. -/
def SupervisorPhase.state : SupervisorPhase → ConnectionState
  | .checking _ | .waiting _ _ | .backingOff _ | .ended (.ok _) => .disconnected
  | .connecting => .connecting
  | .serving => .connected
  | .ended (.error _) => .failed

namespace Supervisor

variable {supervisor : Supervisor}

/-- The states followed on each other as they may. -/
def InOrder (supervisor : Supervisor) : Prop :=
  supervisor.history.IsChain fun later earlier => earlier.precedes later = true

theorem InOrder.enter (h : supervisor.InOrder) {state : ConnectionState}
    (next : supervisor.state.precedes state = true ∨ supervisor.state = state) :
    (supervisor.enter state).InOrder := by
  unfold Supervisor.enter
  split
  next => exact h
  next differs =>
    have precedes := next.resolve_right differs
    refine List.IsChain.cons h fun earlier head => ?_
    rwa [Supervisor.state, List.headD_eq_head?_getD, head] at precedes

theorem InOrder.withBackoff (h : supervisor.InOrder) (backoff : Backoff) :
    InOrder { supervisor with backoff } := h

/-- It has taken its states in order and is in the state of its phase. -/
structure Steady (supervisor : Supervisor) : Prop where
  inOrder : supervisor.InOrder
  state : supervisor.state = supervisor.phase.state

/-- An attempt or a connection has ended. -/
theorem Steady.retry (h : supervisor.Steady)
    (attempted : supervisor.phase = .connecting ∨ supervisor.phase = .serving) :
    supervisor.retry.Steady := by
  have left : (supervisor.enter .disconnected).InOrder := by
    refine h.inOrder.enter (.inl ?_)
    rw [h.state]
    obtain phase | phase := attempted <;> rw [phase] <;> rfl
  obtain ⟨delay, -, retried⟩ | ⟨-, retried⟩ := supervisor.retry_cases
  · rw [retried]
    exact ⟨left, state_enter ..⟩
  · rw [retried]
    refine ⟨(left.withBackoff supervisor.backoff.next.2).enter (.inl ?_), state_enter ..⟩
    change (supervisor.enter .disconnected).state.precedes .failed = true
    rw [state_enter]
    rfl

theorem Steady.step (h : supervisor.Steady) (event : SupervisorEvent) :
    (supervisor.step event).Steady := by
  have onward {state : ConnectionState} {phase : SupervisorPhase} (now : supervisor.phase = phase)
      (next : phase.state.precedes state = true ∨ phase.state = state) :
      (supervisor.enter state).InOrder := by
    refine h.inOrder.enter ?_
    rwa [h.state, now]
  have leads := supervisor.step_leads event
  generalize supervisor.step event = after at leads
  cases leads with
  | nowhere => exact h
  | cancelled goesOn =>
      refine ⟨?_, state_enter ..⟩
      cases phase : supervisor.phase with
      | checking | waiting | backingOff => exact onward phase (.inr rfl)
      | connecting | serving => exact onward phase (.inl rfl)
      | ended result =>
          rw [result?, phase] at goesOn
          cases goesOn
  | ready phase => exact ⟨onward phase (.inl rfl), state_enter ..⟩
  | unready phase delay => exact ⟨h.inOrder, by rw [state_within, h.state, phase]; rfl⟩
  | awake phase => exact ⟨h.inOrder, by rw [state_within, h.state, phase]; rfl⟩
  | connected phase =>
      refine ⟨(h.inOrder.withBackoff supervisor.backoff.reset).enter (.inl ?_), state_enter ..⟩
      change supervisor.state.precedes .connected = true
      rw [h.state, phase]
      rfl
  | refused phase => exact h.retry (.inl phase)
  | lost phase => exact h.retry (.inr phase)
  | again phase => exact ⟨h.inOrder, by rw [state_within, h.state, phase]; rfl⟩

end Supervisor

/-! ## Attempts to connect -/

/-- Each attempt comes right after a question that was answered well. -/
def Probed (trace : List Happening) : Prop :=
  ∀ before, before ++ [.dialled] <+: trace → [.asked, .answered true] <:+ before

/-- Whether one could dial. -/
inductive Line where
  | free
  /-- An attempt to connect is under way. -/
  | dialling
  /-- A connection is served. -/
  | serving

/-- What becomes of the line, if that may happen. -/
def Line.next : Line → Happening → Option Line
  | .free, .asked | .free, .answered _ => some .free
  | .free, .dialled => some .dialling
  | .dialling, .connected => some .serving
  | .dialling, .refused | .dialling, .abandoned | .serving, .released => some .free
  | _, _ => none

/-- An attempt begins only when the line is free, and occupies it until it has ended, with the
    connection that comes of it. -/
def Alone (trace : List Happening) : Prop :=
  (trace.foldlM Line.next .free).isSome = true

theorem Probed.note {trace : List Happening} (h : Probed trace) {happening : Happening}
    (ready : happening = .dialled → [.asked, .answered true] <:+ trace) :
    Probed (trace ++ [happening]) := by
  intro before dialled
  obtain now | earlier := List.prefix_concat_iff.mp dialled
  · obtain ⟨rfl, last⟩ := List.append_inj' now rfl
    exact ready (List.singleton_inj.mp last).symm
  · exact h before earlier

/-- The line in a phase, whose question or attempt may be under way. -/
def SupervisorPhase.line (isBusy : Bool) : SupervisorPhase → Line
  | .connecting => if isBusy then .dialling else .free
  | .serving => .serving
  | .checking _ | .waiting _ _ | .backingOff _ | .ended _ => .free

/-- What was told last, where that matters. -/
def SupervisorPhase.recent : SupervisorPhase → (isBusy : Bool) → List Happening
  | .checking _, true => [.asked]
  | .connecting, false => [.asked, .answered true]
  | _, _ => []

/-- No attempt and no connection is under way, and none is due. -/
structure SupervisorPhase.Rests (phase : SupervisorPhase) : Prop where
  free : phase.line false = .free
  recent : phase.recent false = []

namespace Supervisor

theorem rests_retry (supervisor : Supervisor) : supervisor.retry.phase.Rests := by
  obtain ⟨delay, -, retried⟩ | ⟨-, retried⟩ := supervisor.retry_cases <;> rw [retried] <;>
    exact ⟨rfl, rfl⟩

theorem rests_refused {supervisor : Supervisor} (phase : supervisor.phase = .connecting) :
    (supervisor.step .refused).phase.Rests := by
  simp only [step, phase]
  exact supervisor.rests_retry

theorem rests_lost {supervisor : Supervisor} (phase : supervisor.phase = .serving) :
    (supervisor.step .lost).phase.Rests := by
  simp only [step, phase]
  exact supervisor.rests_retry

theorem rests_cancelled (supervisor : Supervisor) : (supervisor.step .cancelled).phase.Rests := by
  cases phase : supervisor.phase with
  | ended => simp only [step, phase]; exact ⟨rfl, rfl⟩
  | checking | waiting | connecting | serving | backingOff =>
      simp only [step, phase, phase_within]
      exact ⟨rfl, rfl⟩

end Supervisor

/-- What was told goes with the phase. -/
structure Told (phase : SupervisorPhase) (isBusy : Bool) (trace : List Happening) : Prop where
  probed : Probed trace
  line : trace.foldlM Line.next .free = some (phase.line isBusy)
  recent : phase.recent isBusy <:+ trace

namespace Told

variable {phase phase' : SupervisorPhase} {isBusy isBusy' : Bool} {trace : List Happening}

/-- Nothing is told. -/
theorem silent (h : Told phase isBusy trace) (line : phase'.line isBusy' = phase.line isBusy)
    (recent : phase'.recent isBusy' = []) : Told phase' isBusy' trace :=
  ⟨h.probed, line ▸ h.line, recent ▸ List.nil_suffix⟩

theorem note (h : Told phase isBusy trace) {happening : Happening}
    (next : (phase.line isBusy).next happening = some (phase'.line isBusy'))
    (due : happening = .dialled → [.asked, .answered true] <:+ trace)
    (recent : phase'.recent isBusy' <:+ trace ++ [happening]) :
    Told phase' isBusy' (trace ++ [happening]) where
  probed := h.probed.note due
  line := by
    rw [List.foldlM_append, h.line]
    simpa using next
  recent := recent

/-- An attempt or a connection ends. -/
theorem rest (h : Told phase isBusy trace) (rests : phase'.Rests) {happening : Happening}
    (ends : (phase.line isBusy).next happening = some .free) (notDialled : happening ≠ .dialled) :
    Told phase' false (trace ++ [happening]) :=
  h.note (rests.free ▸ ends) (fun dialled => absurd dialled notDialled)
    (rests.recent ▸ List.nil_suffix)

end Told

namespace LiveService

variable {π σ : Type} {store : RecordingStore σ} {service service' : LiveService π σ}

theorem Turns.told (turns : Turns service service')
    (h : Told service.supervisor.phase service.isBusy service.trace) :
    Told service'.supervisor.phase service'.isBusy service'.trace := by
  cases turns with
  | stays => exact h
  | asked phase idle =>
      rw [phase, idle] at h
      change Told service.supervisor.phase true _
      rw [phase]
      exact h.note rfl (by simp) (List.suffix_append ..)
  | answered phase busy isReady =>
      rw [phase, busy] at h
      change Told (service.supervisor.step _).phase false _
      cases isReady with
      | true =>
          rw [show (service.supervisor.step (.checked true)).phase = .connecting by
            simp only [Supervisor.step, phase, Supervisor.phase_within]]
          obtain ⟨before, told⟩ := h.recent
          exact h.note rfl (by simp) ⟨before, by rw [← told, List.append_assoc]; rfl⟩
      | false =>
          obtain ⟨waits, delay, waiting⟩ : ∃ waits delay,
              (service.supervisor.step (.checked false)).phase = .waiting waits delay := by
            simp only [Supervisor.step, phase, Supervisor.phase_within]
            exact ⟨_, _, rfl⟩
          rw [waiting]
          exact h.note rfl (by simp) List.nil_suffix
  | woken phase =>
      obtain ⟨waits, checking⟩ : ∃ waits, (service.supervisor.step .slept).phase = .checking waits := by
        obtain ⟨waits, delay, phase⟩ | ⟨delay, phase⟩ := phase <;>
          simp only [Supervisor.step, phase, Supervisor.phase_within] <;> exact ⟨_, rfl⟩
      refine h.silent ?_ ?_
      · rw [show (service.follow .slept).supervisor.phase = _ from checking]
        obtain ⟨waits, delay, phase⟩ | ⟨delay, phase⟩ := phase <;> rw [phase] <;> rfl
      · rw [show (service.follow .slept).supervisor.phase = _ from checking]
        rfl
  | dialled phase idle =>
      rw [phase, idle] at h
      change Told service.supervisor.phase true _
      rw [phase]
      exact h.note rfl (fun _ => h.recent) List.nil_suffix
  | connected phase busy s =>
      rw [phase, busy] at h
      change Told (service.supervisor.step .connected).phase false _
      rw [show (service.supervisor.step .connected).phase = .serving by
        simp only [Supervisor.step, phase, Supervisor.phase_within]]
      exact h.note rfl (by simp) List.nil_suffix
  | refused phase busy =>
      exact h.rest (Supervisor.rests_refused phase) (by rw [phase, busy]; rfl) (by simp)
  | abandoned phase busy =>
      exact h.rest service.supervisor.rests_cancelled (by rw [phase, busy]; rfl) (by simp)
  | noticed notServing goesOn notDialling =>
      have rests := service.supervisor.rests_cancelled
      refine h.silent (rests.free.trans ?_) rests.recent
      cases phase : service.supervisor.phase with
      | checking | waiting | backingOff | ended => rfl
      | connecting =>
          rw [notDialling phase]
          rfl
      | serving => exact absurd phase notServing
  | @released phase complete event why =>
      refine h.rest ?_ (by rw [phase]; rfl) (by simp)
      obtain rfl | rfl := why
      · exact service.supervisor.rests_cancelled
      · exact Supervisor.rests_lost phase

/-! ## Connections -/

/-- All connections are over but the one that is served. -/
structure Kept (service : LiveService π σ) : Prop where
  orderly : ∀ {n : Nat} {live : LiveConnection π σ}, service.connections[n]? = some live →
    live.Orderly
  complete : ∀ {n : Nat} {live : LiveConnection π σ}, service.connections[n]? = some live →
    live.routing = .complete ∨ n = 0 ∧ service.supervisor.phase = .serving

namespace Kept

/-- Every connection is over, if none is served. -/
theorem allComplete (h : Kept service) (notServing : service.supervisor.phase ≠ .serving) {n : Nat}
    {live : LiveConnection π σ} (found : service.connections[n]? = some live) :
    live.routing = .complete :=
  (h.complete found).resolve_right fun served => notServing served.2

/-- The connections stay, and the supervisor goes on with none of them. -/
theorem goOn (h : Kept service) (same : service'.connections = service.connections)
    (complete : service.supervisor.phase = .serving →
      ∀ live ∈ service.connections.head?, live.routing = .complete) : Kept service' where
  orderly found := h.orderly (same ▸ found)
  complete found := by
    rw [same] at found
    obtain complete | ⟨rfl, serving⟩ := h.complete found
    · exact .inl complete
    · exact .inl (complete serving _ (by rwa [List.head?_eq_getElem?]))

theorem turns (h : Kept service) (turns : Turns service service') : Kept service' := by
  have idle {phase : SupervisorPhase} (now : service.supervisor.phase = phase)
      (notServing : phase ≠ .serving) (serving : service.supervisor.phase = .serving) :
      ∀ live ∈ service.connections.head?, live.routing = .complete :=
    absurd (now.symm.trans serving) notServing
  cases turns with
  | stays => exact h
  | asked phase => exact h.goOn rfl (idle phase nofun)
  | answered phase => exact h.goOn rfl (idle phase nofun)
  | woken phase =>
      obtain ⟨waits, delay, phase⟩ | ⟨delay, phase⟩ := phase <;> exact h.goOn rfl (idle phase nofun)
  | dialled phase => exact h.goOn rfl (idle phase nofun)
  | refused phase => exact h.goOn rfl (idle phase nofun)
  | abandoned phase => exact h.goOn rfl (idle phase nofun)
  | noticed notServing => exact h.goOn rfl fun serving => absurd serving notServing
  | released phase complete => exact h.goOn rfl fun _ => complete
  | connected phase busy s =>
      have serving : (service.supervisor.step .connected).phase = .serving := by
        simp only [Supervisor.step, phase, Supervisor.phase_within]
      constructor
      case orderly =>
        rintro (_ | n) live found
        · cases found
          exact LiveConnection.orderly_new ..
        · exact h.orderly found
      case complete =>
        rintro (_ | n) live found
        · exact .inr ⟨rfl, serving⟩
        · exact .inl (h.allComplete (by rw [phase]; nofun) found)

/-- A connection goes on. -/
theorem connection (h : Kept service) (n : Nat) (action : LiveConnection.Action π σ) :
    Kept (service.step store (.connection n action)) := by
  have back {m : Nat} {live : LiveConnection π σ}
      (found : (service.step store (.connection n action)).connections[m]? = some live) :
      ∃ before, service.connections[m]? = some before ∧
        (live = before ∨ live = before.step store action) := by
    rw [LiveService.step, List.getElem?_modify, Option.map_eq_map, Option.map_eq_some_iff] at found
    obtain ⟨before, found, rfl⟩ := found
    refine ⟨before, found, ?_⟩
    split
    next => exact .inr rfl
    next => exact .inl rfl
  constructor
  case orderly =>
    intro m live found
    obtain ⟨before, there, rfl | rfl⟩ := back found
    · exact h.orderly there
    · exact (h.orderly there).moves (before.step_moves store action)
  case complete =>
    intro m live found
    obtain ⟨before, there, rfl | rfl⟩ := back found
    · exact h.complete there
    · exact (h.complete there).imp_left (before.step_moves store action).complete

end Kept

/-! ## Runs -/

/-- Once the loop has ended, it does nothing more. -/
theorem Turns.ended (turns : Turns service service')
    (ended : service.supervisor.result?.isSome = true) : service' = service := by
  have contradiction {phase : SupervisorPhase} (now : service.supervisor.phase = phase)
      (goesOn : ∀ result, phase ≠ .ended result) : service' = service := by
    unfold Supervisor.result? at ended
    split at ended
    next complete => exact absurd (now.symm.trans complete) (goesOn _)
    next => cases ended
  cases turns with
  | stays => rfl
  | asked phase | answered phase | dialled phase | connected phase | refused phase | abandoned phase
    | released phase => exact contradiction phase nofun
  | woken phase =>
      obtain ⟨waits, delay, phase⟩ | ⟨delay, phase⟩ := phase <;> exact contradiction phase nofun
  | noticed notServing goesOn =>
      rw [goesOn] at ended
      cases ended

theorem run_append (service : LiveService π σ) (actions more : List (Action π σ)) :
    run store service (actions ++ more) = run store (run store service actions) more :=
  List.foldl_append

theorem step_ended (store : RecordingStore σ) (ended : service.supervisor.result?.isSome = true)
    (action : Action π σ) :
    (service.step store action).supervisor = service.supervisor ∧
      (service.step store action).trace = service.trace := by
  cases action with
  | start | cancel | connection => exact ⟨rfl, rfl⟩
  | shutdown | join => simp only [LiveService.step]; split <;> exact ⟨rfl, rfl⟩
  | loop turn =>
      simp only [LiveService.step]
      split
      next => rw [(service.turn_turns turn).ended ended]; exact ⟨rfl, rfl⟩
      next => exact ⟨rfl, rfl⟩

theorem run_ended (store : RecordingStore σ) (ended : service.supervisor.result?.isSome = true)
    (actions : List (Action π σ)) :
    (service.run store actions).supervisor = service.supervisor ∧
      (service.run store actions).trace = service.trace := by
  induction actions generalizing service with
  | nil => exact ⟨rfl, rfl⟩
  | cons action actions ih =>
      obtain ⟨supervisor, trace⟩ := step_ended store ended action
      have still : (service.step store action).supervisor.result?.isSome = true := by rwa [supervisor]
      obtain ⟨later, told⟩ := ih still
      exact ⟨later.trans supervisor, told.trans trace⟩

/-- What holds of a supervisor and its connections however their steps are interleaved. -/
structure Sound (service : LiveService π σ) : Prop where
  steady : service.supervisor.Steady
  told : Told service.supervisor.phase service.isBusy service.trace
  kept : service.Kept
  joined : service.isJoined = true → service.supervisor.result?.isSome = true

theorem sound_new (settings : SupervisorSettings) (shell : ShellSpec)
    (recording : Option RecorderSettings) :
    Sound (new settings shell recording : LiveService π σ) where
  steady := ⟨List.isChain_singleton _, rfl⟩
  told := by
    refine ⟨fun before dialled => ?_, rfl, List.nil_suffix⟩
    simp [new] at dialled
  kept := ⟨nofun, nofun⟩
  joined := nofun

/-- Every connection that is not served has come to its end. -/
theorem Kept.quiet (h : Kept service) {n : Nat} {live : LiveConnection π σ}
    (found : service.connections[n]? = some live)
    (notServed : n = 0 → service.supervisor.phase ≠ .serving) :
    live.routing = .complete ∧ live.Quiet := by
  have complete := (h.complete found).resolve_right fun served => notServed served.1 served.2
  exact ⟨complete, (h.orderly found).quiet complete⟩

theorem Turns.steady (turns : Turns service service') (h : service.supervisor.Steady) :
    service'.supervisor.Steady := by
  cases turns with
  | stays | asked | dialled => exact h
  | answered | woken | connected | refused | abandoned | noticed | released => exact h.step _

theorem Turns.isJoined (turns : Turns service service') : service'.isJoined = service.isJoined := by
  cases turns <;> rfl

theorem Turns.hasReturned (turns : Turns service service') :
    service'.hasReturned = service.hasReturned := by
  cases turns <;> rfl

theorem Sound.step (h : Sound service) (action : Action π σ) : Sound (service.step store action) := by
  cases action with
  | start => exact ⟨h.steady, h.told, ⟨h.kept.orderly, h.kept.complete⟩, h.joined⟩
  | cancel => exact ⟨h.steady, h.told, ⟨h.kept.orderly, h.kept.complete⟩, h.joined⟩
  | shutdown =>
      simp only [LiveService.step]
      split <;> exact ⟨h.steady, h.told, ⟨h.kept.orderly, h.kept.complete⟩, h.joined⟩
  | join =>
      simp only [LiveService.step]
      split
      next returns =>
        rw [Bool.and_eq_true] at returns
        exact ⟨h.steady, h.told, ⟨h.kept.orderly, h.kept.complete⟩, fun _ => returns.2⟩
      next => exact h
  | connection n action => exact ⟨h.steady, h.told, h.kept.connection n action, h.joined⟩
  | loop turn =>
      simp only [LiveService.step]
      split
      next =>
        have turns := service.turn_turns turn
        refine ⟨turns.steady h.steady, turns.told h.told, h.kept.turns turns, fun joined => ?_⟩
        have ended := h.joined (turns.isJoined ▸ joined)
        rwa [turns.ended ended]
      next => exact h

theorem Sound.run (h : Sound service) (actions : List (Action π σ)) :
    Sound (service.run store actions) := by
  induction actions generalizing service with
  | nil => exact h
  | cons action actions ih => exact ih (h.step action)

variable (store) in
/-- What everyone may rely on who has to do with a supervisor. -/
structure Safe (service : LiveService π σ) : Prop where
  /-- The states followed on each other as they may; nothing follows on `failed`. -/
  states : service.supervisor.InOrder
  failed : service.supervisor.state = .failed →
    ∀ actions, (service.run store actions).supervisor.state = .failed
  /-- Right before each attempt, the local dependency was asked for and was there. -/
  probed : Probed service.trace
  /-- No two attempts or connections were under way at one time. -/
  alone : Alone service.trace
  /-- All earlier connections have come to their end, whatever the last one does. -/
  earlier : ∀ live ∈ service.connections.tail, live.routing = .complete ∧ live.Quiet
  /-- Unless it is connected, nothing goes on in any connection. -/
  quiet : service.supervisor.state ≠ .connected →
    ∀ live ∈ service.connections, live.routing = .complete ∧ live.Quiet
  /-- When a call to shut down that waited for the loop has returned, the supervisor has come to its
      end. -/
  final : service.isJoined = true →
    (service.supervisor.state = .disconnected ∨ service.supervisor.state = .failed) ∧
      ∀ actions, (service.run store actions).supervisor.state = service.supervisor.state ∧
        (service.run store actions).trace = service.trace

theorem Sound.safe (h : Sound service) : Safe store service where
  states := h.steady.inOrder
  failed failed actions := by
    have ended : service.supervisor.result?.isSome = true := by
      rw [h.steady.state] at failed
      cases phase : service.supervisor.phase with
      | ended => rw [Supervisor.result?, phase]; rfl
      | checking | waiting | connecting | serving | backingOff =>
          rw [phase] at failed
          cases failed
    rw [(run_ended store ended actions).1, failed]
  probed := h.told.probed
  alone := by rw [Alone, h.told.line]; rfl
  earlier live member := by
    obtain ⟨n, found⟩ := List.mem_iff_getElem?.mp member
    rw [List.getElem?_tail] at found
    exact h.kept.quiet found (by simp)
  quiet notConnected live member := by
    obtain ⟨n, found⟩ := List.mem_iff_getElem?.mp member
    refine h.kept.quiet found fun _ serving => notConnected ?_
    rw [h.steady.state, serving]
    rfl
  final joined := by
    have ended := h.joined joined
    refine ⟨?_, fun actions => ?_⟩
    · rw [h.steady.state]
      unfold Supervisor.result? at ended
      split at ended
      next result phase =>
        rw [phase]
        cases result with
        | ok => exact .inl rfl
        | error => exact .inr rfl
      next => cases ended
    · obtain ⟨supervisor, trace⟩ := run_ended store ended actions
      exact ⟨by rw [supervisor], trace⟩

variable (store) in
/-- Whatever happens to a supervisor and its connections, in whatever order, it stays safe. -/
theorem run_safe (settings : SupervisorSettings) (shell : ShellSpec)
    (recording : Option RecorderSettings) (actions : List (Action π σ)) :
    Safe store (run store (new settings shell recording) actions) :=
  ((sound_new settings shell recording).run actions).safe

/-- A connection is lost while its session runs, and the next attempt is given up. -/
example :
    let spawn : Bytes :=
      [0x81, 0xA3, 0x68, 0x64, 0x72, 0x82, 0xA5, 0x70, 0x72, 0x6F, 0x74, 0x6F, 0x01, 0xA3, 0x74, 0x79,
        0x70, 0xA3, 0x6E, 0x65, 0x77]
    let served : List (LiveConnection.Action Unit MemoryStore) :=
      [.arrive "first" spawn, .resume 0 .silent, .route, .route, .shutdown, .leave 0, .route,
        .resume 1 .silent, .resume 1 .silent, .progress "first" .endOutput,
        .progress "first" .finishRecording, .resume 1 .silent, .route]
    let dial : List (Action Unit MemoryStore) := [.loop .ask, .loop (.answer true), .loop .dial]
    let actions := .start :: dial ++ [.loop (.connect .empty)] ++ served.map (.connection 0) ++
      [.loop .leave, .loop .wake] ++ dial ++ [.shutdown, .loop .notice, .join]
    let service := (new ⟨.default, .ofMillis 500⟩ .default (some .default)).run MemoryStore.recording
      actions
    service.isJoined = true ∧
      service.trace = [.asked, .answered true, .dialled, .connected, .released, .asked,
        .answered true, .dialled, .abandoned] ∧
      service.supervisor.history =
        [.disconnected, .connecting, .disconnected, .connected, .connecting, .disconnected] := by
  decide +kernel

/-! ## Calls to shut down -/

/-- No call to shut down comes before the loop begins or while another one waits. -/
def Apart (store : RecordingStore σ) (service : LiveService π σ) (actions : List (Action π σ)) : Prop :=
  ∀ before after, actions = before ++ .shutdown :: after →
    (service.run store before).isStarted = true ∧
      ((service.run store before).isAwaited = true → (service.run store before).isJoined = true)

theorem returned_step {action : Action π σ} (h : service.hasReturned = true → service.isJoined = true)
    (apart : action = .shutdown →
      service.isStarted = true ∧ (service.isAwaited = true → service.isJoined = true)) :
    (service.step store action).hasReturned = true → (service.step store action).isJoined = true := by
  cases action with
  | start | cancel | connection => exact h
  | shutdown =>
      obtain ⟨started, joined⟩ := apart rfl
      simp only [LiveService.step]
      split
      next => exact h
      next awaited =>
        rw [started, Bool.true_and, Bool.not_eq_true, Bool.not_eq_false'] at awaited
        exact fun _ => joined awaited
  | join =>
      simp only [LiveService.step]
      split
      next => exact fun _ => rfl
      next => exact h
  | loop turn =>
      simp only [LiveService.step]
      split
      next =>
        have turns := service.turn_turns turn
        rw [turns.isJoined, turns.hasReturned]
        exact h
      next => exact h

/-- As long as calls to shut down do not overlap, one that has returned has waited for the loop, or
    another one had before. -/
theorem joined_of_returned (settings : SupervisorSettings) (shell : ShellSpec)
    (recording : Option RecorderSettings) {actions : List (Action π σ)}
    (apart : Apart store (new settings shell recording) actions) :
    let service := run store (new settings shell recording) actions
    service.hasReturned = true → service.isJoined = true := by
  induction actions using List.reverseRecOn with
  | nil => nofun
  | append_singleton actions action ih =>
      rw [run_append]
      refine returned_step (ih fun before after split => ?_) ?_
      · exact apart before (after ++ [action]) (by rw [split, List.append_assoc]; rfl)
      · rintro rfl
        exact apart actions [] rfl

/-- A second call returns at once, while the first one waits and the connection stands. -/
example :
    let actions : List (Action Unit MemoryStore) :=
      [.start, .loop .ask, .loop (.answer true), .loop .dial, .loop (.connect .empty), .shutdown,
        .shutdown]
    let service := (new ⟨.default, .ofMillis 500⟩ .default none).run MemoryStore.recording actions
    service.hasReturned = true ∧ service.isJoined = false ∧ service.supervisor.state = .connected := by
  decide +kernel

end LiveService

end TerminalAgent
