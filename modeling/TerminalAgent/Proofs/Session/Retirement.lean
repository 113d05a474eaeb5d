import Mathlib.Data.List.Pairwise
import TerminalAgent.Proofs.Session.Calls
import TerminalAgent.Proofs.Session.Live

/-! # One call retires a session

However calls on a registry are interleaved, the slot is claimed exactly while one call starts a shell,
and a session that was started is either in the slot or was taken out by exactly one call, which
finishes it. What comes later for such a session is refused.
-/

namespace TerminalAgent.Registry

variable {π σ : Type}

/-! ## What calls say -/

namespace Call

def isSpawning (call : Call π) : Bool :=
  match call.stage with
  | .spawning _ _ _ => true
  | _ => false

/-- The id of the session that a call has started. -/
def started? (call : Call π) : Option String :=
  match call.stage with
  | .ended .done => call.request.spawned?
  | _ => none

/-- Whether a call has taken this session. -/
def hasTaken (id : String) (call : Call π) : Bool :=
  call.took = some id

/-- How far a call for a request can have come. -/
def Proper (call : Call π) : Prop :=
  match call.request with
  | .spawn id size => call.took = none ∧
      ((∃ found, call.stage = .spawning id size found) ∨ ∃ reply, call.stage = .ended reply)
  | .write id _ | .resize id _ _ => call.took = none ∧
      (call.stage = .using id ∨ ∃ reply, call.stage = .ended reply)
  | .stop id | .reap id =>
      call.took = none ∧ call.stage = .ended call.request.refusal ∨
        call.took = some id ∧
          ((∃ place, call.stage = .finishing place) ∨ ∃ reply, call.stage = .ended reply)
  | .shutdown =>
      call.took = none ∧ call.stage = .ended .done ∨
        (∃ id, call.took = some id) ∧
          ((∃ place, call.stage = .finishing place) ∨ ∃ reply, call.stage = .ended reply)

theorem Proper.of_spawning {call : Call π} {id : String} {size : Option (UInt16 × UInt16)}
    {found : Slot π} (proper : call.Proper) (spawns : call.stage = .spawning id size found) :
    call.request = .spawn id size := by
  obtain ⟨request, took, stage⟩ := call
  cases request <;> simp_all [Proper]

/-- A call that starts a session uses and finishes none. -/
theorem Proper.of_spawned {call : Call π} {id : String} (proper : call.Proper)
    (spawned : call.request.spawned? = some id) :
    call.isSpawning = true ∨ ∃ reply, call.stage = .ended reply := by
  obtain ⟨request, took, stage⟩ := call
  cases request with
  | spawn other size =>
      obtain ⟨-, ⟨found, rfl⟩ | ended⟩ := proper
      · exact .inl rfl
      · exact .inr ended
  | write | resize | stop | reap | shutdown => cases spawned

theorem Proper.of_took {call : Call π} {id : String} (proper : call.Proper)
    (took : call.took = some id) :
    call.request = .stop id ∨ call.request = .reap id ∨ call.request = .shutdown := by
  obtain ⟨request, taken, stage⟩ := call
  cases request <;> simp_all [Proper]

theorem Proper.of_target {call : Call π} {id : String} (proper : call.Proper)
    (request : call.request = .stop id ∨ call.request = .reap id) :
    call.took = some id ∨ call.stage = .ended call.request.refusal := by
  obtain ⟨_, taken, stage⟩ := call
  obtain rfl | rfl := request <;>
    exact proper.elim (fun refused => .inr refused.2) fun took => .inl took.1

theorem Proper.answered {call : Call π} (proper : call.Proper)
    (goesOn : ∀ reply, call.stage ≠ .ended reply) (reply : Reply) :
    (call.answered reply).Proper := by
  obtain ⟨request, took, stage⟩ := call
  cases request <;> simp_all [Proper, Call.answered]

end Call

/-- Whether the slot is claimed. -/
def isClaimed (registry : Registry π) : Bool :=
  match registry.slot with
  | .starting _ => true
  | _ => false

theorem isClaimed_iff {registry : Registry π} :
    registry.isClaimed = true ↔ ∃ previous, registry.slot = .starting previous := by
  unfold isClaimed
  cases registry.slot <;> simp

/-- Who claims the slot finds no session in it. -/
theorem claim_ok {registry claimed : Registry π} (h : registry.claim = .ok claimed) :
    ∃ previous, registry.slot = .idle previous ∧
      claimed = { registry with slot := .starting previous } := by
  unfold claim at h
  split at h
  next slot => cases h; exact ⟨none, slot, rfl⟩
  next id slot => cases h; exact ⟨some id, slot, rfl⟩
  next => cases h
  next => cases h

theorem idle_vacant {registry : Registry π} {previous : Option String}
    (slot : registry.slot = .idle previous) :
    registry.isClaimed = false ∧ registry.activeId? = none := by
  unfold isClaimed activeId?
  rw [slot]
  cases previous <;> exact ⟨rfl, rfl⟩

/-- What a call took, no later call gets. -/
def Refuses (earlier later : Call π) : Prop :=
  ∀ id, earlier.took = some id → later.request.target? = some id →
    later.stage = .ended later.request.refusal

/-- Calls start sessions with different ids. -/
def Distinct (a b : Call π) : Prop :=
  ∀ id, a.request.spawned? = some id → b.request.spawned? ≠ some id

instance : Std.Symm (Distinct (π := π)) where
  symm _ _ distinct _ b a := distinct _ a b

/-- What holds of a registry and its calls at any time. -/
structure Consistent (shared : Shared π σ) : Prop where
  proper : ∀ call ∈ shared.calls, call.Proper
  spawning : shared.calls.countP Call.isSpawning = if shared.registry.isClaimed then 1 else 0
  /-- What a call has found is what giving the slot back restores. -/
  found : ∀ call ∈ shared.calls, ∀ {id size found}, call.stage = .spawning id size found →
    ∃ previous, shared.registry.slot = .starting previous ∧ found = .idle previous
  active : ∀ {id}, shared.registry.activeId? = some id →
    ∃ call ∈ shared.calls, call.started? = some id
  taken : ∀ call ∈ shared.calls, ∀ {id}, call.took = some id →
    ∃ starter ∈ shared.calls, starter.started? = some id
  once : ∀ call ∈ shared.calls, ∀ {id}, call.started? = some id →
    shared.calls.countP (Call.hasTaken id) = if shared.registry.activeId? = some id then 0 else 1
  later : shared.calls.Pairwise Refuses
  places : ∀ call ∈ shared.calls, ∀ {place}, call.stage = .finishing place →
    ∃ session, shared.retired[place]? = some session ∧ call.took = some session.pty.id

namespace Shared

variable {shared : Shared π σ} {call : Call π}

@[simp] theorem calls_put (session : RunningSession π) :
    (shared.put session).calls = shared.calls := by
  unfold put
  split <;> rfl

theorem mem_enter {other : Call π} :
    other ∈ (shared.enter call).calls ↔ other ∈ shared.calls ∨ other = call := by
  simp [enter]

theorem exists_enter {p : Call π → Prop} (old : ∃ other ∈ shared.calls, p other) :
    ∃ other ∈ (shared.enter call).calls, p other := by
  obtain ⟨other, member, holds⟩ := old
  exact ⟨other, mem_enter.mpr (.inl member), holds⟩

theorem countP_enter (p : Call π → Bool) :
    (shared.enter call).calls.countP p = shared.calls.countP p + if p call then 1 else 0 := by
  simp [enter, List.countP_append, List.countP_singleton]

theorem pairwise_enter {r : Call π → Call π → Prop} (old : shared.calls.Pairwise r)
    (new : ∀ earlier ∈ shared.calls, r earlier call) : (shared.enter call).calls.Pairwise r := by
  refine List.pairwise_append.mpr ⟨old, List.pairwise_singleton _ _, ?_⟩
  intro earlier member later same
  exact List.mem_singleton.mp same ▸ new earlier member

theorem mem_settle {n : Nat} {reply : Reply} {other : Call π}
    (member : other ∈ (shared.settle n call reply).calls) :
    other ∈ shared.calls ∨ other = call.answered reply :=
  List.mem_or_eq_of_mem_set member

section
variable {n : Nat} {reply : Reply} (found : shared.calls[n]? = some call)
include found

/-- Only this call changes. -/
theorem settle_split (reply : Reply) : ∃ front back, shared.calls = front ++ call :: back ∧
    (shared.settle n call reply).calls = front ++ call.answered reply :: back := by
  obtain ⟨inRange, rfl⟩ := List.getElem?_eq_some_iff.mp found
  refine ⟨shared.calls.take n, shared.calls.drop (n + 1), ?_, ?_⟩
  · rw [← List.drop_eq_getElem_cons inRange, List.take_append_drop]
  · simp [settle, List.set_eq_take_append_cons_drop, inRange]

theorem mem_settle_of_ne {other : Call π} (member : other ∈ shared.calls) (differs : other ≠ call) :
    other ∈ (shared.settle n call reply).calls := by
  obtain ⟨front, back, before, after⟩ := settle_split found reply
  rw [before] at member
  rw [after]
  simp only [List.mem_append, List.mem_cons] at member ⊢
  tauto

theorem answered_mem_settle (reply : Reply) :
    call.answered reply ∈ (shared.settle n call reply).calls := by
  obtain ⟨front, back, -, after⟩ := settle_split found reply
  rw [after]
  exact List.mem_append_right _ List.mem_cons_self

theorem countP_settle (p : Call π → Bool) :
    (shared.settle n call reply).calls.countP p + (if p call then 1 else 0) =
      shared.calls.countP p + if p (call.answered reply) then 1 else 0 := by
  obtain ⟨front, back, before, after⟩ := settle_split found reply
  rw [before, after]
  simp only [List.countP_append, List.countP_cons]
  omega

/-- A call that was not refused at once is not one that must be. -/
theorem later_settle (later : shared.calls.Pairwise Refuses)
    (goesOn : ∀ reply, call.stage ≠ .ended reply) :
    (shared.settle n call reply).calls.Pairwise Refuses := by
  obtain ⟨front, back, before, after⟩ := settle_split found reply
  rw [before, List.pairwise_append, List.pairwise_cons] at later
  rw [after, List.pairwise_append, List.pairwise_cons]
  obtain ⟨inFront, ⟨toBack, inBack⟩, across⟩ := later
  refine ⟨inFront, ⟨toBack, inBack⟩, fun earlier first other second => ?_⟩
  obtain rfl | second := List.mem_cons.mp second
  · intro id took aimed
    exact absurd (across earlier first call List.mem_cons_self id took aimed) (goesOn _)
  · exact across earlier first other (List.mem_cons_of_mem _ second)

end

end Shared

namespace Consistent

variable {shared : Shared π σ}

/-- Nobody has taken the session that is in the slot. -/
theorem not_taken (h : Consistent shared) {id : String}
    (active : shared.registry.activeId? = some id) :
    ∀ call ∈ shared.calls, call.took ≠ some id := by
  obtain ⟨starter, member, started⟩ := h.active active
  have none_took := h.once starter member started
  rw [if_pos active, List.countP_eq_zero] at none_took
  intro call member took
  exact none_took call member (decide_eq_true took)

/-- Nobody starts a session unless the slot is claimed. -/
theorem vacant (h : Consistent shared) (notClaimed : shared.registry.isClaimed = false) :
    shared.calls.countP Call.isSpawning = 0 ∧
      ∀ call ∈ shared.calls, ∀ id size found, call.stage ≠ .spawning id size found := by
  have nobody := h.spawning
  rw [notClaimed, if_neg Bool.false_ne_true] at nobody
  refine ⟨nobody, fun call member id size found spawns => ?_⟩
  exact List.countP_eq_zero.mp nobody call member (by simp [Call.isSpawning, spawns])

/-- Only what is said of the slot and of the ids of sessions matters. -/
theorem alike (h : Consistent shared) {registry : Registry π} {s : σ}
    {retired : List (RunningSession π)}
    (claimed : ∀ previous, registry.slot = .starting previous ↔
      shared.registry.slot = .starting previous)
    (active : registry.activeId? = shared.registry.activeId?)
    (places : ∀ {place : Nat} {session : RunningSession π}, shared.retired[place]? = some session →
      ∃ session', retired[place]? = some session' ∧ session'.pty.id = session.pty.id) :
    Consistent ⟨registry, s, retired, shared.calls⟩ where
  proper := h.proper
  spawning := by
    have same : registry.isClaimed = shared.registry.isClaimed := by
      rw [Bool.eq_iff_iff, isClaimed_iff, isClaimed_iff]
      simp only [claimed]
    rw [same]
    exact h.spawning
  found call member _ _ _ stage := by
    obtain ⟨previous, slot, found⟩ := h.found call member stage
    exact ⟨previous, (claimed previous).mpr slot, found⟩
  active isActive := h.active (active ▸ isActive)
  taken := h.taken
  once call member _ started := by
    rw [active]
    exact h.once call member started
  later := h.later
  places call member _ finishing := by
    obtain ⟨session, found, took⟩ := h.places call member finishing
    obtain ⟨session', found', same⟩ := places found
    exact ⟨session', found', same ▸ took⟩

/-! ## First steps -/

/-- A call comes that takes nothing. -/
theorem enter (h : Consistent shared) {call : Call π} (proper : call.Proper)
    (tookNot : call.took = none) (startedNot : call.started? = none)
    (stage : (∃ reply, call.stage = .ended reply) ∨ ∃ id, call.stage = .using id)
    (refused : ∀ earlier ∈ shared.calls, Refuses earlier call) :
    Consistent (shared.enter call) := by
  have notSpawning : call.isSpawning = false := by
    obtain ⟨reply, stage⟩ | ⟨id, stage⟩ := stage <;> simp [Call.isSpawning, stage]
  constructor
  case proper =>
    intro other member
    obtain member | rfl := Shared.mem_enter.mp member
    · exact h.proper other member
    · exact proper
  case spawning =>
    rw [Shared.countP_enter, notSpawning]
    exact h.spawning
  case found =>
    intro other member id size found spawns
    obtain member | rfl := Shared.mem_enter.mp member
    · exact h.found other member spawns
    · simp [Call.isSpawning, spawns] at notSpawning
  case active => exact fun isActive => Shared.exists_enter (h.active isActive)
  case taken =>
    intro other member id took
    obtain member | rfl := Shared.mem_enter.mp member
    · exact Shared.exists_enter (h.taken other member took)
    · simp [tookNot] at took
  case once =>
    intro other member id started
    obtain member | rfl := Shared.mem_enter.mp member
    · rw [Shared.countP_enter, Call.hasTaken, tookNot]
      exact h.once other member started
    · simp [startedNot] at started
  case later => exact Shared.pairwise_enter h.later refused
  case places =>
    intro other member place finishing
    obtain member | rfl := Shared.mem_enter.mp member
    · exact h.places other member finishing
    · obtain ⟨reply, stage⟩ | ⟨id, stage⟩ := stage <;> simp [stage] at finishing

theorem claim (h : Consistent shared) {registry : Registry π}
    (claimed : shared.registry.claim = .ok registry) (id : String)
    (size : Option (UInt16 × UInt16)) :
    Consistent ({ shared with registry }.enter
      ⟨.spawn id size, none, .spawning id size shared.registry.slot⟩) := by
  obtain ⟨previous, slot, rfl⟩ := claim_ok claimed
  obtain ⟨notClaimed, inactive⟩ := idle_vacant slot
  obtain ⟨nobody, spawnsNot⟩ := h.vacant notClaimed
  constructor
  case proper =>
    intro other member
    obtain member | rfl := Shared.mem_enter.mp member
    · exact h.proper other member
    · exact ⟨rfl, .inl ⟨_, rfl⟩⟩
  case spawning =>
    rw [Shared.countP_enter, nobody]
    rfl
  case found =>
    intro other member id size found spawns
    obtain member | rfl := Shared.mem_enter.mp member
    · exact absurd spawns (spawnsNot other member _ _ _)
    · cases spawns
      exact ⟨previous, rfl, slot⟩
  case active => intro id isActive; cases isActive
  case taken =>
    intro other member id took
    obtain member | rfl := Shared.mem_enter.mp member
    · exact Shared.exists_enter (h.taken other member took)
    · cases took
  case once =>
    intro other member id started
    obtain member | rfl := Shared.mem_enter.mp member
    · have once := h.once other member started
      rw [inactive] at once
      rw [Shared.countP_enter]
      exact once
    · cases started
  case later => exact Shared.pairwise_enter h.later fun _ _ _ _ aimed => by cases aimed
  case places =>
    intro other member place finishing
    obtain member | rfl := Shared.mem_enter.mp member
    · exact h.places other member finishing
    · cases finishing

/-- A call takes the session out of the slot. -/
theorem take (h : Consistent shared) {request : Request} {session : RunningSession π}
    (slot : shared.registry.slot = .running session)
    (proper : ∀ place, Call.Proper
      (⟨request, some session.pty.id, .finishing place⟩ : Call π))
    (aim : ∀ id, request.target? = some id → id = session.pty.id) :
    Consistent (shared.take request (some session)) := by
  have active : shared.registry.activeId? = some session.pty.id := by
    simp only [activeId?, slot, Slot.running?, Option.map_some]
  have notClaimed : shared.registry.isClaimed = false := by
    simp only [isClaimed, slot]
  obtain ⟨nobody, spawnsNot⟩ := h.vacant notClaimed
  unfold Shared.take
  constructor
  case proper =>
    intro other member
    obtain member | rfl := Shared.mem_enter.mp member
    · exact h.proper other member
    · exact proper _
  case spawning =>
    rw [Shared.countP_enter, nobody]
    rfl
  case found =>
    intro other member id size found spawns
    obtain member | rfl := Shared.mem_enter.mp member
    · exact absurd spawns (spawnsNot other member _ _ _)
    · cases spawns
  case active => intro id isActive; cases isActive
  case taken =>
    intro other member id took
    obtain member | rfl := Shared.mem_enter.mp member
    · exact Shared.exists_enter (h.taken other member took)
    · cases took
      exact Shared.exists_enter (h.active active)
  case once =>
    intro other member id started
    obtain member | rfl := Shared.mem_enter.mp member
    · have once := h.once other member started
      rw [active] at once
      -- This call counts for the session from the step on at which the slot no longer does.
      rw [Shared.countP_enter, once, Call.hasTaken]
      by_cases same : session.pty.id = id <;>
        simp [same, activeId?, retire, Slot.running?, Shared.enter]
    · cases started
  case later =>
    -- Had an earlier call taken the session, it would not be in the slot.
    refine Shared.pairwise_enter h.later fun earlier member id took aimed => ?_
    exact absurd (aim id aimed ▸ took) (h.not_taken active earlier member)
  case places =>
    intro other member place finishing
    obtain member | rfl := Shared.mem_enter.mp member
    · obtain ⟨before, found, took⟩ := h.places other member finishing
      have inRange := (List.getElem?_eq_some_iff.mp found).1
      exact ⟨before, (List.getElem?_append_left inRange).trans found, took⟩
    · cases finishing
      exact ⟨session, List.getElem?_concat_length, rfl⟩

/-! ## Second steps -/

/-- The id that a call starts a session with is in its request. -/
theorem spawned_of_started {call : Call π} {id : String} (started : call.started? = some id) :
    call.request.spawned? = some id ∧ call.stage = .ended .done := by
  unfold Call.started? at started
  split at started
  next ended => exact ⟨started, ended⟩
  next => cases started

/-- A call ends, and the slot may change with it. -/
theorem settle (h : Consistent shared) {n : Nat} {call : Call π} (reply : Reply)
    (found : shared.calls[n]? = some call) (goesOn : ∀ reply, call.stage ≠ .ended reply)
    {registry : Registry π} {s : σ}
    (slot : registry.slot = shared.registry.slot ∧ call.isSpawning = false ∨
      registry.isClaimed = false ∧ call.isSpawning = true)
    (active : ∀ {id}, registry.activeId? = some id → shared.registry.activeId? = some id ∨
      (call.answered reply).started? = some id)
    (once : ∀ {id}, (call.answered reply).started? = some id ∨
      (∃ other ∈ shared.calls, other.started? = some id) →
        shared.calls.countP (Call.hasTaken id) =
          if registry.activeId? = some id then 0 else 1) :
    Consistent ({ shared with registry, store := s }.settle n call reply) := by
  have member := List.mem_of_getElem? found
  have differs {other : Call π} {id : String} (started : other.started? = some id) :
      other ≠ call := fun same => goesOn _ (same ▸ (spawned_of_started started).2)
  have still {id : String} (old : ∃ other ∈ shared.calls, other.started? = some id) :
      ∃ other ∈ (shared.settle n call reply).calls, other.started? = some id := by
    obtain ⟨other, member, started⟩ := old
    exact ⟨other, Shared.mem_settle_of_ne found member (differs started), started⟩
  have spawning : (shared.settle n call reply).calls.countP Call.isSpawning =
      if registry.isClaimed then 1 else 0 := by
    have change : (shared.settle n call reply).calls.countP Call.isSpawning +
        (if call.isSpawning then 1 else 0) = shared.calls.countP Call.isSpawning :=
      Shared.countP_settle found Call.isSpawning
    have before := h.spawning
    obtain ⟨same, spawnsNot⟩ | ⟨notClaimed, spawns⟩ := slot
    · have claimed : registry.isClaimed = shared.registry.isClaimed := by
        simp only [isClaimed, same]
      rw [claimed]
      simpa [spawnsNot, before] using change
    · rw [spawns, if_pos rfl, before] at change
      rw [notClaimed, if_neg Bool.false_ne_true]
      split at change <;> omega
  constructor
  case proper =>
    intro other now
    obtain before | rfl := Shared.mem_settle now
    · exact h.proper other before
    · exact (h.proper call member).answered goesOn reply
  case spawning => exact spawning
  case found =>
    intro other now id size kept spawns
    obtain before | rfl := Shared.mem_settle now
    · obtain ⟨same, -⟩ | ⟨notClaimed, -⟩ := slot
      · obtain ⟨previous, slot, kept⟩ := h.found other before spawns
        exact ⟨previous, same.trans slot, kept⟩
      · -- The slot is given up by the one call that was spawning, so no other is.
        rw [notClaimed, if_neg Bool.false_ne_true] at spawning
        exact absurd (List.countP_eq_zero.mp spawning other now) (by simp [Call.isSpawning, spawns])
    · cases spawns
  case active =>
    intro id isActive
    obtain before | starts := active isActive
    · exact still (h.active before)
    · exact ⟨_, Shared.answered_mem_settle found reply, starts⟩
  case taken =>
    intro other now id took
    obtain before | rfl := Shared.mem_settle now
    · exact still (h.taken other before took)
    · exact still (h.taken call member took)
  case once =>
    intro other now id started
    have change : (shared.settle n call reply).calls.countP (Call.hasTaken id) =
        shared.calls.countP (Call.hasTaken id) :=
      Nat.add_right_cancel (Shared.countP_settle found (Call.hasTaken id))
    refine change.trans (once ?_)
    obtain before | rfl := Shared.mem_settle now
    · exact .inr ⟨other, before, started⟩
    · exact .inl started
  case later => exact Shared.later_settle found h.later goesOn
  case places =>
    intro other now place finishing
    obtain before | rfl := Shared.mem_settle now
    · exact h.places other before finishing
    · cases finishing

/-- A call that has used or finished a session ends. -/
theorem leave (h : Consistent shared) {n : Nat} {call : Call π} (reply : Reply)
    (found : shared.calls[n]? = some call)
    (stage : (∃ id, call.stage = .using id) ∨ ∃ place, call.stage = .finishing place) :
    Consistent (shared.settle n call reply) := by
  have member := List.mem_of_getElem? found
  have spawnsNot : call.isSpawning = false := by
    obtain ⟨id, stage⟩ | ⟨place, stage⟩ := stage <;> simp [Call.isSpawning, stage]
  have goesOn (reply : Reply) : call.stage ≠ .ended reply := by
    obtain ⟨id, stage⟩ | ⟨place, stage⟩ := stage <;> simp [stage]
  have startsNot (id : String) : (call.answered reply).started? ≠ some id := by
    intro started
    obtain spawns | ⟨reply, ended⟩ :=
      (h.proper call member).of_spawned (spawned_of_started started).1
    · simp [spawnsNot] at spawns
    · exact goesOn reply ended
  refine h.settle reply found goesOn (.inl ⟨rfl, spawnsNot⟩) .inl ?_
  · intro id starts
    obtain starts | ⟨other, member, started⟩ := starts
    · exact absurd starts (startsNot id)
    · exact h.once other member started

theorem abandon (h : Consistent shared) {n : Nat} {call : Call π} {id : String}
    {size : Option (UInt16 × UInt16)} {slot : Slot π} (error : SessionError)
    (found : shared.calls[n]? = some call) (spawns : call.stage = .spawning id size slot) :
    Consistent
      ({ shared with registry := shared.registry.abandon }.settle n call (.failed error)) := by
  obtain ⟨previous, claimed, -⟩ := h.found call (List.mem_of_getElem? found) spawns
  have slot : shared.registry.abandon.slot = .idle previous := by
    simp only [Registry.abandon, claimed]
  obtain ⟨notClaimed, inactive⟩ := idle_vacant slot
  have inactiveBefore : shared.registry.activeId? = none := by
    simp only [activeId?, claimed]
    rfl
  refine h.settle _ found (by simp [spawns]) (.inr ⟨notClaimed, by simp [Call.isSpawning, spawns]⟩)
    (fun isActive => by simp [inactive] at isActive) ?_
  rintro id (starts | ⟨other, member, started⟩)
  · cases starts
  · have once := h.once other member started
    rw [inactiveBefore] at once
    rw [inactive]
    exact once

theorem fill (h : Consistent shared) (store : RecordingStore σ) {n : Nat} {call : Call π}
    {id : String} {size : Option (UInt16 × UInt16)} {slot : Slot π} {pty : PtySession π}
    (fresh : shared.calls.Pairwise Distinct)
    (found : shared.calls[n]? = some call) (spawns : call.stage = .spawning id size slot)
    (spawned : call.request.spawned? = some pty.id) :
    Consistent ({ shared with
      registry := (shared.registry.fill store pty shared.store).1
      store := (shared.registry.fill store pty shared.store).2 }.settle n call .done) := by
  have member := List.mem_of_getElem? found
  obtain ⟨previous, claimed, -⟩ := h.found call member spawns
  have goesOn (reply : Reply) : call.stage ≠ .ended reply := by simp [spawns]
  have inactiveBefore : shared.registry.activeId? = none := by
    simp only [activeId?, claimed]
    rfl
  have active : (shared.registry.fill store pty shared.store).1.activeId? = some pty.id := by
    simp only [Registry.fill, activeId?, Slot.running?, Option.map_some, RunningSession.start_id]
  have others {other : Call π} {id : String} (started : other ∈ shared.calls ∧
      other.started? = some id) : id ≠ pty.id := by
    rintro rfl
    obtain ⟨spawnedToo, ended⟩ := spawned_of_started started.2
    have differs : other ≠ call := fun same => goesOn _ (same ▸ ended)
    have distinct := fresh.forall started.1 member differs
    exact distinct _ spawnedToo spawned
  refine h.settle _ found goesOn (.inr ⟨rfl, by simp [Call.isSpawning, spawns]⟩) ?_ ?_
  · intro id isActive
    rw [active] at isActive
    exact .inr (spawned.trans isActive)
  · rintro id (starts | ⟨other, member, started⟩)
    · obtain rfl : pty.id = id := Option.some.inj (spawned.symm.trans starts)
      rw [active, if_pos rfl, List.countP_eq_zero]
      intro taker member took
      -- What was taken was started, and nobody else starts a session with this id.
      obtain ⟨starter, member, started⟩ := h.taken taker member (of_decide_eq_true took)
      exact others ⟨member, started⟩ rfl
    · have once := h.once other member started
      rw [inactiveBefore] at once
      rw [active, if_neg (by simpa using (others ⟨member, started⟩).symm)]
      exact once

/-! ## All steps -/

theorem put (h : Consistent shared) (session : RunningSession π) :
    Consistent (shared.put session) := by
  unfold Shared.put
  split
  next current found =>
    obtain ⟨slot, same⟩ := find?_eq_some.mp found
    refine h.alike (fun previous => by simp [slot]) ?_ fun {_ other} found => ⟨other, found, rfl⟩
    simp only [activeId?, slot, Slot.running?, Option.map_some, same]
  next =>
    refine h.alike (fun _ => Iff.rfl) rfl fun {place other} found => ?_
    rw [List.getElem?_map, found]
    refine ⟨_, rfl, ?_⟩
    dsimp only
    split
    next same => exact same.symm
    next => rfl

/-- A call is refused at once. -/
theorem refuse (h : Consistent shared) {request : Request} {reply : Reply}
    (proper : Call.Proper (⟨request, none, .ended reply⟩ : Call π))
    (startedNot : Call.started? (⟨request, none, .ended reply⟩ : Call π) = none)
    (refusal : request.target? = none ∨ reply = request.refusal) :
    Consistent (shared.refuse request reply) := by
  refine h.enter proper rfl startedNot (.inl ⟨reply, rfl⟩) fun earlier _ id _ aimed => ?_
  obtain aimless | same := refusal
  · simp [aimless] at aimed
  · rw [same]

theorem visit (h : Consistent shared) {request : Request} {id : String}
    (proper : ∀ stage, (stage = .using id ∨ ∃ reply, stage = .ended reply) →
      Call.Proper (⟨request, none, stage⟩ : Call π))
    (aim : request.target? = some id) (refusal : request.refusal = .failed (.notFound id)) :
    Consistent (shared.visit request id) := by
  unfold Shared.visit
  cases found : shared.registry.lookup id with
  | error error =>
      refine h.refuse (proper _ (.inr ⟨_, rfl⟩)) rfl (.inr ?_)
      rw [refusal, lookup_error found]
  | ok session =>
      obtain ⟨slot, same⟩ := find?_eq_some.mp (lookup_ok found)
      have active : shared.registry.activeId? = some id := by
        simp only [activeId?, slot, Slot.running?, Option.map_some, same]
      refine h.enter (proper _ (.inl rfl)) rfl rfl (.inr ⟨id, rfl⟩) ?_
      intro earlier member other took aimed
      obtain rfl := Option.some.inj (aim.symm.trans aimed)
      exact absurd took (h.not_taken active earlier member)

theorem begin (h : Consistent shared) (request : Request) : Consistent (shared.begin request) := by
  cases request with
  | spawn id size =>
      simp only [Shared.begin]
      split
      next error _ => exact h.refuse ⟨rfl, .inr ⟨_, rfl⟩⟩ rfl (.inl rfl)
      next registry claimed => exact h.claim claimed id size
  | write id data => exact h.visit (fun _ stage => ⟨rfl, stage⟩) rfl rfl
  | resize id cols rows => exact h.visit (fun _ stage => ⟨rfl, stage⟩) rfl rfl
  | stop id =>
      simp only [Shared.begin]
      cases found : shared.registry.stoppable? id with
      | none => exact h.refuse (.inl ⟨rfl, rfl⟩) rfl (.inr rfl)
      | some session =>
          obtain ⟨slot, same⟩ := find?_eq_some.mp found
          refine h.take slot (fun place => .inr ⟨?_, .inl ⟨place, rfl⟩⟩) fun other aimed => ?_
          · rw [same]
          · exact (Option.some.inj aimed).symm.trans same.symm
  | reap id =>
      simp only [Shared.begin]
      cases found : shared.registry.reapable? id with
      | none => exact h.refuse (.inl ⟨rfl, rfl⟩) rfl (.inr rfl)
      | some session =>
          obtain ⟨slot, same⟩ := find?_eq_some.mp (Option.filter_eq_some_iff.mp found).1
          refine h.take slot (fun place => .inr ⟨?_, .inl ⟨place, rfl⟩⟩) fun other aimed => ?_
          · rw [same]
          · exact (Option.some.inj aimed).symm.trans same.symm
  | shutdown =>
      simp only [Shared.begin]
      cases found : shared.registry.slot.running? with
      | none => exact h.refuse (.inl ⟨rfl, rfl⟩) rfl (.inl rfl)
      | some session =>
          exact h.take (running?_eq_some.mp found)
            (fun place => .inr ⟨⟨_, rfl⟩, .inl ⟨place, rfl⟩⟩) fun _ aimed => by cases aimed

theorem resume (h : Consistent shared) (host : Host π) (store : RecordingStore σ)
    (fresh : shared.calls.Pairwise Distinct) (n : Nat) :
    Consistent (shared.resume store host n) := by
  unfold Shared.resume
  split
  next => exact h
  next call found =>
    have proper := h.proper call (List.mem_of_getElem? found)
    split
    next id size slot spawns =>
      split
      next error failed => exact h.abandon error found spawns
      next pty started =>
        refine h.fill store fresh found spawns ?_
        rw [(PtySession.start_fresh started).1, proper.of_spawning spawns]
        rfl
    next id stage =>
      split
      next => exact h
      next session _ =>
        have used := h.put { session with pty := (call.request.operate host session.pty).2 }
        exact used.leave _ (by rwa [Shared.calls_put]) (.inl ⟨id, stage⟩)
    next place stage =>
      split
      next => exact h
      next session retired =>
        have id := session.finish_id host store shared.store
        split
        next => exact h
        next result _ after s finish =>
          rw [finish] at id
          have finished : Consistent ⟨shared.registry, s, shared.retired.set place after,
              shared.calls⟩ := by
            refine h.alike (fun _ => Iff.rfl) rfl fun {other before} found => ?_
            rw [List.getElem?_set]
            split
            next same =>
              subst same
              obtain rfl := Option.some.inj (retired.symm.trans found)
              rw [if_pos (List.getElem?_eq_some_iff.mp found).1]
              exact ⟨_, rfl, id⟩
            next => exact ⟨before, found, rfl⟩
          exact finished.leave _ found (.inr ⟨place, stage⟩)
    next => exact h

theorem step (h : Consistent shared) (store : RecordingStore σ)
    (fresh : shared.calls.Pairwise Distinct) (action : Action π σ) :
    Consistent (shared.step store action) := by
  cases action with
  | begin request => exact h.begin request
  | resume n host => exact h.resume host store fresh n
  | progress session => exact h.put session
  | useStore s => exact h.alike (fun _ => Iff.rfl) rfl fun {_ other} found => ⟨other, found, rfl⟩

end Consistent

/-! ## Runs -/

section
variable {store : RecordingStore σ} {shared : Shared π σ}

/-- What a call finds when it begins to start a session is the slot as it is. -/
theorem Shared.calls_begin (shared : Shared π σ) (request : Request) :
    ∃ call : Call π, (shared.begin request).calls = shared.calls ++ [call] ∧
      call.request = request ∧ ∀ {id size found}, call.stage = .spawning id size found →
        request = .spawn id size ∧ found = shared.registry.slot := by
  have visit (id : String) : ∃ call : Call π, (shared.visit request id).calls =
      shared.calls ++ [call] ∧ call.request = request ∧
        ∀ id size found, call.stage ≠ .spawning id size found := by
    unfold Shared.visit
    split <;> exact ⟨_, rfl, rfl, by simp⟩
  have take (session? : Option (RunningSession π)) : ∃ call : Call π,
      (shared.take request session?).calls = shared.calls ++ [call] ∧ call.request = request ∧
        ∀ id size found, call.stage ≠ .spawning id size found := by
    unfold Shared.take
    split <;> exact ⟨_, rfl, rfl, by simp⟩
  cases request with
  | spawn id size =>
      simp only [begin]
      split
      next => exact ⟨_, rfl, rfl, by simp⟩
      next => exact ⟨_, rfl, rfl, fun spawns => by cases spawns; exact ⟨rfl, rfl⟩⟩
  | write id data =>
      obtain ⟨call, calls, same, spawnsNot⟩ := visit id
      exact ⟨call, calls, same, fun spawns => absurd spawns (spawnsNot _ _ _)⟩
  | resize id cols rows =>
      obtain ⟨call, calls, same, spawnsNot⟩ := visit id
      exact ⟨call, calls, same, fun spawns => absurd spawns (spawnsNot _ _ _)⟩
  | stop id | reap id | shutdown =>
      obtain ⟨call, calls, same, spawnsNot⟩ := take _
      exact ⟨call, calls, same, fun spawns => absurd spawns (spawnsNot _ _ _)⟩

theorem Shared.calls_resume (shared : Shared π σ) (store : RecordingStore σ) (host : Host π)
    (n : Nat) :
    (shared.resume store host n).calls = shared.calls ∨
      ∃ call reply, shared.calls[n]? = some call ∧
        (shared.resume store host n).calls = shared.calls.set n (call.answered reply) := by
  unfold Shared.resume
  split
  next => exact .inl rfl
  next call found =>
    split
    next => split <;> exact .inr ⟨call, _, found, rfl⟩
    next =>
      split
      next => exact .inl rfl
      next session _ =>
        have kept : (shared.put { session with
            pty := (call.request.operate host session.pty).2 }).calls = shared.calls := calls_put _
        exact .inr ⟨call, _, found, congrArg (List.set · n _) kept⟩
    next =>
      split
      next => exact .inl rfl
      next =>
        split
        next => exact .inl rfl
        next => exact .inr ⟨call, _, found, rfl⟩
    next => exact .inl rfl

/-- A call is added by each action that begins one, and by no other. -/
theorem Shared.requests_step (action : Action π σ) :
    (shared.step store action).calls.map Call.request =
      shared.calls.map Call.request ++ action.request?.toList := by
  cases action with
  | begin request =>
      obtain ⟨call, calls, same, -⟩ := shared.calls_begin request
      simp [step, calls, same, Action.request?]
  | resume n host =>
      simp only [step, Action.request?, Option.toList_none, List.append_nil]
      obtain same | ⟨call, reply, found, calls⟩ := shared.calls_resume store host n
      · rw [same]
      · obtain ⟨front, back, before, after⟩ := settle_split found reply
        rw [calls, show shared.calls.set n (call.answered reply) = _ from after, before]
        simp [Call.answered]
  | progress session => simp [step, Action.request?]
  | useStore s => simp [step, Action.request?]

theorem Shared.requests_run (store : RecordingStore σ) (spec : ShellSpec)
    (recording : Option RecorderSettings) (s : σ) (actions : List (Action π σ)) :
    (Shared.run store spec recording s actions).calls.map Call.request =
      actions.filterMap Action.request? := by
  induction actions using List.reverseRecOn with
  | nil => rfl
  | append_singleton actions action ih =>
      rw [run, List.foldl_append, List.foldl_cons, List.foldl_nil, requests_step, ← run, ih,
        List.filterMap_append]
      cases action <;> rfl

theorem Shared.run_append (spec : ShellSpec) (recording : Option RecorderSettings) (s : σ)
    (actions : List (Action π σ)) (action : Action π σ) :
    run store spec recording s (actions ++ [action]) =
      (run store spec recording s actions).step store action := by
  simp [run]

/-- If actions start sessions with different ids, calls do. -/
theorem Shared.distinct_run (spec : ShellSpec) (recording : Option RecorderSettings) (s : σ)
    {actions : List (Action π σ)} (fresh : (actions.filterMap Action.spawned?).Nodup) :
    (run store spec recording s actions).calls.Pairwise Distinct := by
  have ids :
      (run store spec recording s actions).calls.filterMap (fun call => call.request.spawned?) =
        actions.filterMap Action.spawned? := by
    have requests := congrArg (List.filterMap Request.spawned?)
      (requests_run store spec recording s actions)
    rwa [List.filterMap_map, List.filterMap_filterMap] at requests
  rw [← ids] at fresh
  refine (List.pairwise_filterMap.mp fresh).imp fun {a b} differs id spawnsA spawnsB => ?_
  exact differs id spawnsA id spawnsB rfl

theorem consistent_start (spec : ShellSpec) (recording : Option RecorderSettings) (s : σ) :
    Consistent (⟨.new spec recording, s, [], []⟩ : Shared π σ) where
  proper _ member := absurd member List.not_mem_nil
  spawning := rfl
  found _ member := absurd member List.not_mem_nil
  active isActive := by cases isActive
  taken _ member := absurd member List.not_mem_nil
  once _ member := absurd member List.not_mem_nil
  later := .nil
  places _ member := absurd member List.not_mem_nil

theorem run_consistent (store : RecordingStore σ) (spec : ShellSpec)
    (recording : Option RecorderSettings) (s : σ) {actions : List (Action π σ)}
    (fresh : (actions.filterMap Action.spawned?).Nodup) :
    Consistent (Shared.run store spec recording s actions) := by
  induction actions using List.reverseRecOn with
  | nil => exact consistent_start spec recording s
  | append_singleton actions action ih =>
      rw [List.filterMap_append] at fresh
      have before := fresh.sublist (List.sublist_append_left _ _)
      rw [Shared.run_append]
      exact (ih before).step store (Shared.distinct_run spec recording s before) action

/-- A call that starts a session was begun as one, or is just begun. -/
theorem Shared.spawning_step {action : Action π σ} {n : Nat} {call : Call π} {id : String}
    {size : Option (UInt16 × UInt16)} {slot : Slot π}
    (found : (shared.step store action).calls[n]? = some call)
    (spawns : call.stage = .spawning id size slot) :
    shared.calls[n]? = some call ∨
      action = .begin (.spawn id size) ∧ n = shared.calls.length ∧ slot = shared.registry.slot := by
  cases action with
  | begin request =>
      obtain ⟨new, calls, -, starts⟩ := shared.calls_begin request
      rw [step, calls, List.getElem?_append] at found
      split at found
      next => exact .inl found
      next late =>
        have here : n - shared.calls.length = 0 := by
          have := (List.getElem?_eq_some_iff.mp found).1
          simp only [List.length_singleton] at this
          omega
        rw [here] at found
        obtain rfl : new = call := Option.some.inj found
        obtain ⟨rfl, slot⟩ := starts spawns
        exact .inr ⟨rfl, by omega, slot⟩
  | resume m host =>
      obtain same | ⟨other, reply, -, calls⟩ := shared.calls_resume store host m
      · exact .inl (by rwa [step, same] at found)
      · rw [step, calls, List.getElem?_set] at found
        split at found
        next =>
          split at found
          next =>
            cases found
            cases spawns
          next => cases found
        next => exact .inl found
  | progress session => exact .inl (by simpa [step] using found)
  | useStore s => exact .inl found

/-- A call that starts a session has found the slot as it was when the call began. -/
theorem Shared.spawning_run (spec : ShellSpec) (recording : Option RecorderSettings) (s : σ)
    {actions : List (Action π σ)} {n : Nat} {call : Call π} {id : String}
    {size : Option (UInt16 × UInt16)} {slot : Slot π}
    (found : (run store spec recording s actions).calls[n]? = some call)
    (spawns : call.stage = .spawning id size slot) :
    ∃ before after, actions = before ++ .begin (.spawn id size) :: after ∧
      (run store spec recording s before).calls.length = n ∧
      (run store spec recording s before).registry.slot = slot := by
  induction actions using List.reverseRecOn with
  | nil => cases found
  | append_singleton actions action ih =>
      rw [run_append] at found
      obtain earlier | ⟨rfl, rfl, rfl⟩ := spawning_step found spawns
      · obtain ⟨before, after, rfl, length, slot⟩ := ih earlier
        exact ⟨before, after ++ [action], by simp, length, slot⟩
      · exact ⟨actions, [], rfl, rfl, rfl⟩

end

/-! ## What callers can rely on -/

structure Orderly (store : RecordingStore σ) (shared : Shared π σ) : Prop where
  /-- One call starts a session while the slot is claimed, and otherwise none does. -/
  oneSpawn : shared.calls.countP Call.isSpawning = if shared.registry.isClaimed then 1 else 0
  busy : ∀ id size, shared.registry.isClaimed ∨ shared.registry.activeId?.isSome →
    shared.begin (.spawn id size) = shared.refuse (.spawn id size) (.failed .alreadyRunning)
  /-- If the shell does not start, the slot is again what the call has found. -/
  restores : ∀ {n call id size slot}, shared.calls[n]? = some call →
    call.stage = .spawning id size slot →
      (slot = .absent ∨ ∃ last, slot = .stopped last) ∧
      ∀ host error, PtySession.start host id (shared.registry.specOf size) = .error error →
        shared.resume store host n =
          { shared with registry := { shared.registry with slot } }.settle n call (.failed error)
  /-- A session that was started is in the slot, or one call has taken it. -/
  retires : ∀ call ∈ shared.calls, ∀ id, call.started? = some id →
    shared.calls.countP (Call.hasTaken id) = if shared.registry.activeId? = some id then 0 else 1
  takers : ∀ call ∈ shared.calls, ∀ id, call.took = some id →
    (call.request = .stop id ∨ call.request = .reap id ∨ call.request = .shutdown) ∧
      ∃ starter ∈ shared.calls, starter.started? = some id
  finishers : ∀ call ∈ shared.calls, ∀ place, call.stage = .finishing place →
    ∃ session, shared.retired[place]? = some session ∧ call.took = some session.pty.id
  /-- All others that are to stop or reap a session are refused. -/
  others : ∀ call ∈ shared.calls, ∀ id, call.request = .stop id ∨ call.request = .reap id →
    call.took = some id ∨ call.stage = .ended call.request.refusal
  /-- So is whoever comes for a session after it was taken. -/
  later : shared.calls.Pairwise Refuses

theorem Consistent.orderly {shared : Shared π σ} (h : Consistent shared)
    (store : RecordingStore σ) : Orderly store shared := by
  constructor
  case oneSpawn => exact h.spawning
  case busy =>
    intro id size taken
    have refused : shared.registry.claim = .error .alreadyRunning := by
      unfold Registry.claim
      unfold isClaimed activeId? at taken
      cases slot : shared.registry.slot with
      | absent | stopped => simp [slot, Slot.running?] at taken
      | starting | running => rfl
    simp only [Shared.begin, refused]
  case restores =>
    intro n call id size slot found spawns
    obtain ⟨previous, claimed, rfl⟩ := h.found call (List.mem_of_getElem? found) spawns
    constructor
    · cases previous with
      | none => exact .inl rfl
      | some last => exact .inr ⟨last, rfl⟩
    · intro host error failed
      simp only [Shared.resume, found, spawns, failed, Registry.abandon, claimed]
  case retires => exact fun call member id started => h.once call member started
  case takers =>
    intro call member id took
    exact ⟨(h.proper call member).of_took took, h.taken call member took⟩
  case finishers => exact fun call member place finishing => h.places call member finishing
  case others => exact fun call member id request => (h.proper call member).of_target request
  case later => exact h.later

/-- However calls and sessions take turns, each session is retired once, and a session that does not
    start leaves the slot as it was. -/
theorem run_orderly (store : RecordingStore σ) (spec : ShellSpec)
    (recording : Option RecorderSettings) (s : σ) (actions : List (Action π σ))
    (fresh : (actions.filterMap Action.spawned?).Nodup) :
    let shared := Shared.run store spec recording s actions
    Orderly store shared ∧
      ∀ n call id size slot, shared.calls[n]? = some call → call.stage = .spawning id size slot →
        ∃ before after, actions = before ++ .begin (.spawn id size) :: after ∧
          (Shared.run store spec recording s before).calls.length = n ∧
          (Shared.run store spec recording s before).registry.slot = slot :=
  ⟨(run_consistent store spec recording s fresh).orderly store,
    fun _ _ _ _ _ found spawns => Shared.spawning_run spec recording s found spawns⟩

/-- Two calls want the same session, and another one begins meanwhile. -/
theorem run_orderly_contested :
    let host : Host Unit :=
      { launch := fun _ => .ok ()
        write := fun _ process => (.ok (), process)
        resize := fun _ _ process => (.ok (), process)
        read := fun process => ([], process)
        readToEnd? := fun process => some ([], process)
        hasEnded := fun _ => true
        exitCode? := fun _ => some 0
        kill := fun process => (.ok 0, process)
        killGroup := fun process => process }
    let actions : List (Action Unit MemoryStore) :=
      [.begin (.spawn "first" none), .begin (.spawn "second" none), .resume 0 host,
        .begin (.write "first" [33]), .begin (.stop "first"), .begin .shutdown, .resume 2 host,
        .begin (.spawn "third" none), .resume 3 host, .resume 5 host, .begin (.reap "first")]
    let shared := Shared.run MemoryStore.recording .default none .empty actions
    (actions.filterMap Action.spawned?).Nodup ∧ Orderly MemoryStore.recording shared ∧
      shared.registry.activeId? = some "third" ∧
      shared.calls.map Call.took = [none, none, none, some "first", none, none, none] := by
  intro host actions shared
  have fresh : (actions.filterMap Action.spawned?).Nodup := by decide
  exact ⟨fresh, (run_orderly MemoryStore.recording .default none .empty actions fresh).1,
    by decide +kernel, by decide +kernel⟩

end TerminalAgent.Registry
