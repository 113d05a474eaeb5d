import TerminalAgent.Proofs.Router.Moves
import TerminalAgent.Proofs.Session.Retirement

/-! # Who finishes sessions

A session leaves its slot by a call that takes it and then finishes it: until that call ends, it is the
one that has to. Likewise the slot is claimed only while a call starts a session.
-/

namespace TerminalAgent

namespace Registry

variable {π σ : Type}

/-! ## What a call does at first -/

/-- What becomes of a registry when a call begins. -/
inductive Begins (shared : Shared π σ) : Shared π σ → Prop
  /-- The call ends at once or has found a session to use. -/
  | enters {call : Call π} (stage : (∃ reply, call.stage = .ended reply) ∨ ∃ id, call.stage = .using id) :
      Begins shared (shared.enter call)
  | claims {registry : Registry π} {call : Call π} {id : String} {size : Option (UInt16 × UInt16)}
      {slot : Slot π} (stage : call.stage = .spawning id size slot) :
      Begins shared ({ shared with registry }.enter call)
  | takes {session : RunningSession π} (slot : shared.registry.slot = .running session)
      (request : Request) : Begins shared (shared.take request (some session))

theorem begin_begins (shared : Shared π σ) (request : Request) :
    Begins shared (shared.begin request) := by
  have refuses (request : Request) (reply : Reply) : Begins shared (shared.refuse request reply) :=
    .enters (.inl ⟨reply, rfl⟩)
  have visits (request : Request) (id : String) : Begins shared (shared.visit request id) := by
    unfold Shared.visit
    split
    next => exact refuses request _
    next => exact .enters (.inr ⟨id, rfl⟩)
  have takes (request : Request) {session? : Option (RunningSession π)}
      (there : ∀ session, session? = some session → shared.registry.slot = .running session) :
      Begins shared (shared.take request session?) := by
    cases session? with
    | none => exact refuses request _
    | some session => exact .takes (there session rfl) request
  cases request with
  | spawn id size =>
      simp only [Shared.begin]
      split
      next => exact refuses _ _
      next => exact .claims rfl
  | write id data => exact visits _ id
  | resize id cols rows => exact visits _ id
  | stop id => exact takes _ fun session found => (find?_eq_some.mp found).1
  | reap id =>
      exact takes _ fun session found => (find?_eq_some.mp (Option.filter_eq_some_iff.mp found).1).1
  | shutdown => exact takes _ fun session found => running?_eq_some.mp found

/-- Whatever runs is taken out of the slot by a call that shuts down. -/
theorem Shared.running?_begin_shutdown (shared : Shared π σ) :
    (shared.begin .shutdown).registry.slot.running? = none := by
  rw [Shared.begin]
  cases slot : shared.registry.slot.running? with
  | none => exact slot
  | some session => rfl

/-! ## Calls that finish sessions -/

namespace Shared

variable {shared : Shared π σ}

/-- A call finishes the session at this place. -/
def Finishes (shared : Shared π σ) (n place : Nat) : Prop :=
  ∃ call, shared.calls[n]? = some call ∧ call.stage = .finishing place

theorem finishes_enter {call : Call π} (takesNot : ∀ place, call.stage ≠ .finishing place)
    {n place : Nat} : (shared.enter call).Finishes n place ↔ shared.Finishes n place := by
  constructor
  · rintro ⟨other, found, stage⟩
    rw [enter, List.getElem?_append] at found
    split at found
    next => exact ⟨other, found, stage⟩
    next =>
      have new : other = call := by simpa using List.mem_of_getElem? found
      exact absurd (new ▸ stage) (takesNot place)
  · rintro ⟨other, found, stage⟩
    exact ⟨other, (List.getElem?_append_left (List.getElem?_eq_some_iff.mp found).1).trans found,
      stage⟩

theorem finishes_take {request : Request} {session : RunningSession π} {n place : Nat} :
    (shared.take request (some session)).Finishes n place ↔
      shared.Finishes n place ∨ n = shared.calls.length ∧ place = shared.retired.length := by
  constructor
  · rintro ⟨call, found, stage⟩
    rw [take, enter, List.getElem?_append] at found
    split at found
    next => exact .inl ⟨call, found, stage⟩
    next late =>
      have inRange := (List.getElem?_eq_some_iff.mp found).1
      have new := by simpa using List.mem_of_getElem? found
      rw [new] at stage
      cases stage
      dsimp only [List.length_singleton] at inRange late
      exact .inr ⟨by omega, rfl⟩
  · rintro (⟨call, found, stage⟩ | ⟨rfl, rfl⟩)
    · exact ⟨call, (List.getElem?_append_left (List.getElem?_eq_some_iff.mp found).1).trans found,
        stage⟩
    · exact ⟨_, List.getElem?_concat_length, rfl⟩

theorem finishes_settle {call : Call π} {reply : Reply} {n m place : Nat} :
    (shared.settle n call reply).Finishes m place ↔ m ≠ n ∧ shared.Finishes m place := by
  unfold Finishes settle
  rw [List.getElem?_set]
  split
  next same =>
    subst same
    constructor
    · rintro ⟨other, found, stage⟩
      split at found
      next =>
        cases found
        cases stage
      next => cases found
    · rintro ⟨differs, -⟩
      exact absurd rfl differs
  next differs => exact ⟨fun finishes => ⟨Ne.symm differs, finishes⟩, fun both => both.2⟩

end Shared

/-! ## Sessions that were taken out of the slot -/

open RunningSession (Tame)

/-- Whoever takes or claims something has not ended. -/
structure Tended (shared : Shared π σ) (exits : List (Nat × Except SessionError Nat)) : Prop where
  /-- A session that was taken out of the slot is finished, or a call finishes it. -/
  retired : ∀ {place : Nat} {session : RunningSession π}, shared.retired[place]? = some session →
    session.Quiet ∨ ∃ n, shared.Finishes n place
  places : ∀ {n place : Nat}, shared.Finishes n place → place < shared.retired.length
  /-- A session takes no more input once its shell was stopped. -/
  killed : ∀ {n place : Nat} {session : RunningSession π} {result : Except SessionError Nat},
    shared.Finishes n place → shared.retired[place]? = some session →
      exits.lookup n = some result → session.pty.isRunning = false
  known : ∀ {n : Nat}, shared.calls.length ≤ n → exits.lookup n = none
  /-- The slot is claimed by a call. -/
  starting : shared.registry.isClaimed = true → ∃ call ∈ shared.calls, call.isSpawning = true

namespace Tended

variable {shared : Shared π σ} {exits : List (Nat × Except SessionError Nat)}

/-- What becomes of the slot matters only if it is claimed. -/
theorem reslot (h : Tended shared exits) {registry : Registry π} {s : σ}
    (slot : registry.isClaimed = true → shared.registry.isClaimed = true) :
    Tended { shared with registry, store := s } exits :=
  ⟨h.retired, h.places, h.killed, h.known, fun claimed => h.starting (slot claimed)⟩

/-- A call comes that takes nothing. -/
theorem enter (h : Tended shared exits) {call : Call π}
    (takesNot : ∀ place, call.stage ≠ .finishing place) : Tended (shared.enter call) exits where
  retired there := (h.retired there).imp_right fun ⟨n, finishes⟩ =>
    ⟨n, (Shared.finishes_enter takesNot).mpr finishes⟩
  places finishes := h.places ((Shared.finishes_enter takesNot).mp finishes)
  killed finishes := h.killed ((Shared.finishes_enter takesNot).mp finishes)
  known beyond := h.known (Nat.le_trans (by simp [Shared.enter]) beyond)
  starting claimed := Shared.exists_enter (h.starting claimed)

/-- A call takes the session out of the slot. -/
theorem take (h : Tended shared exits) (request : Request) (session : RunningSession π) :
    Tended (shared.take request (some session)) exits where
  retired := by
    intro place other there
    rw [Shared.take, Shared.enter, List.getElem?_append] at there
    split at there
    next =>
      obtain quiet | ⟨n, finishes⟩ := h.retired there
      · exact .inl quiet
      · exact .inr ⟨n, Shared.finishes_take.mpr (.inl finishes)⟩
    next late =>
      have inRange := (List.getElem?_eq_some_iff.mp there).1
      simp only [List.length_singleton] at inRange
      exact .inr ⟨_, Shared.finishes_take.mpr (.inr ⟨rfl, by omega⟩)⟩
  places := by
    intro n place finishes
    simp only [Shared.take, Shared.enter, List.length_append, List.length_singleton]
    obtain before | ⟨-, rfl⟩ := Shared.finishes_take.mp finishes
    · exact Nat.lt_succ_of_lt (h.places before)
    · exact Nat.lt_succ_self _
  killed := by
    intro n place other result finishes there exited
    obtain before | ⟨rfl, -⟩ := Shared.finishes_take.mp finishes
    · rw [Shared.take, Shared.enter, List.getElem?_append_left (h.places before)] at there
      exact h.killed before there exited
    · rw [h.known (Nat.le_refl _)] at exited
      cases exited
  known beyond := h.known (Nat.le_trans (by simp [Shared.take, Shared.enter]) beyond)
  starting := by rintro ⟨⟩

theorem begins (h : Tended shared exits) {shared' : Shared π σ} (begins : Begins shared shared') :
    Tended shared' exits := by
  cases begins with
  | enters stage =>
      refine h.enter fun place => ?_
      obtain ⟨reply, stage⟩ | ⟨id, stage⟩ := stage <;> rw [stage] <;> nofun
  | @claims registry call id size slot stage =>
      have takesNot (place : Nat) : call.stage ≠ .finishing place := by rw [stage]; nofun
      have entered := h.enter takesNot
      refine ⟨entered.retired, entered.places, entered.killed, entered.known, fun _ => ?_⟩
      exact ⟨call, Shared.mem_enter.mpr (.inr rfl), by simp [Call.isSpawning, stage]⟩
  | takes slot request => exact h.take request _

/-- A call ends whose session is finished, if it had to finish one. -/
theorem settle (h : Tended shared exits) {n : Nat} {call : Call π}
    (found : shared.calls[n]? = some call) (reply : Reply)
    (finished : ∀ {place session}, call.stage = .finishing place →
      shared.retired[place]? = some session → session.Quiet)
    (slot : call.isSpawning = true → shared.registry.isClaimed = false) :
    Tended (shared.settle n call reply) exits where
  retired := by
    intro place session there
    obtain quiet | ⟨m, finishes⟩ := h.retired there
    · exact .inl quiet
    · by_cases same : m = n
      · obtain ⟨other, foundToo, stage⟩ := finishes
        rw [same, found] at foundToo
        cases foundToo
        exact .inl (finished stage there)
      · exact .inr ⟨m, Shared.finishes_settle.mpr ⟨same, finishes⟩⟩
  places finishes := h.places (Shared.finishes_settle.mp finishes).2
  killed finishes := h.killed (Shared.finishes_settle.mp finishes).2
  known beyond := h.known (by simpa [Shared.settle] using beyond)
  starting := by
    intro claimed
    obtain ⟨other, member, spawning⟩ := h.starting claimed
    refine ⟨other, Shared.mem_settle_of_ne found member ?_, spawning⟩
    rintro rfl
    exact absurd (slot spawning) (by rw [show shared.registry.isClaimed = true from claimed]; simp)

theorem alter (h : Tended shared exits) (id : String) {f : RunningSession π → RunningSession π}
    (tame : Tame f) : Tended (shared.alter id f) exits := by
  unfold Shared.alter
  split
  next session found => exact h.reslot nofun
  next =>
    have back {place : Nat} {session : RunningSession π}
        (there : (shared.retired.map fun session =>
          if session.pty.id = id then f session else session)[place]? = some session) :
        ∃ before, shared.retired[place]? = some before ∧ (session = f before ∨ session = before) := by
      rw [List.getElem?_map, Option.map_eq_some_iff] at there
      obtain ⟨before, found, rfl⟩ := there
      refine ⟨before, found, ?_⟩
      split
      next => exact .inl rfl
      next => exact .inr rfl
    constructor
    case retired =>
      intro place session there
      obtain ⟨before, found, rfl | rfl⟩ := back there
      · exact (h.retired found).imp_left tame.quiet
      · exact h.retired found
    case places =>
      intro n place finishes
      rw [List.length_map]
      exact h.places finishes
    case killed =>
      intro n place session result finishes there exited
      obtain ⟨before, found, rfl | rfl⟩ := back there
      · exact tame.stopped before (h.killed finishes found exited)
      · exact h.killed finishes found exited
    case known => exact h.known
    case starting => exact h.starting

/-- A session that was taken out of the slot changes. -/
theorem setRetired (h : Tended shared exits) {place : Nat} {session session' : RunningSession π}
    (found : shared.retired[place]? = some session)
    (stopped : session.pty.isRunning = false → session'.pty.isRunning = false)
    (recorded : session.recorder = none → session'.recorder = none) :
    Tended { shared with retired := shared.retired.set place session' } exits := by
  have back {other : Nat} {now : RunningSession π}
      (there : (shared.retired.set place session')[other]? = some now) :
      shared.retired[other]? = some now ∨ other = place ∧ now = session' := by
    rw [List.getElem?_set] at there
    split at there
    next same =>
      split at there
      next => exact .inr ⟨same.symm, (Option.some.inj there).symm⟩
      next => cases there
    next => exact .inl there
  constructor
  case retired =>
    intro other now there
    obtain before | ⟨rfl, rfl⟩ := back there
    · exact h.retired before
    · exact (h.retired found).imp_left fun quiet =>
        ⟨stopped quiet.stopped, recorded quiet.recorded⟩
  case places =>
    intro n other finishes
    rw [List.length_set]
    exact h.places finishes
  case killed =>
    intro n other now result finishes there exited
    obtain before | ⟨rfl, rfl⟩ := back there
    · exact h.killed finishes before exited
    · exact stopped (h.killed finishes found exited)
  case known => exact h.known
  case starting => exact h.starting

/-- A call has stopped the shell of the session that it finishes. -/
theorem exit (h : Tended shared exits) {n place : Nat} (finishes : shared.Finishes n place)
    (stopped : ∀ session, shared.retired[place]? = some session → session.pty.isRunning = false)
    (result : Except SessionError Nat) : Tended shared (exits ++ [(n, result)]) := by
  have lookup (m : Nat) : (exits ++ [(n, result)]).lookup m =
      (exits.lookup m).or (if m = n then some result else none) := by
    rw [List.lookup_append, List.lookup_cons]
    by_cases same : m = n
    · rw [beq_iff_eq.mpr same, if_pos same]
    · rw [beq_eq_false_iff_ne.mpr same, if_neg same]
      rfl
  constructor
  case retired => exact h.retired
  case places => exact h.places
  case killed =>
    intro m other session result' finishesToo there exited
    cases before : exits.lookup m with
    | some => exact h.killed finishesToo there before
    | none =>
        rw [lookup, before, Option.none_or] at exited
        split at exited
        next same =>
          subst same
          obtain ⟨call, found, stage⟩ := finishes
          obtain ⟨_, foundToo, stageToo⟩ := finishesToo
          rw [found] at foundToo
          cases foundToo
          rw [stage] at stageToo
          cases stageToo
          exact stopped session there
        next => cases exited
  case known =>
    intro m beyond
    obtain ⟨call, found, -⟩ := finishes
    have inRange := (List.getElem?_eq_some_iff.mp found).1
    have differs : m ≠ n := by omega
    rw [lookup, h.known beyond, if_neg differs]
    rfl
  case starting => exact h.starting

/-- A call that starts a session gives the slot back or fills it. -/
theorem resume_spawning (h : Tended shared exits) (store : RecordingStore σ) (host : Host π) {n : Nat}
    {call : Call π} (found : shared.calls[n]? = some call) {id : String}
    {size : Option (UInt16 × UInt16)} {slot : Slot π} (stage : call.stage = .spawning id size slot) :
    Tended (shared.resume store host n) exits ∧
      (shared.resume store host n).registry.isClaimed = false := by
  have finished {place : Nat} {session : RunningSession π} (finishing : call.stage = .finishing place) :
      session.Quiet := by
    rw [stage] at finishing
    cases finishing
  simp only [Shared.resume, found, stage]
  split
  next error _ =>
    have vacated : shared.registry.abandon.isClaimed = false := by
      unfold Registry.abandon isClaimed
      cases slot : shared.registry.slot with
      | starting previous => cases previous <;> rfl
      | absent | running | stopped => simp [slot]
    have given : Tended { shared with registry := shared.registry.abandon } exits :=
      h.reslot (s := shared.store) fun claimed => by rw [vacated] at claimed; cases claimed
    exact ⟨given.settle found _ (fun finishing _ => finished finishing) fun _ => vacated, vacated⟩
  next pty _ =>
    have filled : Tended { shared with
        registry := (shared.registry.fill store pty shared.store).1
        store := (shared.registry.fill store pty shared.store).2 } exits := h.reslot (by rintro ⟨⟩)
    exact ⟨filled.settle found _ (fun finishing _ => finished finishing) fun _ => rfl, rfl⟩

end Tended

end Registry

namespace LiveConnection

open Registry (Shared Request Reply Call Tended)

variable {π σ : Type} {store : RecordingStore σ} {live live' : LiveConnection π σ}

theorem Works.tended (works : Works store live live') (h : Tended live.shared live.exits) :
    Tended live'.shared live'.exits := by
  cases works with
  | useStore s => exact h.reslot id
  | progress id tame s => exact (h.alter id tame).reslot fun claimed => claimed
  | spawn found stage host => exact (h.resume_spawning store host found stage).1
  | @use n call found id stage f tame reply =>
      refine (h.alter id tame).settle (by simpa using found) reply ?_ ?_
      · intro place session finishing
        rw [stage] at finishing
        cases finishing
      · intro spawning
        simp [Call.isSpawning, stage] at spawning
  | @kill n call found place stage session retired host =>
      obtain ⟨process, stopped⟩ := RunningSession.stop_cases host session.pty
      have off : (session.pty.stop host).2.isRunning = false := by rw [stopped]
      let retired' := live.shared.retired.set place
        { session with pty := (session.pty.stop host).2 }
      have killed : Tended { live.shared with retired := retired' } live.exits :=
        h.setRetired retired (fun _ => off) id
      refine killed.exit ⟨call, found, stage⟩ (fun other there => ?_) _
      rw [List.getElem?_set, if_pos rfl] at there
      split at there
      next =>
        cases there
        exact off
      next => cases there
  | detach found stage retired => exact h.setRetired retired id id
  | @settle n call found place stage session retired result exited recorded =>
      refine h.settle found _ ?_ ?_
      · intro other now finishing there
        rw [stage] at finishing
        cases finishing
        rw [retired] at there
        cases there
        exact ⟨h.killed ⟨call, found, stage⟩ retired exited, recorded⟩
      · intro spawning
        simp [Call.isSpawning, stage] at spawning

theorem Routes.tended {arrival : Option (String × Bytes)} (routes : Routes arrival live live')
    (h : Tended live.shared live.exits) : Tended live'.shared live'.exits := by
  cases routes with
  | answered | concluded | announced | replied | broken | closed | complete => exact h
  | @asked _ _ _ _ _ request => exact h.begins (Registry.begin_begins live.shared request)
  | stopping => exact h.begins (Registry.begin_begins live.shared .shutdown)
  | unheard => exact h.alter _ RunningSession.tame_unwatch

theorem Pumps.tended {n : Nat} {task : PumpTask} (pumps : Pumps live n task live')
    (h : Tended live.shared live.exits) : Tended live'.shared live'.exits := by
  cases pumps with
  | drained | sent | reaped | refused | notified | unnoticed => exact h
  | taken _ tame => exact h.alter _ tame
  | dismissed => exact h.alter _ RunningSession.tame_unwatch
  | reaping => exact h.begins (Registry.begin_begins live.shared (.reap task.id))

end LiveConnection

end TerminalAgent
