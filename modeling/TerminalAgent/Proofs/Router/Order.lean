import TerminalAgent.Proofs.Router.Account
import TerminalAgent.Recording.MemoryStore

/-! # The order of what is sent about a session

Router and pumps send on one channel. Whatever the order of their steps, what is sent about one session
is told in order: first that it was started, then its output, then that its shell has ended, and once
only that it was stopped.
-/

namespace TerminalAgent

open Connection (isNormal)

namespace LiveConnection

open Registry (Shared Request Reply Call Consistent)

variable {π σ : Type} {store : RecordingStore σ} {live live' : LiveConnection π σ}

/-! ## Runs -/

/-- The id of the session that bytes start which arrive with it. -/
def spawnedBy (arrival : String × Bytes) : Option String :=
  match Connection.intake arrival.1 arrival.2 with
  | .ask _ request => request.spawned?
  | .answer _ => none

/-- The id of the session that an action is to start. -/
def Action.spawned? (action : Action π σ) : Option String :=
  action.arrival?.bind spawnedBy

theorem ids_begin (live : LiveConnection π σ) (request : Request) :
    (live.begin request).ids = live.ids ++ request.spawned?.toList := by
  obtain ⟨took, aims⟩ := live.shared.aims_begin request
  rw [ids, show (live.begin request).shared.aims = _ from aims, List.filterMap_append, ids]
  cases request <;> rfl

/-- Only a message that arrives starts a session. -/
theorem ids_moves (moves : Moves store arrival live live') :
    live'.ids = live.ids ∨ live'.ids = live.ids ++ (arrival.bind spawnedBy).toList := by
  have same {live' : LiveConnection π σ} (aims : live'.shared.aims = live.shared.aims) :
      live'.ids = live.ids := by rw [ids, aims, ids]
  cases moves with
  | stays | channel => exact .inl rfl
  | works works => exact .inl (same works.aims)
  | routes routes =>
      cases routes with
      | @asked fresh bytes arrived _ message request intake =>
          refine .inr ((live.ids_begin request).trans ?_)
          rw [arrived, Option.bind_some, spawnedBy, intake]
      | stopping => exact .inl ((live.ids_begin .shutdown).trans (List.append_nil _))
      | unheard => exact .inl (same (Shared.aims_alter ..))
      | answered | concluded | announced | replied | broken | closed | complete => exact .inl rfl
  | @pumps n task _ found pumps =>
      cases pumps with
      | taken | dismissed => exact .inl (same (Shared.aims_alter ..))
      | reaping => exact .inl ((live.ids_begin (.reap task.id)).trans (List.append_nil _))
      | drained | sent | reaped | refused | notified | unnoticed => exact .inl rfl

/-- What holds of a connection at any time. -/
structure Sound (live : LiveConnection π σ) : Prop where
  consistent : Consistent live.shared
  attended : Attended live
  narrated : Narrated live
  accounted : ∀ id, Accounted live id

namespace Sound

theorem consistent_moves (h : Consistent live.shared) (fresh : live.ids.Nodup)
    (moves : Moves store arrival live live') : Consistent live'.shared := by
  cases moves with
  | stays | channel => exact h
  | works works => exact works.consistent h fresh
  | routes routes =>
      cases routes with
      | asked => exact h.begin _
      | stopping => exact h.begin .shutdown
      | unheard => exact h.alter _ RunningSession.tame_unwatch
      | answered | concluded | announced | replied | broken | closed | complete => exact h
  | @pumps n task _ found pumps =>
      cases pumps with
      | taken _ tame => exact h.alter _ tame
      | dismissed => exact h.alter _ RunningSession.tame_unwatch
      | reaping => exact h.begin (.reap task.id)
      | drained | sent | reaped | refused | notified | unnoticed => exact h

theorem moves (h : Sound live) (fresh : live'.ids.Nodup) (moves : Moves store arrival live live') :
    Sound live' := by
  have before : live.ids.Nodup := by
    obtain same | grown := ids_moves moves
    · exact same ▸ fresh
    · rw [grown] at fresh
      exact (List.nodup_append.mp fresh).1
  exact ⟨consistent_moves h.consistent before moves, h.attended.moves fresh moves,
    h.narrated.moves h.attended moves,
    fun id => (h.accounted id).moves h.consistent h.attended moves⟩

theorem new (spec : ShellSpec) (recording : Option RecorderSettings) (s : σ) :
    Sound (LiveConnection.new spec recording s : LiveConnection π σ) where
  consistent := Registry.consistent_start spec recording s
  attended := ⟨nofun, nofun, nofun, .nil, nofun⟩
  narrated := ⟨nofun, fun _ _ => rfl⟩
  accounted _ := Nat.zero_le _

end Sound

theorem ids_run (store : RecordingStore σ) (spec : ShellSpec) (recording : Option RecorderSettings)
    (s : σ) (actions : List (Action π σ)) :
    ((LiveConnection.new spec recording s).run store actions).ids.Sublist
      (actions.filterMap Action.spawned?) := by
  induction actions using List.reverseRecOn with
  | nil => exact List.Sublist.refl _
  | append_singleton actions action ih =>
      rw [run, List.foldl_append, List.foldl_cons, List.foldl_nil, ← run, List.filterMap_append]
      have new : [action].filterMap Action.spawned? = action.spawned?.toList := by
        cases started : action.spawned? <;> simp [started]
      rw [new]
      obtain same | grown := ids_moves (step_moves store _ action)
      · rw [same]
        exact ih.trans (List.sublist_append_left _ _)
      · rw [grown]
        exact ih.append (List.Sublist.refl _)

theorem run_sound (spec : ShellSpec) (recording : Option RecorderSettings) (s : σ)
    {actions : List (Action π σ)} (fresh : (actions.filterMap Action.spawned?).Nodup) :
    Sound ((LiveConnection.new spec recording s).run store actions) := by
  induction actions using List.reverseRecOn with
  | nil => exact .new spec recording s
  | append_singleton actions action ih =>
      have all := fresh.sublist (ids_run store spec recording s (actions ++ [action]))
      rw [List.filterMap_append] at fresh
      have before := ih (fresh.sublist (List.sublist_append_left _ _))
      rw [run, List.foldl_append, List.foldl_cons, List.foldl_nil, ← run] at all ⊢
      exact before.moves all (step_moves store _ action)

/-! ## What peers can rely on -/

/-- What the subscription of a session has yielded to its pump, oldest first. -/
def yielded (live : LiveConnection π σ) (id : String) : List Output :=
  ((live.pumps.find? fun task => task.id = id).map PumpTask.taken).getD []

/-- The output of a session that was sent, oldest first. -/
def outputs (live : LiveConnection π σ) (id : String) : List Posting :=
  live.log.filter (Posting.tells Kind.shell id)

/-- In which order it is told what happens to a session. -/
structure Ordered (live : LiveConnection π σ) (id : String) : Prop where
  /-- That the session was started is said before all its output. -/
  started : ∀ before posting after, live.log = before ++ posting :: after →
    isNormal Kind.shell id posting.message = true →
      ∃ earlier ∈ before, isNormal Kind.spawn id earlier.message = true
  startedOnce : live.log.countP (Posting.tells Kind.spawn id) ≤ 1
  /-- What is sent is what was yielded, in order and without a gap. -/
  forwarded : (live.outputs id).map (fun posting => posting.message.body) <+:
    (live.yielded id).map Output.data
  /-- When a pump gives notice that the shell has ended, all output was sent. -/
  notified : ∀ before posting after, live.log = before ++ posting :: after →
    posting.sender = .pump → isNormal Kind.stop id posting.message = true →
      ∀ later ∈ after, isNormal Kind.shell id later.message = false
  stoppedOnce : live.log.countP (Posting.tells Kind.stop id) ≤ 1

section
variable {id : String} {log before after : List Posting} {posting : Posting}

theorem concerns_of_shell (own : isNormal Kind.shell id posting.message = true) :
    posting.concerns id = true := by
  simp [Posting.concerns, own]

theorem concerns_of_spawn (own : isNormal Kind.spawn id posting.message = true) :
    posting.concerns id = true := by
  simp [Posting.concerns, own]

/-- What concerns a session splits where the log does. -/
theorem filter_split (split : log = before ++ posting :: after) (own : posting.concerns id = true) :
    log.filter (Posting.concerns id) =
      before.filter (Posting.concerns id) ++ posting :: after.filter (Posting.concerns id) := by
  rw [split, List.filter_append, List.filter_cons_of_pos own]

/-- What is not part of a list but of the list with one more item is this item, and the last one. -/
theorem eq_nil_of_append_cons {l front back rest : List Posting} {last : Posting}
    (split : front ++ posting :: back = l ++ rest) (tail : rest = [] ∨ rest = [last])
    (new : posting ∉ l) : back = [] := by
  obtain rfl | rfl := tail
  · rw [List.append_nil] at split
    exact absurd (split ▸ by simp) new
  · obtain rfl | ⟨others, item, rfl⟩ := back.eq_nil_or_concat
    · rfl
    · rw [List.concat_eq_append, ← List.cons_append, ← List.append_assoc] at split
      have same := (List.append_inj' split rfl).1
      exact absurd (same ▸ by simp) new

/-- A message is counted among those that concern its session. -/
theorem countP_spawn : log.countP (Posting.tells Kind.spawn id) =
    (log.filter (Posting.concerns id)).countP (Posting.tells Kind.spawn id) := by
  rw [List.countP_filter]
  refine List.countP_congr fun posting _ => ?_
  simpa only [Bool.and_eq_true] using
    ⟨fun own => ⟨own, concerns_of_spawn own⟩, fun both => both.1⟩

theorem filter_shell : log.filter (Posting.tells Kind.shell id) =
    (log.filter (Posting.concerns id)).filter (Posting.tells Kind.shell id) := by
  rw [List.filter_filter]
  refine List.filter_congr fun posting _ => ?_
  cases own : Posting.tells Kind.shell id posting with
  | false => rfl
  | true => rw [concerns_of_shell own, Bool.and_self]

end

namespace Sound

variable {id : String}

/-- Nothing was said about a session, or its pump knows what. -/
theorem tale (h : Sound live) (id : String) : live.log.filter (Posting.concerns id) = [] ∨
    ∃ task : PumpTask, task.id = id ∧ task.Told live.log ∧ live.yielded id = task.taken := by
  by_cases known : id ∈ live.pumps.map PumpTask.id
  · obtain ⟨task, member, rfl⟩ := List.mem_map.mp known
    refine .inr ⟨task, rfl, h.narrated.told task member, ?_⟩
    have distinct := (List.nodup_append.mp h.attended.distinct).1
    cases first : live.pumps.find? fun other => other.id = task.id with
    | none =>
        have nobody := List.find?_eq_none.mp first task member
        simp at nobody
    | some other =>
        have same : other.id = task.id := by simpa using List.find?_some first
        have found : other ∈ live.pumps := List.mem_of_find?_eq_some first
        have only : other = task := List.inj_on_of_nodup_map distinct found member same
        rw [yielded, first, only]
        rfl
  · exact .inl (h.narrated.untold id known)

theorem ordered (h : Sound live) (id : String) : Ordered live id := by
  have stoppedOnce : live.log.countP (Posting.tells Kind.stop id) ≤ 1 := by
    have accounted : live.stops id ≤ _ := h.accounted id
    have once := h.consistent.takenOnce id
    have same : live.shared.aims.countP (fun aim => aim.2 = some id) =
        live.shared.calls.countP (Call.hasTaken id) := by
      rw [Shared.aims, List.countP_map]
      rfl
    rw [same] at accounted
    unfold stops at accounted
    omega
  obtain nothing | ⟨task, rfl, told, yielded⟩ := h.tale id
  · constructor
    case started =>
      intro before posting after split own
      rw [filter_split split (concerns_of_shell own)] at nothing
      simp at nothing
    case startedOnce => rw [countP_spawn, nothing]; exact Nat.zero_le 1
    case forwarded => rw [outputs, filter_shell, nothing]; exact List.nil_prefix
    case notified =>
      intro before posting after split pump own
      have concerned : posting.concerns id = true := by simp [Posting.concerns, pump, own]
      rw [filter_split split concerned] at nothing
      simp at nothing
    case stoppedOnce => exact stoppedOnce
  · obtain ⟨rest, script, tail⟩ := told.tail
    constructor
    case started =>
      intro before posting after split own
      rw [filter_split split (concerns_of_shell own), PumpTask.script, List.cons_append] at script
      cases first : before.filter (Posting.concerns task.id) with
      | nil =>
          rw [first] at script
          rw [(List.cons.inj script).1, Connection.isNormal_startedReply] at own
          exact absurd own.1 (by decide)
      | cons earlier others =>
          rw [first] at script
          have member : earlier ∈ before.filter (Posting.concerns task.id) := by simp [first]
          refine ⟨earlier, (List.mem_filter.mp member).1, ?_⟩
          rw [(List.cons.inj script).1]
          exact Connection.isNormal_startedReply.mpr ⟨rfl, rfl⟩
    case startedOnce =>
      have none : rest.countP (Posting.tells Kind.spawn task.id) = 0 := by
        rw [List.countP_eq_zero]
        exact fun posting member own =>
          absurd (PumpTask.notice_iff tail member own) (by decide)
      rw [countP_spawn, script, List.countP_append, PumpTask.spawn_script, none]
    case forwarded =>
      have none : rest.filter (Posting.tells Kind.shell task.id) = [] := by
        rw [List.filter_eq_nil_iff]
        exact fun posting member own =>
          absurd (PumpTask.notice_iff tail member own) (by decide)
      have sent : task.sent <+: task.taken := told.holds.sent
      rw [outputs, filter_shell, script, List.filter_append, PumpTask.shell_script, none,
        List.append_nil, List.map_map, yielded]
      exact sent.map Output.data
    case notified =>
      intro before posting after split pump own later member
      have concerned : posting.concerns task.id = true := by simp [Posting.concerns, pump, own]
      rw [filter_split split concerned] at script
      have new : posting ∉ task.script := fun inScript => PumpTask.stop_script inScript own
      have last : after.filter (Posting.concerns task.id) = [] :=
        eq_nil_of_append_cons script tail new
      have elsewhere := List.filter_eq_nil_iff.mp last later member
      exact Bool.eq_false_iff.mpr fun own => elsewhere (concerns_of_shell own)
    case stoppedOnce => exact stoppedOnce

end Sound

/-- Whatever arrives and however the tasks of a connection take turns, what it sends about a session
    tells what happened to it in order. -/
theorem run_ordered (store : RecordingStore σ) (spec : ShellSpec)
    (recording : Option RecorderSettings) (s : σ) (actions : List (Action π σ))
    (fresh : (actions.filterMap Action.spawned?).Nodup) (id : String) :
    Ordered ((LiveConnection.new spec recording s).run store actions) id :=
  (run_sound spec recording s fresh).ordered id

/-- A session is stopped by a request while its pump is about to retire it, and another one begins. -/
theorem run_ordered_contested :
    let spawn : Bytes :=
      [0x81, 0xA3, 0x68, 0x64, 0x72, 0x82, 0xA5, 0x70, 0x72, 0x6F, 0x74, 0x6F, 0x01, 0xA3, 0x74, 0x79,
        0x70, 0xA3, 0x6E, 0x65, 0x77]
    let stop : Bytes :=
      [0x81, 0xA3, 0x68, 0x64, 0x72, 0x83, 0xA5, 0x70, 0x72, 0x6F, 0x74, 0x6F, 0x01, 0xA3, 0x74, 0x79,
        0x70, 0xA4, 0x73, 0x74, 0x6F, 0x70, 0xA5, 0x70, 0x72, 0x6F, 0x70, 0x73, 0x81, 0xAA, 0x73, 0x65,
        0x73, 0x73, 0x69, 0x6F, 0x6E, 0x5F, 0x69, 0x64, 0xA5, 0x66, 0x69, 0x72, 0x73, 0x74]
    let fanout := (Fanout.new.subscribe (some Fanout.liveCapacity)).2
    let actions : List (Action Unit MemoryStore) :=
      [.arrive "first" spawn, .resume 0 .silent, .route, .route,
        .progress "first" (.publish (fanout.publish ⟨[104, 105], .enabled⟩)), .pump 0,
        .progress "first" .endOutput, .arrive "unused" stop, .pump 0, .pump 0, .pump 0, .route,
        .resume 1 .silent, .resume 1 .silent, .resume 1 .silent, .route, .pump 0, .route, .pump 0,
        .pump 0, .arrive "second" spawn, .resume 3 .silent, .route, .route]
    let live := (new .default none MemoryStore.empty).run MemoryStore.recording actions
    (actions.filterMap Action.spawned?).Nodup ∧ Ordered live "first" ∧
      live.log.map (fun posting => (posting.sender, posting.message.typ)) =
        [(.router, Kind.spawn), (.pump, Kind.shell), (.router, Kind.stop), (.router, Kind.spawn)] := by
  intro spawn stop fanout actions live
  have fresh : (actions.filterMap Action.spawned?).Nodup := by decide +kernel
  exact ⟨fresh, run_ordered MemoryStore.recording .default none .empty actions fresh "first",
    by decide +kernel⟩

end LiveConnection

end TerminalAgent
