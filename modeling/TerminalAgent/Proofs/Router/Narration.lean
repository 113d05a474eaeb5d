import TerminalAgent.Proofs.Router.Attended

/-! # What is told of a session

Once a session is announced, its pump sends its output and, in the end, the notice that its shell has
ended. What was sent about the session is what its pump has told so far.
-/

namespace TerminalAgent

open Connection (isNormal)

/-- Whether a message says of a session that all went well. -/
abbrev Posting.tells (typ id : String) (posting : Posting) : Bool :=
  isNormal typ id posting.message

/-- Whether a message is the start of a session, its output, or the notice of its pump that it ended. -/
def Posting.concerns (id : String) (posting : Posting) : Bool :=
  isNormal Kind.spawn id posting.message || isNormal Kind.shell id posting.message ||
    posting.sender = .pump && isNormal Kind.stop id posting.message

theorem Posting.concerns_started {id other : String} :
    concerns id ⟨.router, Connection.startedReply other⟩ = true ↔ id = other := by
  have notShell : Kind.shell ≠ Kind.spawn := by decide
  simp [concerns, Connection.isNormal_startedReply, notShell]

theorem Posting.concerns_output {id other : String} {output : Output} :
    concerns id ⟨.pump, Connection.outputMessage other output⟩ = true ↔ id = other := by
  have notSpawn : Kind.spawn ≠ Kind.shell := by decide
  have notStop : Kind.stop ≠ Kind.shell := by decide
  simp [concerns, Connection.isNormal_outputMessage, notSpawn, notStop]

theorem Posting.concerns_notice {id other : String} :
    concerns id ⟨.pump, Connection.stopNotice other⟩ = true ↔ id = other := by
  have notSpawn : Kind.spawn ≠ Kind.stop := by decide
  have notShell : Kind.shell ≠ Kind.stop := by decide
  simp [concerns, Connection.isNormal_stopNotice, notSpawn, notShell]

namespace PumpTask

/-- What is to be told of a session as long as its pump sends output. -/
def script (task : PumpTask) : List Posting :=
  ⟨.router, Connection.startedReply task.id⟩ ::
    task.sent.map fun output => ⟨.pump, Connection.outputMessage task.id output⟩

/-- The pump holds what it has taken and not sent. -/
def Holds (task : PumpTask) : Prop :=
  match task.stage with
  | .sending output => task.taken = task.sent ++ [output]
  | .left => task.sent <+: task.taken
  | _ => task.taken = task.sent

/-- What was sent about the session of a pump. -/
structure Told (task : PumpTask) (log : List Posting) : Prop where
  holds : task.Holds
  script : log.filter (Posting.concerns task.id) = task.script ∨ task.stage = .left ∧
    log.filter (Posting.concerns task.id) =
      task.script ++ [⟨.pump, Connection.stopNotice task.id⟩]

theorem Holds.sent {task : PumpTask} (h : task.Holds) : task.sent <+: task.taken := by
  unfold Holds at h
  split at h
  next => rw [h]; exact List.prefix_append _ _
  next => exact h
  next => rw [h]

namespace Told

variable {task : PumpTask} {log : List Posting}

theorem goOn (h : Told task log) (notLeft : task.stage ≠ .left) :
    log.filter (Posting.concerns task.id) = task.script :=
  h.script.resolve_right fun left => notLeft left.1

/-- What does not concern the session changes nothing. -/
theorem other (h : Told task log) {more : List Posting}
    (elsewhere : ∀ posting ∈ more, posting.concerns task.id = false) : Told task (log ++ more) := by
  have nothing : more.filter (Posting.concerns task.id) = [] := by
    simpa only [List.filter_eq_nil_iff, Bool.not_eq_true] using elsewhere
  have same : (log ++ more).filter (Posting.concerns task.id) =
      log.filter (Posting.concerns task.id) := by
    rw [List.filter_append, nothing, List.append_nil]
  exact ⟨h.holds, by rw [same]; exact h.script⟩

/-- A pump goes on that sends nothing. -/
theorem goTo (h : Told task log) (notLeft : task.stage ≠ .left) {stage : PumpStage}
    (holds : (task.goTo stage).Holds) : Told (task.goTo stage) log :=
  ⟨holds, .inl (h.goOn notLeft)⟩

theorem take (h : Told task log) (waiting : task.stage = .waiting) (output : Output) :
    Told (task.take output) log := by
  have before : task.taken = task.sent := by simpa only [Holds, waiting] using h.holds
  have notLeft : task.stage ≠ .left := by rw [waiting]; nofun
  exact ⟨congrArg (· ++ [output]) before, .inl (h.goOn notLeft)⟩

theorem send (h : Told task log) {output : Output} (sending : task.stage = .sending output) :
    Told (task.send output) (log ++ [⟨.pump, Connection.outputMessage task.id output⟩]) := by
  have before : task.taken = task.sent ++ [output] := by
    simpa only [Holds, sending] using h.holds
  have notLeft : task.stage ≠ .left := by rw [sending]; nofun
  refine ⟨before, .inl ?_⟩
  rw [List.filter_append]
  have own : Posting.concerns task.id ⟨.pump, Connection.outputMessage task.id output⟩ = true :=
    Posting.concerns_output.mpr rfl
  simp only [PumpTask.send, h.goOn notLeft, PumpTask.script, List.map_append, List.map_cons, List.map_nil,
    List.filter_cons_of_pos own, List.filter_nil, List.cons_append]

theorem notify (h : Told task log) (notifying : task.stage = .notifying) :
    Told (task.goTo .left) (log ++ [⟨.pump, Connection.stopNotice task.id⟩]) := by
  have before : task.taken = task.sent := by simpa only [Holds, notifying] using h.holds
  have notLeft : task.stage ≠ .left := by rw [notifying]; nofun
  have all : task.sent <+: task.taken := by rw [before]
  refine ⟨all, .inr ⟨rfl, ?_⟩⟩
  have own : Posting.concerns task.id ⟨.pump, Connection.stopNotice task.id⟩ = true :=
    Posting.concerns_notice.mpr rfl
  rw [List.filter_append]
  exact congrArg₂ (· ++ ·) (h.goOn notLeft) (List.filter_cons_of_pos own)

/-- The script is followed by a notice at most. -/
theorem tail (h : Told task log) : ∃ rest, log.filter (Posting.concerns task.id) = task.script ++ rest ∧
    (rest = [] ∨ rest = [⟨.pump, Connection.stopNotice task.id⟩]) := by
  obtain script | ⟨-, script⟩ := h.script
  · exact ⟨[], by rw [script, List.append_nil], .inl rfl⟩
  · exact ⟨_, script, .inr rfl⟩

end Told

/-! A script begins with the start of the session and goes on with its output. -/

theorem mem_script {task : PumpTask} {posting : Posting} (member : posting ∈ task.script) :
    posting = ⟨.router, Connection.startedReply task.id⟩ ∨
      ∃ output, posting = ⟨.pump, Connection.outputMessage task.id output⟩ := by
  obtain rfl | member := List.mem_cons.mp member
  · exact .inl rfl
  · obtain ⟨output, -, rfl⟩ := List.mem_map.mp member
    exact .inr ⟨output, rfl⟩

theorem shell_script (task : PumpTask) :
    task.script.filter (Posting.tells Kind.shell task.id) =
      task.sent.map fun output => ⟨.pump, Connection.outputMessage task.id output⟩ := by
  have started : ¬ isNormal Kind.shell task.id (Connection.startedReply task.id) = true := by
    rw [Connection.isNormal_startedReply]
    exact fun both => absurd both.1 (by decide)
  rw [script, List.filter_cons_of_neg (by exact started), List.filter_eq_self]
  intro posting member
  obtain ⟨output, -, rfl⟩ := List.mem_map.mp member
  exact Connection.isNormal_outputMessage.mpr ⟨rfl, rfl⟩

theorem spawn_script (task : PumpTask) :
    task.script.countP (Posting.tells Kind.spawn task.id) = 1 := by
  have started : isNormal Kind.spawn task.id (Connection.startedReply task.id) = true :=
    Connection.isNormal_startedReply.mpr ⟨rfl, rfl⟩
  have outputs : (task.sent.map fun output : Output =>
      (⟨.pump, Connection.outputMessage task.id output⟩ : Posting)).countP
        (Posting.tells Kind.spawn task.id) = 0 := by
    rw [List.countP_eq_zero]
    intro posting member
    obtain ⟨output, -, rfl⟩ := List.mem_map.mp member
    rw [Connection.isNormal_outputMessage]
    exact fun both => absurd both.1 (by decide)
  rw [script, List.countP_cons_of_pos (by exact started), outputs]

theorem stop_script {task : PumpTask} {posting : Posting} (member : posting ∈ task.script) :
    ¬ isNormal Kind.stop task.id posting.message = true := by
  obtain rfl | ⟨output, rfl⟩ := mem_script member
  · rw [Connection.isNormal_startedReply]
    exact fun both => absurd both.1 (by decide)
  · rw [Connection.isNormal_outputMessage]
    exact fun both => absurd both.1 (by decide)

theorem notice_iff {typ id : String} {posting : Posting} {rest : List Posting}
    (tail : rest = [] ∨ rest = [⟨.pump, Connection.stopNotice id⟩]) (member : posting ∈ rest)
    (normal : isNormal typ id posting.message = true) : typ = Kind.stop := by
  obtain rfl | rfl := tail
  · cases member
  · rw [List.mem_singleton.mp member] at normal
    exact (Connection.isNormal_stopNotice.mp normal).1

end PumpTask

namespace LiveConnection

open Registry (Shared Request Reply Call Consistent)

variable {π σ : Type} {store : RecordingStore σ} {live live' : LiveConnection π σ}
  {arrival : Option (String × Bytes)}

/-- What was sent about each session. -/
structure Narrated (live : LiveConnection π σ) : Prop where
  told : ∀ task ∈ live.pumps, task.Told live.log
  untold : ∀ id, id ∉ live.pumps.map PumpTask.id → live.log.filter (Posting.concerns id) = []

namespace Narrated

theorem same (h : Narrated live) (pumps : live'.pumps = live.pumps) (log : live'.log = live.log) :
    Narrated live' :=
  ⟨by rw [pumps, log]; exact h.told, by rw [pumps, log]; exact h.untold⟩

/-- The router sends a reply that starts no session and is no output. -/
theorem reply (h : Narrated live) {message : Message} (pumps : live'.pumps = live.pumps)
    (log : live'.log = live.log ++ [⟨.router, message⟩])
    (stops : ∀ {typ id}, isNormal typ id message = true → typ = Kind.stop) : Narrated live' := by
  have elsewhere (id : String) : Posting.concerns id ⟨.router, message⟩ = false := by
    have notSpawn : isNormal Kind.spawn id message = false :=
      Bool.eq_false_iff.mpr fun normal => absurd (stops normal) (by decide)
    have notShell : isNormal Kind.shell id message = false :=
      Bool.eq_false_iff.mpr fun normal => absurd (stops normal) (by decide)
    simp [Posting.concerns, notSpawn, notShell]
  constructor
  case told =>
    intro task member
    rw [pumps] at member
    rw [log]
    exact (h.told task member).other (by simpa using elsewhere task.id)
  case untold =>
    intro id unknown
    rw [pumps] at unknown
    rw [log, List.filter_append, h.untold id unknown, List.nil_append]
    simpa using elsewhere id

theorem announce (h : Narrated live) {id : String} (unknown : id ∉ live.pumps.map PumpTask.id)
    (pumps : live'.pumps = live.pumps ++ [.new id])
    (log : live'.log = live.log ++ [⟨.router, Connection.startedReply id⟩]) : Narrated live' := by
  have elsewhere {other : String} (differs : other ≠ id) :
      Posting.concerns other ⟨.router, Connection.startedReply id⟩ = false :=
    Bool.eq_false_iff.mpr fun concerned => differs (Posting.concerns_started.mp concerned)
  have own : Posting.concerns id ⟨.router, Connection.startedReply id⟩ = true :=
    Posting.concerns_started.mpr rfl
  constructor
  case told =>
    intro task member
    rw [pumps, List.mem_append, List.mem_singleton] at member
    rw [log]
    obtain member | rfl := member
    · have differs : task.id ≠ id := fun same =>
        unknown (same ▸ List.mem_map_of_mem member)
      exact (h.told task member).other (by simpa using elsewhere differs)
    · refine ⟨rfl, .inl ?_⟩
      rw [List.filter_append, show (PumpTask.new id).id = id from rfl, h.untold id unknown,
        List.filter_cons_of_pos own]
      rfl
  case untold =>
    intro other unknown
    rw [pumps, List.map_append, List.mem_append, not_or] at unknown
    have differs : other ≠ id := fun same => unknown.2 (same ▸ List.mem_singleton_self id)
    rw [log, List.filter_append, h.untold other unknown.1, List.nil_append]
    simpa using elsewhere differs

/-- A pump goes on, and sends about its own session if anything. -/
theorem repump (h : Narrated live) (distinct : (live.pumps.map PumpTask.id).Nodup) {n : Nat}
    {task task' : PumpTask} (found : live.pumps[n]? = some task)
    (pumps : live'.pumps = live.pumps.set n task') (id : task'.id = task.id) {more : List Posting}
    (log : live'.log = live.log ++ more)
    (own : ∀ posting ∈ more, ∀ other, posting.concerns other = true → other = task.id)
    (told : task'.Told live'.log) : Narrated live' := by
  obtain ⟨inRange, rfl⟩ := List.getElem?_eq_some_iff.mp found
  have elsewhere {other : String} (differs : other ≠ live.pumps[n].id) :
      ∀ posting ∈ more, posting.concerns other = false := fun posting member =>
    Bool.eq_false_iff.mpr fun concerned => differs (own posting member other concerned)
  have ids : live'.pumps.map PumpTask.id = live.pumps.map PumpTask.id := by
    rw [pumps, List.map_set, id, ← List.getElem_map PumpTask.id (h := by simpa using inRange),
      List.set_getElem_self]
  constructor
  case told =>
    intro other member
    rw [pumps] at member
    obtain ⟨m, here, rfl⟩ := List.getElem_of_mem member
    rw [List.getElem_set]
    split
    next => exact told
    next elsewhereHere =>
      rw [List.length_set] at here
      -- Pumps have different ids, so what this one sends concerns no other.
      have differs : live.pumps[m].id ≠ live.pumps[n].id := by
        intro same
        have inList : n < (live.pumps.map PumpTask.id).length := by simpa using inRange
        have inListToo : m < (live.pumps.map PumpTask.id).length := by simpa using here
        have ids : (live.pumps.map PumpTask.id)[m] = (live.pumps.map PumpTask.id)[n] := by
          simpa using same
        exact elsewhereHere (distinct.getElem_inj_iff.mp ids).symm
      rw [log]
      exact (h.told _ (List.getElem_mem here)).other (elsewhere differs)
  case untold =>
    intro other unknown
    rw [ids] at unknown
    have differs : other ≠ live.pumps[n].id := fun same =>
      unknown (same ▸ List.mem_map_of_mem (List.getElem_mem inRange))
    rw [log, List.filter_append, h.untold other unknown, List.nil_append, List.filter_eq_nil_iff]
    simpa only [Bool.not_eq_true] using elsewhere differs

theorem routes (h : Narrated live) (attended : Attended live) (routes : Routes arrival live live') :
    Narrated live' := by
  cases routes with
  | answered | asked | concluded | unheard | broken | closed | stopping | complete =>
      exact h.same rfl rfl
  | replied replying => exact h.reply rfl rfl (attended.replying replying)
  | announced announcing =>
      have distinct := attended.distinct
      rw [announcing, List.nodup_append] at distinct
      refine h.announce ?_ rfl rfl
      exact fun known => distinct.2.2 _ known _ (List.mem_singleton_self _) rfl

theorem pumps (h : Narrated live) (attended : Attended live) {n : Nat} {task : PumpTask}
    (found : live.pumps[n]? = some task) (pumps : Pumps live n task live') : Narrated live' := by
  have told := h.told task (List.mem_of_getElem? found)
  have distinct := (List.nodup_append.mp attended.distinct).1
  have quietly {live' : LiveConnection π σ} {task' : PumpTask}
      (pumps : live'.pumps = live.pumps.set n task') (id : task'.id = task.id)
      (log : live'.log = live.log) (told : task'.Told live.log) : Narrated live' :=
    h.repump distinct found pumps id (log.trans (List.append_nil _).symm) (by simp)
      (log.symm ▸ told)
  have holds := told.holds
  cases pumps with
  | taken waiting _ output => exact quietly rfl rfl rfl (told.take waiting output)
  | drained waiting | reaping waiting | reaped waiting | refused waiting | unnoticed waiting =>
      refine quietly rfl rfl rfl (told.goTo (by rw [waiting]; nofun) ?_)
      simp only [PumpTask.Holds, waiting] at holds
      simp [PumpTask.Holds, PumpTask.goTo, holds]
  | dismissed leaving =>
      obtain waiting | ⟨output, waiting⟩ := leaving
      · refine quietly rfl rfl rfl (told.goTo (by rw [waiting]; nofun) ?_)
        simp only [PumpTask.Holds, waiting] at holds
        simp [PumpTask.Holds, PumpTask.goTo, holds]
      · refine quietly rfl rfl rfl (told.goTo (by rw [waiting]; nofun) ?_)
        simp only [PumpTask.Holds, waiting] at holds
        simp [PumpTask.Holds, PumpTask.goTo, holds]
  | @sent output sending =>
      refine h.repump distinct found rfl rfl rfl ?_ (told.send sending)
      intro posting member other concerned
      rw [List.mem_singleton.mp member] at concerned
      exact Posting.concerns_output.mp concerned
  | notified notifying =>
      refine h.repump distinct found rfl rfl rfl ?_ (told.notify notifying)
      intro posting member other concerned
      rw [List.mem_singleton.mp member] at concerned
      exact Posting.concerns_notice.mp concerned

theorem moves (h : Narrated live) (attended : Attended live) (moves : Moves store arrival live live') :
    Narrated live' := by
  cases moves with
  | stays => exact h
  | channel => exact h.same rfl rfl
  | works works =>
      obtain ⟨-, pumps, log⟩ := works.frame
      exact h.same pumps log
  | routes routes => exact h.routes attended routes
  | pumps found pumps => exact h.pumps attended found pumps

end Narrated

end LiveConnection

end TerminalAgent
