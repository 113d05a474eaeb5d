import TerminalAgent.Proofs.Router.Narration

/-! # Who is to say that a session was stopped

A session is stopped by the call that has taken it out of its slot. Whoever made that call says so, or
will, and nobody else does: what was said and what is still to be said are as many as the calls that
have taken the session.
-/

namespace TerminalAgent

open Connection (isNormal)

open Registry (Request)

/-- Whether the call with this number has taken this session. -/
def tookAt (aims : List (Request × Option String)) (n : Nat) (id : String) : Bool :=
  aims[n]?.any fun aim => aim.2 = some id

/-- Whether the router is to say that a session was stopped. -/
def Routing.owes (aims : List (Request × Option String)) (id : String) : Routing → Bool
  | .replying reply => isNormal Kind.stop id reply
  | .calling n _ (.stop _) => tookAt aims n id
  | _ => false

/-- Whether a pump is to say that a session was stopped. -/
def PumpTask.owes (aims : List (Request × Option String)) (id : String) (task : PumpTask) : Bool :=
  match task.stage with
  | .reaping n => tookAt aims n id
  | .notifying => task.id = id
  | _ => false

theorem tookAt_append {aims more : List (Request × Option String)} {n : Nat}
    {aim : Request × Option String} (found : aims[n]? = some aim) (id : String) :
    tookAt (aims ++ more) n id = tookAt aims n id := by
  rw [tookAt, LiveConnection.aim_append found, tookAt, found]

theorem tookAt_new {aims : List (Request × Option String)} {aim : Request × Option String}
    (id : String) : tookAt (aims ++ [aim]) aims.length id = decide (aim.2 = some id) := by
  rw [tookAt, List.getElem?_concat_length, Option.any_some]

namespace LiveConnection

open Registry (Shared Reply Call Consistent)

variable {π σ : Type} {store : RecordingStore σ} {live live' : LiveConnection π σ}
  {arrival : Option (String × Bytes)}

/-- How often it was said, or is to be said, that a session was stopped. -/
def stops (live : LiveConnection π σ) (id : String) : Nat :=
  live.log.countP (Posting.tells Kind.stop id) +
    (live.routing.owes live.shared.aims id).toNat +
    live.pumps.countP (PumpTask.owes live.shared.aims id)

/-- Who says that a session was stopped has taken it. -/
def Accounted (live : LiveConnection π σ) (id : String) : Prop :=
  live.stops id ≤ live.shared.aims.countP fun aim => aim.2 = some id

/-- What is counted of a list when one of its items is replaced. -/
theorem countP_set_add {α : Type} (p : α → Bool) {l : List α} {n : Nat} {a : α}
    (found : l[n]? = some a) (b : α) :
    (l.set n b).countP p + (p a).toNat = l.countP p + (p b).toNat := by
  obtain ⟨inRange, rfl⟩ := List.getElem?_eq_some_iff.mp found
  rw [List.countP_set inRange]
  cases before : p l[n] with
  | false => cases p b <;> rfl
  | true =>
      have counted : 0 < l.countP p := List.countP_pos_iff.mpr ⟨_, List.getElem_mem inRange, before⟩
      cases p b <;> simp only [if_true, Bool.false_eq_true, if_false, Bool.toNat_true,
        Bool.toNat_false] <;> omega

namespace Accounted

variable {id : String}

/-- What is said or to be said anew is made up for by what was to be said, and by new calls. -/
theorem goOn (h : Accounted live id) {more : List (Request × Option String)}
    {postings : List Posting} (aims : live'.shared.aims = live.shared.aims ++ more)
    (log : live'.log = live.log ++ postings)
    (balance : postings.countP (Posting.tells Kind.stop id) +
        (live'.routing.owes live'.shared.aims id).toNat +
        live'.pumps.countP (PumpTask.owes live'.shared.aims id) ≤
      (live.routing.owes live.shared.aims id).toNat +
        live.pumps.countP (PumpTask.owes live.shared.aims id) +
        more.countP fun aim => aim.2 = some id) : Accounted live' id := by
  unfold Accounted stops at h ⊢
  rw [aims] at balance
  rw [log, aims, List.countP_append, List.countP_append]
  omega

/-- What a pump is to say does not depend on later calls. -/
theorem task_append (attended : Attended live) (more : List (Request × Option String))
    {task : PumpTask} (member : task ∈ live.pumps) :
    task.owes (live.shared.aims ++ more) id = task.owes live.shared.aims id := by
  unfold PumpTask.owes
  cases stage : task.stage with
  | reaping n =>
      obtain ⟨took, aim⟩ := attended.reaping task member stage
      exact tookAt_append aim id
  | waiting | sending | finished | notifying | left => rfl

theorem tasks_append (attended : Attended live) (more : List (Request × Option String)) :
    live.pumps.countP (PumpTask.owes (live.shared.aims ++ more) id) =
      live.pumps.countP (PumpTask.owes live.shared.aims id) :=
  List.countP_congr fun task member => by rw [task_append attended more member]

/-- Nor does what the router is to say. -/
theorem routing_append (attended : Attended live) (more : List (Request × Option String)) :
    live.routing.owes (live.shared.aims ++ more) id = live.routing.owes live.shared.aims id := by
  cases routing : live.routing with
  | calling n message request =>
      obtain ⟨-, took, aim⟩ := attended.calling routing
      cases request with
      | stop => exact tookAt_append aim id
      | spawn | write | resize | reap | shutdown => rfl
  | listening | announcing | replying | closing | stopping | complete => rfl

/-- Neither router nor pumps are to say something new, and nothing was said. -/
theorem same (h : Accounted live id) (routing : live'.routing = live.routing)
    (pumps : live'.pumps = live.pumps) (log : live'.log = live.log)
    (aims : live'.shared.aims = live.shared.aims) : Accounted live' id := by
  refine h.goOn (aims.trans (List.append_nil _).symm) (log.trans (List.append_nil _).symm) ?_
  rw [routing, pumps, aims]
  simp

/-- The router goes on without a call. -/
theorem reroute (h : Accounted live id) (pumps : live'.pumps = live.pumps)
    (aims : live'.shared.aims = live.shared.aims) {postings : List Posting}
    (log : live'.log = live.log ++ postings)
    (balance : postings.countP (Posting.tells Kind.stop id) +
      (live'.routing.owes live.shared.aims id).toNat ≤
        (live.routing.owes live.shared.aims id).toNat) : Accounted live' id := by
  refine h.goOn (aims.trans (List.append_nil _).symm) log ?_
  rw [pumps, aims]
  simp only [List.countP_nil]
  omega

/-- The router begins a call. -/
theorem call (h : Accounted live id) (attended : Attended live) {request : Request}
    {took : Option String} (pumps : live'.pumps = live.pumps) (log : live'.log = live.log)
    (aims : live'.shared.aims = live.shared.aims ++ [(request, took)])
    (owes : live'.routing.owes live'.shared.aims id = true → took = some id) :
    Accounted live' id := by
  refine h.goOn aims (log.trans (List.append_nil _).symm) ?_
  rw [pumps, aims, tasks_append attended, ← aims, List.countP_singleton]
  cases now : live'.routing.owes live'.shared.aims id with
  | false => simp only [List.countP_nil, Bool.toNat_false]; omega
  | true => simp only [owes now, decide_true, if_true, List.countP_nil, Bool.toNat_true]; omega

/-- A pump goes on. -/
theorem repump (h : Accounted live id) (attended : Attended live) {n : Nat} {task task' : PumpTask}
    (found : live.pumps[n]? = some task) (pumps : live'.pumps = live.pumps.set n task')
    (routing : live'.routing = live.routing) {more : List (Request × Option String)}
    (aims : live'.shared.aims = live.shared.aims ++ more) {postings : List Posting}
    (log : live'.log = live.log ++ postings)
    (balance : postings.countP (Posting.tells Kind.stop id) +
      (task'.owes live'.shared.aims id).toNat ≤
        (task.owes live.shared.aims id).toNat + more.countP fun aim => aim.2 = some id) :
    Accounted live' id := by
  have member := List.mem_of_getElem? found
  have change := countP_set_add (PumpTask.owes (live.shared.aims ++ more) id) found task'
  rw [task_append attended more member, tasks_append attended] at change
  rw [aims] at balance
  refine h.goOn aims log ?_
  rw [pumps, routing, aims, routing_append attended]
  omega

/-- The end of a call makes the router owe no more than the call did. -/
theorem owes_concluded (consistent : Consistent live.shared) (attended : Attended live) {n : Nat}
    {message : Message} {request : Request} (calling : live.routing = .calling n message request)
    {reply : Reply} (ended : live.shared.reply? n = some reply)
    (owes : (Routing.concluded message request reply).owes live.shared.aims id = true) :
    live.routing.owes live.shared.aims id = true := by
  obtain ⟨⟨-, fresh, asks⟩, took, aim⟩ := attended.calling calling
  obtain ⟨other, size, rfl, rfl, announcing⟩ | ⟨notSpawned, sending⟩ :=
    Attended.concluded_cases message request reply
  · rw [announcing] at owes
    cases owes
  · rw [sending] at owes
    cases answered : Connection.replyTo message request reply with
    | none =>
        rw [answered] at owes
        cases owes
    | some answer =>
        rw [answered] at owes
        obtain ⟨code, rfl, target, rfl, rfl⟩ :=
          Connection.isNormal_replyTo notSpawned answered owes
        -- The reply names the session that the message named, which is the one that was taken.
        obtain rfl : took = some target := consistent.took_of_ended aim (.inl rfl) ended (by rintro ⟨⟩)
        have named : message.sessionId? = some id := by
          have said := (Connection.isNormal_iff.mp owes).2.2.2
          rwa [Message.sessionId?_withStatus, Message.sessionId?_responseTo] at said
        cases asks with
        | stop =>
            have target : Connection.targetId message = id := by
              rw [Connection.targetId, named, Option.getD_some]
            rw [calling]
            simp only [Routing.owes, tookAt, aim, Option.any_some, target, decide_true]

theorem routes (h : Accounted live id) (consistent : Consistent live.shared)
    (attended : Attended live) (routes : Routes arrival live live') : Accounted live' id := by
  have log : live.log = live.log ++ [] := (List.append_nil _).symm
  cases routes with
  | @answered fresh bytes arrived listening reply? intake =>
      refine h.reroute rfl rfl log ?_
      cases reply? with
      | none => simp [Routing.toSend, Routing.owes]
      | some reply =>
          simp [Routing.toSend, Routing.owes, Connection.isNormal_of_intake intake]
  | @asked fresh bytes arrived listening message request intake =>
      obtain ⟨took, aims⟩ := live.shared.aims_begin request
      refine h.call attended rfl rfl aims fun owes => ?_
      have place : live.shared.calls.length = live.shared.aims.length := by simp [Shared.aims]
      have grown : ({ live.begin request with
        routing := .calling live.shared.calls.length message request } :
          LiveConnection π σ).shared.aims = _ := aims
      rw [grown] at owes
      cases request with
      | stop => simpa only [Routing.owes, place, tookAt_new, decide_eq_true_eq] using owes
      | spawn | write | resize | reap | shutdown => cases owes
  | @concluded n message request calling reply ended =>
      refine h.reroute rfl rfl log ?_
      have fewer : (Routing.concluded message request reply).owes live.shared.aims id = true →
          live.routing.owes live.shared.aims id = true :=
        owes_concluded consistent attended calling ended
      cases now : (Routing.concluded message request reply).owes live.shared.aims id with
      | false => simp
      | true => simp [fewer now]
  | @announced id' announcing =>
      have notStop : isNormal Kind.stop id (Connection.startedReply id') = false := by
        rw [Bool.eq_false_iff, ne_eq, Connection.isNormal_startedReply]
        exact fun both => absurd both.1 (by decide)
      refine h.goOn (List.append_nil _).symm rfl ?_
      have started : (PumpTask.new id').owes live.shared.aims id = false := rfl
      simp [notStop, Routing.owes, started, LiveConnection.post]
  | unheard announcing =>
      refine h.reroute rfl (Shared.aims_alter ..) log ?_
      simp [Routing.owes, LiveConnection.close]
  | replied replying =>
      refine h.reroute rfl rfl rfl ?_
      rw [replying, List.countP_singleton]
      simp only [Routing.owes]
      split <;> simp_all
  | broken | closed | complete =>
      refine h.reroute rfl rfl log ?_
      simp [Routing.owes, LiveConnection.close]
  | stopping closing =>
      obtain ⟨took, aims⟩ := live.shared.aims_begin .shutdown
      exact h.call attended rfl rfl aims (by rintro ⟨⟩)

theorem pumps (h : Accounted live id) (consistent : Consistent live.shared)
    (attended : Attended live) {n : Nat} {task : PumpTask} (found : live.pumps[n]? = some task)
    (pumps : Pumps live n task live') : Accounted live' id := by
  have aims : live.shared.aims = live.shared.aims ++ [] := (List.append_nil _).symm
  have log : live.log = live.log ++ [] := (List.append_nil _).symm
  cases pumps with
  | taken =>
      exact h.repump attended found rfl rfl ((Shared.aims_alter ..).trans aims) log
        (by simp [PumpTask.owes, PumpTask.take])
  | dismissed =>
      exact h.repump attended found rfl rfl ((Shared.aims_alter ..).trans aims) log
        (by simp [PumpTask.owes, PumpTask.goTo])
  | drained | refused | unnoticed =>
      exact h.repump attended found rfl rfl aims log (by simp [PumpTask.owes, PumpTask.goTo])
  | @sent output sending =>
      have notStop : isNormal Kind.stop id (Connection.outputMessage task.id output) = false := by
        rw [Bool.eq_false_iff, ne_eq, Connection.isNormal_outputMessage]
        exact fun both => absurd both.1 (by decide)
      exact h.repump attended found rfl rfl aims rfl
        (by simp [PumpTask.owes, PumpTask.send, notStop])
  | reaping finished =>
      obtain ⟨took, aims⟩ := live.shared.aims_begin (.reap task.id)
      refine h.repump attended found rfl rfl aims log ?_
      have place : live.shared.calls.length = live.shared.aims.length := by simp [Shared.aims]
      have grown : ((live.begin (.reap task.id)).setPump n
        (task.goTo (.reaping live.shared.calls.length))).shared.aims = _ := aims
      rw [grown]
      simp only [PumpTask.owes, PumpTask.goTo, place, tookAt_new, List.countP_nil,
        List.countP_singleton]
      cases decide (took = some id) <;> simp
  | @reaped m reaping ended =>
      obtain ⟨took, aim⟩ := attended.reaping task (List.mem_of_getElem? found) reaping
      obtain rfl : took = some task.id := consistent.took_of_ended aim (.inr rfl) ended (by rintro ⟨⟩)
      refine h.repump attended found rfl rfl aims log ?_
      by_cases same : task.id = id <;>
        simp [PumpTask.owes, PumpTask.goTo, reaping, tookAt, aim, same]
  | notified notifying =>
      refine h.repump attended found rfl rfl aims rfl ?_
      have said : isNormal Kind.stop id (Connection.stopNotice task.id) = decide (task.id = id) := by
        rw [Bool.eq_iff_iff, Connection.isNormal_stopNotice, decide_eq_true_eq, eq_comm (a := id)]
        exact ⟨And.right, fun same => ⟨rfl, same⟩⟩
      rw [List.countP_singleton, Posting.tells, said]
      simp only [PumpTask.owes, PumpTask.goTo, notifying]
      cases decide (task.id = id) <;> simp

theorem moves (h : Accounted live id) (consistent : Consistent live.shared)
    (attended : Attended live) (moves : Moves store arrival live live') : Accounted live' id := by
  cases moves with
  | stays => exact h
  | channel => exact h.same rfl rfl rfl rfl
  | works works =>
      obtain ⟨routing, pumps, log⟩ := works.frame
      exact h.same routing pumps log works.aims
  | routes routes => exact h.routes consistent attended routes
  | pumps found pumps => exact h.pumps consistent attended found pumps

end Accounted

end LiveConnection

end TerminalAgent
