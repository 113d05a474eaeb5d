import TerminalAgent.Proofs.Router.Answers
import TerminalAgent.Proofs.Router.Moves
import TerminalAgent.Proofs.Session.Retirement

/-! # Who waits for which call

Router and pumps make calls on the registry and wait for their ends. What they are about to do or to
send fits the call that they have made, and each session that was started is announced by the router
once and has one pump.
-/

namespace TerminalAgent

namespace Connection

/-- Whether a message of this type says of the session with this id that all went well. -/
def isNormal (typ id : String) (message : Message) : Bool :=
  message.proto = Proto.shell && message.typ = typ && message.status? = some .normal &&
    message.sessionId? = some id

section
variable {typ id : String}

theorem isNormal_iff {message : Message} : isNormal typ id message = true ↔
    message.proto = Proto.shell ∧ message.typ = typ ∧ message.status? = some .normal ∧
      message.sessionId? = some id := by
  simp only [isNormal, Bool.and_eq_true, decide_eq_true_eq, and_assoc]

theorem isNormal_startedReply {other : String} :
    isNormal typ id (startedReply other) = true ↔ typ = Kind.spawn ∧ id = other := by
  rw [isNormal_iff]
  simp [startedReply, Message.new, eq_comm]

theorem isNormal_outputMessage {other : String} {output : Output} :
    isNormal typ id (outputMessage other output) = true ↔ typ = Kind.shell ∧ id = other := by
  rw [isNormal_iff]
  simp [outputMessage, Message.new, eq_comm]

theorem isNormal_stopNotice {other : String} :
    isNormal typ id (stopNotice other) = true ↔ typ = Kind.stop ∧ id = other := by
  rw [isNormal_iff]
  simp [stopNotice, Message.new, eq_comm]

theorem isNormal_error {error : RequestError} {proto : UInt16} {kind : String}
    {id? : Option String} : isNormal typ id (error.reply proto kind id?) = false := by
  rw [Bool.eq_false_iff, ne_eq, isNormal_iff, RequestError.reply_status?]
  simp

/-- What is answered at once says of no session that all went well. -/
theorem isNormal_of_intake {fresh : String} {bytes : Bytes} {reply : Message}
    (h : intake fresh bytes = .answer (some reply)) : isNormal typ id reply = false := by
  unfold intake at h
  split at h
  next =>
    cases h
    exact isNormal_error
  next =>
    split at h
    next =>
      cases h
      exact isNormal_error
    next =>
      split at h
      next => cases h
      next =>
        obtain answer := Intake.answer.inj h
        unfold plainReply? at answer
        split at answer
        next =>
          cases answer
          rw [Bool.eq_false_iff, ne_eq, isNormal_iff]
          rintro ⟨proto, -⟩
          exact absurd proto (by simp [pongReply, Message.new]; decide)
        next => cases answer

theorem asks_of_intake {fresh : String} {bytes : Bytes} {message : Message}
    {request : Registry.Request} (h : intake fresh bytes = .ask message request) :
    message.proto = Proto.shell ∧ Asks fresh message request := by
  unfold intake at h
  split at h
  next => cases h
  next =>
    split at h
    next => cases h
    next =>
      split at h
      next asked =>
        cases h
        exact asks_of_request asked
      next => cases h

/-- The reply to a request says that a session was stopped, if anything. -/
theorem isNormal_replyTo {message answer : Message} {request : Registry.Request}
    {reply : Registry.Reply} (notSpawned : request.spawned? = none ∨ reply ≠ .done)
    (h : replyTo message request reply = some answer) (normal : isNormal typ id answer = true) :
    ∃ code, reply = .exited code ∧ ∃ target, request = .stop target ∧
      answer = (Message.responseTo message).withStatus .normal := by
  cases reply with
  | failed error =>
      have same : (RequestError.session error).reply message.proto message.typ
          message.sessionId? = answer := by
        cases request <;> exact Option.some.inj h
      rw [← same, isNormal_error] at normal
      cases normal
  | exited code =>
      cases request with
      | stop target =>
          cases h
          exact ⟨code, rfl, target, rfl, rfl⟩
      | spawn | write | resize | reap | shutdown => cases h
  | done =>
      cases request with
      | spawn => simp [Registry.Request.spawned?] at notSpawned
      | write | resize | stop | reap | shutdown => cases h
  | reaped => cases request <;> cases h

end

end Connection

/-! ## Calls -/

namespace Registry

variable {π σ : Type}

namespace Shared

variable {shared : Shared π σ}

/-- What each call wants, and the id of the session that it has taken. -/
def aims (shared : Shared π σ) : List (Request × Option String) :=
  shared.calls.map fun call => (call.request, call.took)

@[simp] theorem aims_alter (shared : Shared π σ) (id : String)
    (f : RunningSession π → RunningSession π) : (shared.alter id f).aims = shared.aims := by
  rw [aims, calls_alter, aims]

theorem aims_begin (shared : Shared π σ) (request : Request) :
    ∃ took, (shared.begin request).aims = shared.aims ++ [(request, took)] := by
  obtain ⟨call, calls, rfl, -⟩ := shared.calls_begin request
  exact ⟨call.took, by rw [aims, calls, List.map_append]; rfl⟩

theorem aims_settle {n : Nat} {call : Call π} (found : shared.calls[n]? = some call) (reply : Reply) :
    (shared.settle n call reply).aims = shared.aims := by
  obtain ⟨front, back, before, after⟩ := settle_split found reply
  rw [aims, after, aims, before]
  simp [Call.answered]

theorem aims_resume (shared : Shared π σ) (store : RecordingStore σ) (host : Host π) (n : Nat) :
    (shared.resume store host n).aims = shared.aims := by
  obtain same | ⟨call, reply, found, calls⟩ := shared.calls_resume store host n
  · rw [aims, same, aims]
  · rw [← aims_settle found reply, aims, calls]
    rfl

end Shared

namespace Consistent

variable {shared : Shared π σ}

theorem alter (h : Consistent shared) (id : String) {f : RunningSession π → RunningSession π}
    (tame : RunningSession.Tame f) : Consistent (shared.alter id f) := by
  unfold Shared.alter
  split
  next session found =>
    obtain ⟨slot, -⟩ := find?_eq_some.mp found
    refine h.alike (fun previous => by simp [slot]) ?_ fun {_ other} found => ⟨other, found, rfl⟩
    simp only [activeId?, slot, Slot.running?, Option.map_some, tame.id]
  next =>
    refine h.alike (fun _ => Iff.rfl) rfl fun {place other} found => ?_
    rw [List.getElem?_map, found]
    refine ⟨_, rfl, ?_⟩
    dsimp only
    split
    next => exact tame.id other
    next => rfl

theorem setRetired (h : Consistent shared) {place : Nat} {session session' : RunningSession π}
    (found : shared.retired[place]? = some session) (same : session'.pty.id = session.pty.id) :
    Consistent { shared with retired := shared.retired.set place session' } := by
  refine h.alike (fun _ => Iff.rfl) rfl fun {other before} there => ?_
  rw [List.getElem?_set]
  split
  next here =>
    subst here
    obtain rfl := Option.some.inj (found.symm.trans there)
    rw [if_pos (List.getElem?_eq_some_iff.mp found).1]
    exact ⟨_, rfl, same⟩
  next => exact ⟨before, there, rfl⟩

/-- A session is taken by one call at most. -/
theorem takenOnce (h : Consistent shared) (id : String) :
    shared.calls.countP (Call.hasTaken id) ≤ 1 := by
  by_cases nobody : shared.calls.countP (Call.hasTaken id) = 0
  · rw [nobody]
    exact Nat.zero_le 1
  · obtain ⟨call, member, took⟩ := List.countP_pos_iff.mp (Nat.pos_of_ne_zero nobody)
    obtain ⟨starter, member, started⟩ := h.taken call member (of_decide_eq_true took)
    rw [h.once starter member started]
    split
    next => exact Nat.zero_le 1
    next => exact Nat.le_refl 1

/-- A call to stop or reap a session that was not refused has taken this session. -/
theorem took_of_ended (h : Consistent shared) {n : Nat} {request : Request} {target : String}
    {took : Option String} {reply : Reply} (aim : shared.aims[n]? = some (request, took))
    (retires : request = .stop target ∨ request = .reap target)
    (ended : shared.reply? n = some reply) (accepted : reply ≠ request.refusal) :
    took = some target := by
  obtain ⟨call, found, stage⟩ := Shared.reply?_eq_some ended
  rw [Shared.aims, List.getElem?_map, found] at aim
  obtain ⟨rfl, rfl⟩ := Prod.mk.inj (Option.some.inj aim)
  obtain took | refused := (h.proper call (List.mem_of_getElem? found)).of_target retires
  · exact took
  · rw [stage] at refused
    exact absurd (Stage.ended.inj refused) accepted

end Consistent

end Registry

namespace LiveConnection

open Connection (isNormal)
open Registry (Shared Request Reply Call Consistent)

variable {π σ : Type} {store : RecordingStore σ} {live live' : LiveConnection π σ}

/-- The ids of the sessions that calls start. -/
def ids (live : LiveConnection π σ) : List String :=
  live.shared.aims.filterMap fun aim => aim.1.spawned?

theorem distinct_of_nodup (fresh : live.ids.Nodup) :
    live.shared.calls.Pairwise Registry.Distinct := by
  rw [ids, Shared.aims, List.filterMap_map] at fresh
  refine (List.pairwise_filterMap.mp fresh).imp fun {a b} differs id spawnsA spawnsB => ?_
  exact differs id spawnsA id spawnsB rfl

theorem Works.aims (works : Works store live live') : live'.shared.aims = live.shared.aims := by
  cases works with
  | useStore | kill | detach => rfl
  | progress => exact Shared.aims_alter ..
  | spawn => exact Shared.aims_resume ..
  | use found => exact (Shared.aims_settle (by simpa using found) _).trans (Shared.aims_alter ..)
  | settle found => exact Shared.aims_settle found _

theorem Works.consistent (works : Works store live live') (h : Consistent live.shared)
    (fresh : live.ids.Nodup) : Consistent live'.shared := by
  cases works with
  | useStore s => exact h.alike (fun _ => Iff.rfl) rfl fun {_ other} found => ⟨other, found, rfl⟩
  | progress id tame s =>
      have altered := h.alter id tame
      exact altered.alike (fun _ => Iff.rfl) rfl fun {_ other} found => ⟨other, found, rfl⟩
  | spawn _ _ host => exact h.resume host store (distinct_of_nodup fresh) _
  | @use n call found id stage f tame reply =>
      exact (h.alter id tame).leave reply (by simpa using found) (.inl ⟨id, stage⟩)
  | @kill n call found place stage session retired host =>
      obtain ⟨process, stopped⟩ := RunningSession.stop_cases host session.pty
      exact h.setRetired retired (by rw [stopped])
  | detach found stage retired => exact h.setRetired retired rfl
  | @settle n call found place stage => exact h.leave _ found (.inr ⟨place, stage⟩)

end LiveConnection

/-! ## Router and pumps -/

/-- The id of the session that the router starts and has not announced. -/
def Routing.pending : Routing → List String
  | .calling _ _ (.spawn id _) => [id]
  | .announcing id => [id]
  | _ => []

namespace LiveConnection

open Connection (isNormal)
open Registry (Shared Request Reply Call Consistent)

variable {π σ : Type} {store : RecordingStore σ} {live live' : LiveConnection π σ}
  {arrival : Option (String × Bytes)}

/-- What router and pumps are about to do fits the calls that they have made. -/
structure Attended (live : LiveConnection π σ) : Prop where
  calling : ∀ {n message request}, live.routing = .calling n message request →
    (message.proto = Proto.shell ∧ ∃ fresh, Connection.Asks fresh message request) ∧
      ∃ took, live.shared.aims[n]? = some (request, took)
  /-- A reply says that a session was stopped, if anything. -/
  replying : ∀ {reply}, live.routing = .replying reply →
    ∀ {typ id}, isNormal typ id reply = true → typ = Kind.stop
  reaping : ∀ task ∈ live.pumps, ∀ {n}, task.stage = .reaping n →
    ∃ took, live.shared.aims[n]? = some (.reap task.id, took)
  /-- Each session is announced once. -/
  distinct : (live.pumps.map PumpTask.id ++ live.routing.pending).Nodup
  known : ∀ id ∈ live.pumps.map PumpTask.id ++ live.routing.pending, id ∈ live.ids

/-- What a call is for is known from when it began. -/
theorem aim_append {aims more : List (Request × Option String)} {n : Nat}
    {aim : Request × Option String} (found : aims[n]? = some aim) : (aims ++ more)[n]? = some aim :=
  (List.getElem?_append_left (List.getElem?_eq_some_iff.mp found).1).trans found

namespace Attended

/-- Nothing changes for router and pumps. -/
theorem same (h : Attended live) (routing : live'.routing = live.routing)
    (pumps : live'.pumps = live.pumps) (aims : live'.shared.aims = live.shared.aims) :
    Attended live' := by
  have ids : live'.ids = live.ids := by rw [LiveConnection.ids, aims, LiveConnection.ids]
  constructor
  case calling => rw [routing, aims]; exact h.calling
  case replying => rw [routing]; exact h.replying
  case reaping => rw [pumps, aims]; exact h.reaping
  case distinct => rw [routing, pumps]; exact h.distinct
  case known => rw [routing, pumps, ids]; exact h.known

/-- The router is done with a call or a message. -/
theorem reroute (h : Attended live) (pumps : live'.pumps = live.pumps)
    (aims : live'.shared.aims = live.shared.aims)
    (pending : live'.routing.pending.Sublist live.routing.pending)
    (calling : ∀ n message request, live'.routing ≠ .calling n message request)
    (replying : ∀ {reply}, live'.routing = .replying reply →
      ∀ {typ id}, isNormal typ id reply = true → typ = Kind.stop) : Attended live' := by
  have ids : live'.ids = live.ids := by rw [LiveConnection.ids, aims, LiveConnection.ids]
  have fewer : (live'.pumps.map PumpTask.id ++ live'.routing.pending).Sublist
      (live.pumps.map PumpTask.id ++ live.routing.pending) := by
    rw [pumps]
    exact (List.Sublist.refl _).append pending
  constructor
  case calling => exact fun now => absurd now (calling _ _ _)
  case replying => exact replying
  case reaping => rw [pumps, aims]; exact h.reaping
  case distinct => exact h.distinct.sublist fewer
  case known =>
    intro id member
    rw [ids]
    exact h.known id (fewer.subset member)

/-- A call begins. -/
theorem call (h : Attended live) {request : Request} {took : Option String}
    (pumps : live'.pumps = live.pumps)
    (aims : live'.shared.aims = live.shared.aims ++ [(request, took)]) (fresh : live'.ids.Nodup)
    (idle : live.routing.pending = [])
    (pending : live'.routing.pending = request.spawned?.toList)
    (calling : ∀ {n message request'}, live'.routing = .calling n message request' →
      n = live.shared.aims.length ∧ request' = request ∧
        message.proto = Proto.shell ∧ ∃ fresh, Connection.Asks fresh message request)
    (replying : ∀ reply, live'.routing ≠ .replying reply) : Attended live' := by
  have ids : live'.ids = live.ids ++ request.spawned?.toList := by
    rw [LiveConnection.ids, aims, List.filterMap_append, LiveConnection.ids]
    cases request <;> rfl
  constructor
  case calling =>
    intro n message request' now
    obtain ⟨rfl, rfl, asks⟩ := calling now
    exact ⟨asks, took, by rw [aims, List.getElem?_concat_length]⟩
  case replying => exact fun now => absurd now (replying _)
  case reaping =>
    intro task member n reaping
    rw [pumps] at member
    obtain ⟨took, aim⟩ := h.reaping task member reaping
    exact ⟨took, aims ▸ aim_append aim⟩
  case distinct =>
    rw [pumps, pending]
    have before := h.distinct
    rw [idle, List.append_nil] at before
    rw [ids, List.nodup_append] at fresh
    refine List.nodup_append.mpr ⟨before, fresh.2.1, fun id member other new => ?_⟩
    have known := h.known id (List.mem_append_left _ member)
    exact fresh.2.2 id known other new
  case known =>
    intro id member
    rw [pumps, pending] at member
    rw [ids, List.mem_append]
    obtain member | new := List.mem_append.mp member
    · exact .inl (h.known id (List.mem_append_left _ member))
    · exact .inr new

/-- The session that was pending is announced, and its pump begins. -/
theorem announce (h : Attended live) {id : String} (announcing : live.routing = .announcing id)
    (routing : live'.routing = .listening) (pumps : live'.pumps = live.pumps ++ [.new id])
    (aims : live'.shared.aims = live.shared.aims) : Attended live' := by
  have ids : live'.ids = live.ids := by rw [LiveConnection.ids, aims, LiveConnection.ids]
  have same : live'.pumps.map PumpTask.id ++ live'.routing.pending =
      live.pumps.map PumpTask.id ++ live.routing.pending := by
    rw [routing, announcing, pumps, List.map_append]
    exact List.append_nil _
  constructor
  case calling => rw [routing]; nofun
  case replying => rw [routing]; nofun
  case reaping =>
    intro task member n reaping
    rw [pumps, List.mem_append, List.mem_singleton] at member
    rw [aims]
    obtain member | rfl := member
    · exact h.reaping task member reaping
    · cases reaping
  case distinct => rw [same]; exact h.distinct
  case known => rw [same, ids]; exact h.known

/-- A pump goes on. -/
theorem repump (h : Attended live) {n : Nat} {task task' : PumpTask}
    (found : live.pumps[n]? = some task) (pumps : live'.pumps = live.pumps.set n task')
    (id : task'.id = task.id) (routing : live'.routing = live.routing)
    {more : List (Request × Option String)} (aims : live'.shared.aims = live.shared.aims ++ more)
    (reaping : ∀ {m}, task'.stage = .reaping m →
      ∃ took, live'.shared.aims[m]? = some (.reap task.id, took)) : Attended live' := by
  have ids : live'.pumps.map PumpTask.id = live.pumps.map PumpTask.id := by
    obtain ⟨inRange, rfl⟩ := List.getElem?_eq_some_iff.mp found
    rw [pumps, List.map_set, id, ← List.getElem_map PumpTask.id (h := by simpa using inRange),
      List.set_getElem_self]
  constructor
  case calling =>
    intro m message request now
    rw [routing] at now
    obtain ⟨asks, took, aim⟩ := h.calling now
    exact ⟨asks, took, aims ▸ aim_append aim⟩
  case replying => rw [routing]; exact h.replying
  case reaping =>
    intro other member m stage
    rw [pumps] at member
    obtain member | rfl := List.mem_or_eq_of_mem_set member
    · obtain ⟨took, aim⟩ := h.reaping other member stage
      exact ⟨took, aims ▸ aim_append aim⟩
    · rw [id]
      exact reaping stage
  case distinct => rw [ids, routing]; exact h.distinct
  case known =>
    intro other member
    rw [ids, routing] at member
    rw [LiveConnection.ids, aims, List.filterMap_append]
    exact List.mem_append_left _ (h.known other member)

theorem concluded_cases (message : Message) (request : Request) (reply : Reply) :
    (∃ id size, request = .spawn id size ∧ reply = .done ∧
        Routing.concluded message request reply = .announcing id) ∨
      (request.spawned? = none ∨ reply ≠ .done) ∧
        Routing.concluded message request reply =
          .toSend (Connection.replyTo message request reply) := by
  cases request with
  | spawn id size =>
      cases reply with
      | done => exact .inl ⟨id, size, rfl, rfl, rfl⟩
      | exited | reaped | failed => exact .inr ⟨.inr nofun, rfl⟩
  | write | resize | stop | reap | shutdown => exact .inr ⟨.inl rfl, rfl⟩

theorem pending_toSend (reply? : Option Message) : (Routing.toSend reply?).pending = [] := by
  cases reply? <;> rfl

theorem toSend_ne_calling (reply? : Option Message) (n : Nat) (message : Message)
    (request : Request) : Routing.toSend reply? ≠ .calling n message request := by
  cases reply? <;> nofun

theorem toSend_eq_replying {reply? : Option Message} {reply : Message}
    (h : Routing.toSend reply? = .replying reply) : reply? = some reply := by
  cases reply? with
  | none => cases h
  | some => cases h; rfl

/-- When an operation has ended, its session is announced or a reply is sent. -/
theorem concluded (h : Attended live) {n : Nat} {message : Message} {request : Request}
    (calling : live.routing = .calling n message request) (reply : Reply) :
    Attended { live with routing := .concluded message request reply } := by
  obtain ⟨id, size, rfl, rfl, announcing⟩ | ⟨notSpawned, sending⟩ :=
    concluded_cases message request reply
  · refine h.reroute rfl rfl ?_ (by rw [announcing]; nofun) (by rw [announcing]; nofun)
    rw [announcing, calling]
    exact List.Sublist.refl _
  · refine h.reroute rfl rfl ?_ ?_ ?_
    · rw [sending, pending_toSend]
      exact List.nil_sublist _
    · rw [sending]
      exact toSend_ne_calling _
    · intro answer now typ id normal
      rw [sending] at now
      obtain ⟨code, rfl, target, rfl, rfl⟩ :=
        Connection.isNormal_replyTo notSpawned (toSend_eq_replying now) normal
      obtain ⟨⟨-, fresh, asks⟩, -⟩ := h.calling calling
      cases asks with
      | stop stops =>
          have typ := (Connection.isNormal_iff.mp normal).2.1
          rw [← typ, Message.typ_withStatus, Message.typ_responseTo, stops]

theorem routes (h : Attended live) (fresh : live'.ids.Nodup) (routes : Routes arrival live live') :
    Attended live' := by
  cases routes with
  | @answered fresh bytes arrived listening reply? intake =>
      refine h.reroute rfl rfl ?_ (toSend_ne_calling reply?) ?_
      · rw [pending_toSend]
        exact List.nil_sublist _
      · intro reply now typ id normal
        rw [toSend_eq_replying now] at intake
        rw [Connection.isNormal_of_intake intake] at normal
        cases normal
  | @asked fresh bytes arrived listening message request intake =>
      obtain ⟨shell, asks⟩ := Connection.asks_of_intake intake
      obtain ⟨took, aims⟩ := live.shared.aims_begin request
      refine h.call rfl aims ‹_› (by rw [listening]; rfl) ?_ ?_ nofun
      · cases request <;> rfl
      · rintro n message request' ⟨⟩
        exact ⟨by simp [Shared.aims], rfl, shell, _, asks⟩
  | concluded calling => exact h.concluded calling _
  | announced announcing => exact h.announce announcing rfl rfl rfl
  | unheard =>
      exact h.reroute rfl (Shared.aims_alter ..) (List.nil_sublist _) nofun nofun
  | replied | broken | closed | complete =>
      exact h.reroute rfl rfl (List.nil_sublist _) nofun nofun
  | stopping closing =>
      obtain ⟨took, aims⟩ := live.shared.aims_begin .shutdown
      exact h.call rfl aims fresh (by rw [closing]; rfl) rfl nofun nofun

theorem pumps (h : Attended live) {n : Nat} {task : PumpTask} (found : live.pumps[n]? = some task)
    (pumps : Pumps live n task live') : Attended live' := by
  have aims : live.shared.aims = live.shared.aims ++ [] := (List.append_nil _).symm
  cases pumps with
  | taken =>
      exact h.repump found rfl rfl rfl ((Shared.aims_alter ..).trans aims) nofun
  | dismissed =>
      exact h.repump found rfl rfl rfl ((Shared.aims_alter ..).trans aims) nofun
  | drained | sent | reaped | refused | notified | unnoticed =>
      exact h.repump found rfl rfl rfl aims nofun
  | reaping =>
      obtain ⟨took, aims⟩ := live.shared.aims_begin (.reap task.id)
      refine h.repump found rfl rfl rfl aims ?_
      rintro m ⟨⟩
      have now : ((live.begin (.reap task.id)).setPump n
        (task.goTo (.reaping live.shared.calls.length))).shared.aims = _ := aims
      have place : live.shared.calls.length = live.shared.aims.length := by simp [Shared.aims]
      exact ⟨took, by rw [now, place, List.getElem?_concat_length]⟩

theorem moves (h : Attended live) (fresh : live'.ids.Nodup) (moves : Moves store arrival live live') :
    Attended live' := by
  cases moves with
  | stays => exact h
  | channel => exact h.same rfl rfl rfl
  | works works =>
      obtain ⟨routing, pumps, -⟩ := works.frame
      exact h.same routing pumps works.aims
  | routes routes => exact h.routes fresh routes
  | pumps found pumps => exact h.pumps found pumps

end Attended

end LiveConnection

end TerminalAgent
