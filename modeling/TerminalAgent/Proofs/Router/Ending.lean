import TerminalAgent.Proofs.Router.Tended

/-! # How a connection ends

A connection is over when its pumps are gone and no call is under way. Then no session starts or runs,
and every recording is finished, for whoever takes a session out of its slot finishes it before its
call ends, and every call is waited for.
-/

namespace TerminalAgent

/-! ## Calls that are waited for -/

/-- The number of the call for which the router waits. -/
def Routing.awaited? : Routing → Option Nat
  | .calling n _ _ | .stopping n => some n
  | _ => none

/-- Whether the pumps are gone and whatever runs is stopped, or was. -/
def Routing.ends : Routing → Bool
  | .stopping _ | .complete => true
  | _ => false

theorem Routing.ends_toSend (reply? : Option Message) : (toSend reply?).ends = false := by
  cases reply? <;> rfl

theorem Routing.ends_concluded (message : Message) (request : Registry.Request)
    (reply : Registry.Reply) : (concluded message request reply).ends = false := by
  unfold concluded
  split
  next => rfl
  next => exact ends_toSend _

namespace LiveConnection

open Registry (Shared Request Reply Call Tended)

variable {π σ : Type} {store : RecordingStore σ} {live live' : LiveConnection π σ}

/-- Router or pumps wait for the end of this call. -/
def Awaits (live : LiveConnection π σ) (n : Nat) : Prop :=
  live.routing.awaited? = some n ∨ ∃ task ∈ live.pumps, task.stage = .reaping n

/-- A call that has not ended is waited for. -/
def Owned (live : LiveConnection π σ) : Prop :=
  ∀ (n : Nat) (call : Call π), live.shared.calls[n]? = some call →
    (∃ reply, call.stage = .ended reply) ∨ live.Awaits n

/-- All calls are waited for, and none is made once the pumps are gone. -/
structure Awaited (live : LiveConnection π σ) : Prop where
  owned : live.Owned
  stopping : ∀ {n : Nat}, live.routing = .stopping n →
    ∃ call, live.shared.calls[n]? = some call ∧ call.isSpawning = false
  left : live.routing.ends = true → ∀ task ∈ live.pumps, task.stage = .left
  vacated : live.routing.ends = true → live.shared.registry.slot.running? = none

/-- One call may end when calls or sessions go on, and no call begins. -/
theorem Works.calls (works : Works store live live') : live'.shared.calls = live.shared.calls ∨
    ∃ n call reply, live.shared.calls[n]? = some call ∧
      live'.shared.calls = live.shared.calls.set n (call.answered reply) := by
  cases works with
  | useStore | kill | detach => exact .inl rfl
  | progress => exact .inl (Shared.calls_alter ..)
  | @spawn n _ _ _ _ _ _ host =>
      exact (live.shared.calls_resume store host n).imp_right fun ⟨call, reply, found, calls⟩ =>
        ⟨n, call, reply, found, calls⟩
  | @use n call found id _ f _ reply =>
      exact .inr ⟨n, call, reply, found, congrArg (List.set · n _) (Shared.calls_alter ..)⟩
  | @settle n call found => exact .inr ⟨n, call, _, found, rfl⟩

/-- The slot is filled only by a call that starts a session. -/
theorem Works.slot (works : Works store live live')
    (vacant : live.shared.registry.slot.running? = none) :
    live'.shared.registry.slot.running? = none ∨
      ∃ (n : Nat) (call : Call π), live.shared.calls[n]? = some call ∧ call.isSpawning = true := by
  have altered (id : String) (f : RunningSession π → RunningSession π) :
      (live.shared.alter id f).registry.slot.running? = none := by
    have nobody : live.shared.registry.slot.find? id = none := by
      rw [Slot.find?, vacant, Option.filter_none]
    rw [Shared.alter, nobody]
    exact vacant
  cases works with
  | useStore | kill | detach | settle => exact .inl vacant
  | progress id => exact .inl (altered id _)
  | use => exact .inl (altered _ _)
  | @spawn n call found id size slot stage =>
      exact .inr ⟨n, call, found, by simp [Call.isSpawning, stage]⟩

namespace Awaited

/-- Calls are waited for as before, or have ended. -/
theorem own (h : Awaited live)
    (calls : ∀ {n : Nat} {call : Call π}, live'.shared.calls[n]? = some call →
      (∃ reply, call.stage = .ended reply) ∨ live.shared.calls[n]? = some call ∨ live'.Awaits n)
    (awaits : ∀ {n : Nat}, live.Awaits n →
      live'.Awaits n ∨ ∃ reply, live'.shared.reply? n = some reply) : live'.Owned := by
  intro n call found
  obtain ended | before | waits := calls found
  · exact .inl ended
  · obtain ended | waits := h.owned n call before
    · exact .inl ended
    · obtain waits | ⟨reply, ended⟩ := awaits waits
      · exact .inr waits
      · obtain ⟨other, foundToo, stage⟩ := Shared.reply?_eq_some ended
        rw [found] at foundToo
        cases foundToo
        exact .inl ⟨reply, stage⟩
  · exact .inr waits

/-- The connection is not about to end. -/
theorem goOn (goesOn : live.routing.ends = false) (owned : live.Owned) : Awaited live where
  owned := owned
  stopping stopping := by rw [stopping] at goesOn; cases goesOn
  left ended := by rw [ended] at goesOn; cases goesOn
  vacated ended := by rw [ended] at goesOn; cases goesOn

/-- Nobody starts a session when the connection is about to end. -/
theorem not_spawning (h : Awaited live) (ended : live.routing.ends = true) {n : Nat}
    {call : Call π} (found : live.shared.calls[n]? = some call) : call.isSpawning = false := by
  obtain ⟨reply, stage⟩ | waits | ⟨task, member, reaping⟩ := h.owned n call found
  · simp [Call.isSpawning, stage]
  · cases routing : live.routing with
    | stopping m =>
        rw [routing] at waits
        cases waits
        obtain ⟨other, foundToo, spawnsNot⟩ := h.stopping routing
        rw [found] at foundToo
        cases foundToo
        exact spawnsNot
    | calling | listening | announcing | replying | closing =>
        rw [routing] at ended
        cases ended
    | complete =>
        rw [routing] at waits
        cases waits
  · rw [h.left ended task member] at reaping
    cases reaping

theorem works (h : Awaited live) (works : Works store live live') : Awaited live' := by
  obtain ⟨routing, pumps, -⟩ := works.frame
  have same {n : Nat} {call : Call π} (found : live'.shared.calls[n]? = some call) :
      (∃ reply, call.stage = .ended reply) ∨ live.shared.calls[n]? = some call := by
    obtain calls | ⟨m, other, reply, -, calls⟩ := works.calls
    · exact .inr (calls ▸ found)
    · rw [calls, List.getElem?_set] at found
      split at found
      next =>
        split at found
        next =>
          cases found
          exact .inl ⟨reply, rfl⟩
        next => cases found
      next => exact .inr found
  constructor
  case owned =>
    refine h.own (fun found => (same found).imp_right .inl) fun waits => .inl ?_
    unfold Awaits
    rw [routing, pumps]
    exact waits
  case stopping =>
    intro n stopping
    rw [routing] at stopping
    obtain ⟨call, found, spawnsNot⟩ := h.stopping stopping
    obtain calls | ⟨m, other, reply, foundToo, calls⟩ := works.calls
    · exact ⟨call, calls ▸ found, spawnsNot⟩
    · by_cases here : m = n
      · subst here
        have inRange := (List.getElem?_eq_some_iff.mp found).1
        exact ⟨other.answered reply, by rw [calls, List.getElem?_set_self inRange], rfl⟩
      · exact ⟨call, by rw [calls, List.getElem?_set_ne here, found], spawnsNot⟩
  case left => rw [routing, pumps]; exact h.left
  case vacated =>
    intro ended
    rw [routing] at ended
    obtain vacant | ⟨n, call, found, spawning⟩ := works.slot (h.vacated ended)
    · exact vacant
    · rw [h.not_spawning ended found] at spawning
      cases spawning

/-- Calls are the same, and the router waits for none that has not ended. -/
theorem free (h : Awaited live) (calls : live'.shared.calls = live.shared.calls)
    (settled : ∀ {n : Nat}, live.routing.awaited? = some n →
      ∃ reply, live.shared.reply? n = some reply)
    (pumps : ∀ task ∈ live.pumps, task ∈ live'.pumps) : live'.Owned := by
  refine h.own (fun found => .inr (.inl (calls ▸ found))) ?_
  rintro m (waits | ⟨task, member, reaping⟩)
  · obtain ⟨reply, ended⟩ := settled waits
    refine .inr ⟨reply, ?_⟩
    rw [Shared.reply?, calls]
    exact ended
  · exact .inl (.inr ⟨task, pumps task member, reaping⟩)

/-- A call begins that is waited for. -/
theorem begun (h : Awaited live) (request : Request)
    (calls : live'.shared.calls = (live.begin request).shared.calls)
    (idle : live.routing.awaited? = none ∨ live'.routing = live.routing)
    (pumps : ∀ task ∈ live.pumps, ∀ n, task.stage = .reaping n →
      ∃ task ∈ live'.pumps, task.stage = .reaping n)
    (awaited : live'.Awaits live.shared.calls.length) : live'.Owned := by
  refine h.own (fun {n call} found => ?_) ?_
  · obtain ⟨new, grown, -⟩ := live.shared.calls_begin request
    rw [calls, show (live.begin request).shared.calls = _ from grown, List.getElem?_append] at found
    split at found
    next => exact .inr (.inl found)
    next late =>
      have inRange := (List.getElem?_eq_some_iff.mp found).1
      rw [List.length_singleton] at inRange
      have here : n = live.shared.calls.length := by omega
      exact .inr (.inr (here ▸ awaited))
  · rintro m (waits | ⟨task, member, reaping⟩)
    · obtain idle | same := idle
      · rw [idle] at waits
        cases waits
      · exact .inl (.inl (same ▸ waits))
    · exact .inl (.inr (pumps task member m reaping))

theorem routes {arrival : Option (String × Bytes)} (h : Awaited live)
    (routes : Routes arrival live live') : Awaited live' := by
  have pumps (task : PumpTask) (member : task ∈ live.pumps) : task ∈ live.pumps := member
  have idle {routing : Routing} (now : live.routing = routing) (free : routing.awaited? = none)
      {n : Nat} (waits : live.routing.awaited? = some n) :
      ∃ reply, live.shared.reply? n = some reply := by
    rw [now, free] at waits
    cases waits
  cases routes with
  | @answered _ _ _ listening reply? =>
      exact goOn (Routing.ends_toSend reply?) (h.free rfl (idle listening rfl) pumps)
  | @asked _ _ _ listening message request =>
      exact goOn rfl (h.begun request rfl (.inl (by rw [listening]; rfl))
        (fun task member n reaping => ⟨task, member, reaping⟩) (.inl rfl))
  | @concluded n message request calling reply ended =>
      refine goOn (Routing.ends_concluded message request reply) (h.free rfl ?_ pumps)
      intro m waits
      rw [calling] at waits
      cases waits
      exact ⟨reply, ended⟩
  | announced announcing =>
      exact goOn rfl (h.free rfl (idle announcing rfl) fun task member =>
        List.mem_append_left _ member)
  | unheard announcing =>
      exact goOn rfl (h.free (Shared.calls_alter ..) (idle announcing rfl) pumps)
  | replied replying => exact goOn rfl (h.free rfl (idle replying rfl) pumps)
  | broken replying => exact goOn rfl (h.free rfl (idle replying rfl) pumps)
  | closed listening => exact goOn rfl (h.free rfl (idle listening rfl) pumps)
  | stopping closing gone =>
      constructor
      case owned =>
        exact h.begun .shutdown rfl (.inl (by rw [closing]; rfl))
          (fun task member n reaping => ⟨task, member, reaping⟩) (.inl rfl)
      case stopping =>
        rintro n ⟨⟩
        obtain ⟨call, calls, -, starts⟩ := live.shared.calls_begin .shutdown
        refine ⟨call, ?_, ?_⟩
        · rw [show (live.begin .shutdown).shared.calls = _ from calls, List.getElem?_concat_length]
        · cases spawning : call.isSpawning with
          | false => rfl
          | true =>
              unfold Call.isSpawning at spawning
              split at spawning
              next stage => exact absurd (starts stage).1 nofun
              next => cases spawning
      case left => exact fun _ => gone
      case vacated => exact fun _ => live.shared.running?_begin_shutdown
  | @complete n stopping reply ended =>
      constructor
      case owned =>
        refine h.free rfl ?_ pumps
        intro m waits
        rw [stopping] at waits
        cases waits
        exact ⟨reply, ended⟩
      case stopping => nofun
      case left => exact fun _ => h.left (by rw [stopping]; rfl)
      case vacated => exact fun _ => h.vacated (by rw [stopping]; rfl)

/-- Only this pump changes. -/
theorem mem_set_of_ne {pumps : List PumpTask} {n : Nat} {task task' other : PumpTask}
    (found : pumps[n]? = some task) (member : other ∈ pumps) (differs : other ≠ task) :
    other ∈ pumps.set n task' := by
  obtain ⟨place, there⟩ := List.mem_iff_getElem?.mp member
  refine List.mem_iff_getElem?.mpr ⟨place, ?_⟩
  rw [List.getElem?_set_ne, there]
  rintro rfl
  rw [found] at there
  exact differs (Option.some.inj there).symm

/-- A pump goes on that does not wait for a call that is under way. -/
theorem repump (h : Awaited live) {n : Nat} {task task' : PumpTask}
    (found : live.pumps[n]? = some task) (pumps : live'.pumps = live.pumps.set n task')
    (routing : live'.routing = live.routing) (calls : live'.shared.calls = live.shared.calls)
    (settled : ∀ {m : Nat}, task.stage = .reaping m → ∃ reply, live.shared.reply? m = some reply) :
    live'.Owned := by
  refine h.own (fun there => .inr (.inl (calls ▸ there))) ?_
  rintro m (waits | ⟨other, member, reaping⟩)
  · exact .inl (.inl (routing ▸ waits))
  · by_cases same : other = task
    · obtain ⟨reply, ended⟩ := settled (same ▸ reaping)
      refine .inr ⟨reply, ?_⟩
      rw [Shared.reply?, calls]
      exact ended
    · exact .inl (.inr ⟨other, pumps ▸ mem_set_of_ne found member same, reaping⟩)

theorem pumps (h : Awaited live) {n : Nat} {task : PumpTask} (found : live.pumps[n]? = some task)
    (pumps : Pumps live n task live') : Awaited live' := by
  have goesOn (stage : task.stage ≠ .left) : live.routing.ends = false :=
    Bool.eq_false_iff.mpr fun ended => stage (h.left ended task (List.mem_of_getElem? found))
  have idle {stage : PumpStage} (now : task.stage = stage) (notReaping : ∀ m, stage ≠ .reaping m)
      {m : Nat} (reaping : task.stage = .reaping m) : ∃ reply, live.shared.reply? m = some reply :=
    absurd (now.symm.trans reaping) (notReaping m)
  cases pumps with
  | taken waiting =>
      exact .goOn (goesOn (by rw [waiting]; nofun))
        (h.repump found rfl rfl (Shared.calls_alter ..) (idle waiting nofun))
  | drained waiting =>
      exact .goOn (goesOn (by rw [waiting]; nofun)) (h.repump found rfl rfl rfl (idle waiting nofun))
  | sent sending =>
      exact .goOn (goesOn (by rw [sending]; nofun)) (h.repump found rfl rfl rfl (idle sending nofun))
  | dismissed waiting =>
      obtain waiting | ⟨output, sending⟩ := waiting
      · exact .goOn (goesOn (by rw [waiting]; nofun))
          (h.repump found rfl rfl (Shared.calls_alter ..) (idle waiting nofun))
      · exact .goOn (goesOn (by rw [sending]; nofun))
          (h.repump found rfl rfl (Shared.calls_alter ..) (idle sending nofun))
  | reaping finished =>
      refine .goOn (goesOn (by rw [finished]; nofun)) ?_
      have inRange := (List.getElem?_eq_some_iff.mp found).1
      refine h.begun (.reap task.id) rfl (.inr rfl) (fun other member m reaping => ?_)
        (.inr ⟨_, List.mem_set inRange _, rfl⟩)
      have differs : other ≠ task := by
        rintro rfl
        rw [finished] at reaping
        cases reaping
      exact ⟨other, mem_set_of_ne found member differs, reaping⟩
  | reaped reaping ended =>
      refine .goOn (goesOn (by rw [reaping]; nofun)) (h.repump found rfl rfl rfl fun {m} other => ?_)
      rw [reaping] at other
      cases other
      exact ⟨_, ended⟩
  | refused reaping ended =>
      refine .goOn (goesOn (by rw [reaping]; nofun)) (h.repump found rfl rfl rfl fun {m} other => ?_)
      rw [reaping] at other
      cases other
      exact ⟨_, ended⟩
  | notified notifying =>
      exact .goOn (goesOn (by rw [notifying]; nofun))
        (h.repump found rfl rfl rfl (idle notifying nofun))
  | unnoticed notifying =>
      exact .goOn (goesOn (by rw [notifying]; nofun))
        (h.repump found rfl rfl rfl (idle notifying nofun))

theorem moves {arrival : Option (String × Bytes)} (h : Awaited live)
    (moves : Moves store arrival live live') : Awaited live' := by
  cases moves with
  | stays => exact h
  | channel outbound => exact ⟨h.owned, h.stopping, h.left, h.vacated⟩
  | works works => exact h.works works
  | routes routes => exact h.routes routes
  | pumps found pumps => exact h.pumps found pumps

end Awaited

/-! ## Connections that are over -/

/-- What holds of a connection however its steps are interleaved: whoever takes a session out of the
    slot finishes it, and every call is waited for. -/
structure Orderly (live : LiveConnection π σ) : Prop where
  tended : Tended live.shared live.exits
  awaited : live.Awaited

theorem orderly_new (spec : ShellSpec) (recording : Option RecorderSettings) (s : σ) :
    Orderly (LiveConnection.new spec recording s : LiveConnection π σ) where
  tended := by
    constructor
    case retired => nofun
    case places => rintro n place ⟨call, ⟨⟩, -⟩
    case killed => rintro n place session result ⟨call, ⟨⟩, -⟩
    case known => exact fun _ => rfl
    case starting => nofun
  awaited := by
    refine .goOn rfl ?_
    rintro n call ⟨⟩

theorem Orderly.moves {arrival : Option (String × Bytes)} (h : Orderly live)
    (moves : Moves store arrival live live') : Orderly live' := by
  refine ⟨?_, h.awaited.moves moves⟩
  cases moves with
  | stays => exact h.tended
  | channel outbound => exact h.tended
  | works works => exact works.tended h.tended
  | routes routes => exact routes.tended h.tended
  | pumps _ pumps => exact pumps.tended h.tended

/-- A connection that is over stays so. -/
theorem Moves.complete {arrival : Option (String × Bytes)} (moves : Moves store arrival live live')
    (complete : live.routing = .complete) : live'.routing = .complete := by
  cases moves with
  | stays => exact complete
  | channel => exact complete
  | works works => rw [works.frame.1, complete]
  | routes routes =>
      cases routes with
      | complete => rfl
      | answered _ now | asked _ now | concluded now | announced now | unheard now | replied now
        | broken now | closed now | stopping now =>
          rw [complete] at now
          cases now
  | pumps _ pumps => cases pumps <;> exact complete

/-- No session starts or runs, and every recording is finished. -/
structure Quiet (live : LiveConnection π σ) : Prop where
  unclaimed : live.shared.registry.isClaimed = false
  vacant : live.shared.registry.slot.running? = none
  retired : ∀ session ∈ live.shared.retired, session.Quiet

/-- When a connection is over, nothing of it goes on. -/
theorem Orderly.quiet (h : Orderly live) (complete : live.routing = .complete) : live.Quiet := by
  have ends : live.routing.ends = true := by rw [complete]; rfl
  have ended {n : Nat} {call : Call π} (found : live.shared.calls[n]? = some call) :
      ∃ reply, call.stage = .ended reply := by
    obtain ended | waits | ⟨task, member, reaping⟩ := h.awaited.owned n call found
    · exact ended
    · rw [complete] at waits
      cases waits
    · rw [h.awaited.left ends task member] at reaping
      cases reaping
  constructor
  case unclaimed =>
    refine Bool.eq_false_iff.mpr fun claimed => ?_
    obtain ⟨call, member, spawning⟩ := h.tended.starting claimed
    obtain ⟨n, found⟩ := List.mem_iff_getElem?.mp member
    obtain ⟨reply, stage⟩ := ended found
    simp [Call.isSpawning, stage] at spawning
  case vacant => exact h.awaited.vacated ends
  case retired =>
    intro session member
    obtain ⟨place, there⟩ := List.mem_iff_getElem?.mp member
    obtain quiet | ⟨n, call, found, finishing⟩ := h.tended.retired there
    · exact quiet
    · obtain ⟨reply, stage⟩ := ended found
      rw [finishing] at stage
      cases stage

end LiveConnection

end TerminalAgent
