import TerminalAgent.Proofs.Router.Live

/-! # What one action does to a connection

An action moves the router or one pump, lets a call or a session go on, or touches the channel or the
store. `Moves` lists what can become of a connection, with what must be the case before.
-/

namespace TerminalAgent.LiveConnection

open Registry (Shared Request Reply Call)

variable {π σ : Type} (store : RecordingStore σ)

/-- What calls and sessions do when they go on. -/
inductive Works (live : LiveConnection π σ) : LiveConnection π σ → Prop
  | useStore (s : σ) : Works live { live with shared := { live.shared with store := s } }
  | progress (id : String) {f : RunningSession π → RunningSession π} (tame : RunningSession.Tame f)
      (s : σ) : Works live { live with shared := { live.shared.alter id f with store := s } }
  | spawn {n : Nat} {call : Call π} (found : live.shared.calls[n]? = some call)
      {id : String} {size : Option (UInt16 × UInt16)} {slot : Slot π}
      (stage : call.stage = .spawning id size slot) (host : Host π) :
      Works live { live with shared := live.shared.resume store host n }
  | use {n : Nat} {call : Call π} (found : live.shared.calls[n]? = some call) {id : String}
      (stage : call.stage = .using id) {f : RunningSession π → RunningSession π}
      (tame : RunningSession.Tame f) (reply : Reply) :
      Works live { live with shared := (live.shared.alter id f).settle n call reply }
  | kill {n : Nat} {call : Call π} (found : live.shared.calls[n]? = some call) {place : Nat}
      (stage : call.stage = .finishing place) {session : RunningSession π}
      (retired : live.shared.retired[place]? = some session) (host : Host π) :
      Works live { live with
        shared := { live.shared with
          retired := live.shared.retired.set place
            { session with pty := (session.pty.stop host).2 } }
        exits := live.exits ++ [(n, (session.pty.stop host).1)] }
  | detach {n : Nat} {call : Call π} (found : live.shared.calls[n]? = some call) {place : Nat}
      (stage : call.stage = .finishing place) {session : RunningSession π}
      (retired : live.shared.retired[place]? = some session) :
      Works live { live with
        shared := { live.shared with
          retired := live.shared.retired.set place { session with pty := session.pty.close } } }
  | settle {n : Nat} {call : Call π} (found : live.shared.calls[n]? = some call) {place : Nat}
      (stage : call.stage = .finishing place) {session : RunningSession π}
      (retired : live.shared.retired[place]? = some session)
      {result : Except SessionError Nat} (exited : live.exits.lookup n = some result)
      (recorded : session.recorder = none) :
      Works live { live with
        shared := live.shared.settle n call (call.request.outcome result) }

/-- Router and pumps are not concerned. -/
theorem Works.frame {store : RecordingStore σ} {live live' : LiveConnection π σ}
    (works : Works store live live') :
    live'.routing = live.routing ∧ live'.pumps = live.pumps ∧ live'.log = live.log := by
  cases works <;> exact ⟨rfl, rfl, rfl⟩

/-- What the router does, also with bytes that arrive. -/
inductive Routes (arrival : Option (String × Bytes)) (live : LiveConnection π σ) :
    LiveConnection π σ → Prop
  | answered {fresh : String} {bytes : Bytes} (arrived : arrival = some (fresh, bytes))
      (listening : live.routing = .listening) {reply? : Option Message}
      (intake : Connection.intake fresh bytes = .answer reply?) :
      Routes arrival live { live with routing := .toSend reply? }
  | asked {fresh : String} {bytes : Bytes} (arrived : arrival = some (fresh, bytes))
      (listening : live.routing = .listening) {message : Message} {request : Request}
      (intake : Connection.intake fresh bytes = .ask message request) :
      Routes arrival live
        { live.begin request with routing := .calling live.shared.calls.length message request }
  | concluded {n : Nat} {message : Message} {request : Request}
      (calling : live.routing = .calling n message request) {reply : Reply}
      (ended : live.shared.reply? n = some reply) :
      Routes arrival live { live with routing := .concluded message request reply }
  | announced {id : String} (announcing : live.routing = .announcing id) :
      Routes arrival live
        { live.post .router (Connection.startedReply id) with
          routing := .listening, pumps := live.pumps ++ [.new id] }
  | unheard {id : String} (announcing : live.routing = .announcing id) :
      Routes arrival live (live.alter id RunningSession.unwatch).close
  | replied {reply : Message} (replying : live.routing = .replying reply) :
      Routes arrival live { live.post .router reply with routing := .listening }
  | broken {reply : Message} (replying : live.routing = .replying reply) : Routes arrival live live.close
  | closed (listening : live.routing = .listening) : Routes arrival live live.close
  | stopping (closing : live.routing = .closing) (gone : ∀ task ∈ live.pumps, task.stage = .left) :
      Routes arrival live
        { live.begin .shutdown with routing := .stopping live.shared.calls.length }
  | complete {n : Nat} (stopping : live.routing = .stopping n) {reply : Reply}
      (ended : live.shared.reply? n = some reply) : Routes arrival live { live with routing := .complete }

/-- What a pump does. -/
inductive Pumps (live : LiveConnection π σ) (n : Nat) (task : PumpTask) : LiveConnection π σ → Prop
  | taken (waiting : task.stage = .waiting) {f : RunningSession π → RunningSession π}
      (tame : RunningSession.Tame f) (output : Output) :
      Pumps live n task ((live.alter task.id f).setPump n (task.take output))
  | drained (waiting : task.stage = .waiting) :
      Pumps live n task (live.setPump n (task.goTo .finished))
  | sent {output : Output} (sending : task.stage = .sending output) :
      Pumps live n task
        ((live.post .pump (Connection.outputMessage task.id output)).setPump n (task.send output))
  | dismissed (waiting : task.stage = .waiting ∨ ∃ output, task.stage = .sending output) :
      Pumps live n task (live.dismiss n task)
  | reaping (finished : task.stage = .finished) :
      Pumps live n task
        ((live.begin (.reap task.id)).setPump n (task.goTo (.reaping live.shared.calls.length)))
  | reaped {m : Nat} (reaping : task.stage = .reaping m)
      (ended : live.shared.reply? m = some (.reaped true)) :
      Pumps live n task (live.setPump n (task.goTo .notifying))
  | refused {m : Nat} (reaping : task.stage = .reaping m) {reply : Reply}
      (ended : live.shared.reply? m = some reply) :
      Pumps live n task (live.setPump n (task.goTo .left))
  | notified (notifying : task.stage = .notifying) :
      Pumps live n task
        ((live.post .pump (Connection.stopNotice task.id)).setPump n (task.goTo .left))
  | unnoticed (notifying : task.stage = .notifying) :
      Pumps live n task (live.setPump n (task.goTo .left))

/-- What can become of a connection by one action. -/
inductive Moves (arrival : Option (String × Bytes)) (live : LiveConnection π σ) :
    LiveConnection π σ → Prop
  | stays : Moves arrival live live
  | channel (outbound : Outbound) : Moves arrival live { live with outbound }
  | works {live'} (works : Works store live live') : Moves arrival live live'
  | routes {live'} (routes : Routes arrival live live') : Moves arrival live live'
  | pumps {n task live'} (found : live.pumps[n]? = some task) (pumps : Pumps live n task live') :
      Moves arrival live live'

variable (arrival : Option (String × Bytes)) (live : LiveConnection π σ)

theorem arrive_moves (fresh : String) (bytes : Bytes) :
    Moves store (some (fresh, bytes)) live (live.arrive fresh bytes) := by
  unfold arrive
  split
  next listening =>
    split
    next intake => exact .routes (.answered rfl listening intake)
    next intake => exact .routes (.asked rfl listening intake)
  next => exact .stays

theorem finish_moves (host : Host π) {n : Nat} {call : Call π}
    (found : live.shared.calls[n]? = some call) {place : Nat} (stage : call.stage = .finishing place)
    {session : RunningSession π} (retired : live.shared.retired[place]? = some session) :
    Moves store arrival live (live.finish host n call place session) := by
  unfold finish
  split
  next => exact .works (.kill found stage retired host)
  next result exited =>
    split
    next => exact .works (.detach found stage retired)
    next =>
      split
      next => exact .stays
      next unawaited =>
        have finished : session.recorder = none :=
          RunningSession.recorder_of_unawaited (Bool.eq_false_iff.mpr unawaited)
        exact .works (.settle found stage retired exited finished)

theorem resume_moves (n : Nat) (host : Host π) : Moves store arrival live (live.resume store n host) := by
  unfold resume
  split
  next => exact .stays
  next call found =>
    split
    next stage => exact .works (.spawn found stage host)
    next id stage =>
      split
      next => exact .stays
      next session _ =>
        exact .works (.use found stage (RunningSession.tame_operate host call.request) _)
    next place stage =>
      split
      next => exact .stays
      next session retired => exact live.finish_moves store arrival host found stage retired
    next => exact .stays

theorem route_moves : Moves store arrival live live.route := by
  unfold route
  split
  next => exact .stays
  next => exact .stays
  next calling =>
    split
    next => exact .stays
    next ended => exact .routes (.concluded calling ended)
  next announcing =>
    split
    next => exact .routes (.announced announcing)
    next => exact .routes (.unheard announcing)
  next replying =>
    split
    next => exact .routes (.replied replying)
    next => exact .routes (.broken replying)
  next closing =>
    split
    next gone =>
      refine .routes (.stopping closing ?_)
      simpa only [List.all_eq_true, decide_eq_true_eq] using gone
    next => exact .stays
  next stopping =>
    split
    next => exact .stays
    next ended => exact .routes (.complete stopping ended)

theorem take_moves {n : Nat} {task : PumpTask} (found : live.pumps[n]? = some task)
    (waiting : task.stage = .waiting) : Moves store arrival live (live.take n task) := by
  unfold take
  split
  next => exact .stays
  next =>
    split
    next => exact .stays
    next =>
      split
      next output fanout _ =>
        exact .pumps found (.taken waiting (RunningSession.tame_fanout fanout) output)
      next => exact .pumps found (.drained waiting)
      next => exact .stays

theorem pump_moves (n : Nat) : Moves store arrival live (live.pump n) := by
  unfold pump
  split
  next => exact .stays
  next task found =>
    split
    next waiting => exact live.take_moves store arrival found waiting
    next output sending =>
      split
      next => exact .pumps found (.sent sending)
      next => exact .pumps found (.dismissed (.inr ⟨output, sending⟩))
    next finished => exact .pumps found (.reaping finished)
    next reaping =>
      split
      next => exact .stays
      next ended => exact .pumps found (.reaped reaping ended)
      next ended => exact .pumps found (.refused reaping ended)
    next notifying =>
      split
      next => exact .pumps found (.notified notifying)
      next => exact .pumps found (.unnoticed notifying)
    next => exact .stays

theorem leave_moves (n : Nat) : Moves store arrival live (live.leave n) := by
  unfold leave
  split
  next =>
    split
    next => exact .stays
    next task found =>
      split
      next waiting => exact .pumps found (.dismissed (.inl waiting))
      next output sending => exact .pumps found (.dismissed (.inr ⟨output, sending⟩))
      next => exact .stays
  next => exact .stays

/-- The message that arrives, and the id that a session would get which it starts. -/
def Action.arrival? : Action π σ → Option (String × Bytes)
  | .arrive fresh bytes => some (fresh, bytes)
  | _ => none

theorem step_moves (action : Action π σ) :
    Moves store action.arrival? live (live.step store action) := by
  cases action with
  | arrive fresh bytes => exact live.arrive_moves store fresh bytes
  | route => exact live.route_moves store none
  | resume n host => exact live.resume_moves store none n host
  | pump n => exact live.pump_moves store none n
  | leave n => exact live.leave_moves store none n
  | progress id deed =>
      simp only [step, progress]
      split
      next => exact .stays
      next session _ =>
        exact .works (.progress id (RunningSession.tame_perform store live.shared.store deed) _)
  | useStore s => exact .works (.useStore s)
  | takeSent => exact .channel _
  | hangUp => exact .channel _
  | shutdown =>
      simp only [step]
      split
      next listening => exact .routes (.closed listening)
      next => exact .stays

end TerminalAgent.LiveConnection
