import TerminalAgent.Agent.Basic

/-! # Starting an agent again

An agent is started and stopped any number of times, and each start finds the network as it is then. A
start that fails leaves the agent starting, so it cannot be repeated: the agent has to be stopped first.
And once a start has succeeded no later one does, because the supervisor is started only once.
-/

namespace TerminalAgent.Agent

/-- What may be asked of an agent, and what may happen to its connection in between. -/
inductive Call where
  | start (network : Network)
  | stop
  | tell (event : SupervisorEvent)

/-- Does what is asked. Only a supervisor that was started sees what happens to the connection. -/
def perform (agent : Agent) : Call → Except AgentError Unit × Agent
  | .start network => agent.start network
  | .stop => agent.stop
  | .tell event =>
      (pure (),
        if agent.isSupervised then { agent with supervisor := agent.supervisor.step event } else agent)

def run (agent : Agent) (calls : List Call) : Agent :=
  calls.foldl (fun agent call => (agent.perform call).2) agent

/-- Whether the call is a start that succeeds. -/
def isStartedBy (agent : Agent) (call : Call) : Bool :=
  match call, (agent.perform call).1 with
  | .start _, .ok () => true
  | _, _ => false

/-- Whether one of the calls is a start that succeeds. -/
def isStartedAmong (agent : Agent) : List Call → Bool
  | [] => false
  | call :: calls => agent.isStartedBy call || (agent.perform call).2.isStartedAmong calls

/-- Whether the address for viewers, if there is to be one, can be had. -/
def CanListen (config : Config) (network : Network) : Prop :=
  config.playback.enabled = true → network.listen config.playback.listenAddr = .ok ()

/-- What a start leaves that can be repeated if it has failed. -/
inductive Repeatable : Except AgentError Unit × Agent → Prop
  | started {agent : Agent} (running : agent.state = .running) : Repeatable (.ok (), agent)
  | failed {agent : Agent} (error : AgentError) (stopped : agent.state = .stopped) :
      Repeatable (.error error, agent)

/-! ## One call -/

theorem listen_ok {agent : Agent} {network : Network} (can : CanListen agent.config network) :
    agent.listen network =
      .ok { agent with isListening := agent.config.playback.enabled || agent.isListening } := by
  unfold listen
  cases enabled : agent.config.playback.enabled with
  | false => rfl
  | true =>
      simp only [Bool.not_true, Bool.false_eq_true, if_false, can enabled]
      rfl

theorem listen_error (agent : Agent) {network : Network} (deaf : ¬ CanListen agent.config network) :
    ∃ error, agent.listen network = .error error := by
  unfold CanListen at deaf
  obtain ⟨enabled, missed⟩ := Classical.not_imp.mp deaf
  unfold listen
  simp only [enabled, Bool.not_true, Bool.false_eq_true, if_false]
  cases found : network.listen agent.config.playback.listenAddr with
  | ok => exact absurd found missed
  | error reason => exact ⟨_, rfl⟩

/-- What comes of a start, by the state it is asked for in and by the steps that may fail. -/
inductive Starts (agent : Agent) (network : Network) : Except AgentError Unit × Agent → Prop
  | refused (busy : agent.state ≠ .stopped) : Starts agent network (.error .alreadyRunning, agent)
  | unheard {after : Agent} (error : AgentError) (idle : agent.state = .stopped)
      (deaf : ¬ CanListen agent.config network) (state : after.state = .starting)
      (same : after.config = agent.config) (alike : after.isSupervised = agent.isSupervised) :
      Starts agent network (.error error, after)
  | spent {after : Agent} (idle : agent.state = .stopped) (can : CanListen agent.config network)
      (supervised : agent.isSupervised = true) (state : after.state = .starting)
      (same : after.config = agent.config) (alike : after.isSupervised = true) :
      Starts agent network (.error (.supervisor .alreadyRunning), after)
  | started {after : Agent} (idle : agent.state = .stopped) (can : CanListen agent.config network)
      (fresh : agent.isSupervised = false) (state : after.state = .running)
      (same : after.config = agent.config) (supervised : after.isSupervised = true) :
      Starts agent network (.ok (), after)

theorem start_starts (agent : Agent) (network : Network) : Starts agent network (agent.start network) := by
  unfold start
  by_cases idle : agent.state = .stopped
  · simp only [idle, ne_eq, not_true_eq_false, if_false]
    by_cases can : CanListen agent.config network
    · have heard : (agent.enter .starting).listen network = _ := listen_ok can
      rw [heard]
      unfold supervise
      cases supervised : agent.isSupervised with
      | true =>
          simp only [enter, supervised, if_true]
          exact .spent idle can supervised rfl rfl rfl
      | false =>
          simp only [enter, supervised, Bool.false_eq_true, if_false]
          exact .started idle can supervised rfl rfl rfl
    · obtain ⟨error, missed⟩ := listen_error (agent.enter .starting) can
      rw [missed]
      exact .unheard error idle can rfl rfl rfl
  · simp only [ne_eq, idle, not_false_eq_true, if_true]
    exact .refused idle

theorem stop_keeps (agent : Agent) :
    agent.stop.2.config = agent.config ∧ agent.stop.2.isSupervised = agent.isSupervised := by
  unfold stop beginStop
  cases agent.state <;> exact ⟨rfl, rfl⟩

/-- An agent stays what it was made for, and its supervisor runs once a start has succeeded. -/
theorem perform_keeps (agent : Agent) (call : Call) :
    (agent.perform call).2.config = agent.config ∧
      (agent.perform call).2.isSupervised = (agent.isSupervised || agent.isStartedBy call) := by
  cases call with
  | start network =>
      have starts := start_starts agent network
      simp only [isStartedBy, perform]
      generalize agent.start network = outcome at starts ⊢
      cases starts with
      | refused => exact ⟨rfl, (Bool.or_false _).symm⟩
      | unheard error _ _ _ same alike => exact ⟨same, alike.trans (Bool.or_false _).symm⟩
      | spent _ _ supervised _ same alike => exact ⟨same, by rw [supervised, alike, Bool.true_or]⟩
      | started _ _ _ _ same supervised => exact ⟨same, supervised.trans (Bool.or_true _).symm⟩
  | stop =>
      obtain ⟨same, alike⟩ := agent.stop_keeps
      exact ⟨same, alike.trans (Bool.or_false _).symm⟩
  | tell event =>
      simp only [isStartedBy, perform]
      split <;> exact ⟨rfl, (Bool.or_false _).symm⟩

/-! ## All calls -/

theorem run_keeps (agent : Agent) (calls : List Call) :
    (agent.run calls).config = agent.config ∧
      (agent.run calls).isSupervised = (agent.isSupervised || agent.isStartedAmong calls) := by
  induction calls generalizing agent with
  | nil => exact ⟨rfl, (Bool.or_false _).symm⟩
  | cons call calls ih =>
      obtain ⟨config, supervised⟩ := agent.perform_keeps call
      obtain ⟨laterConfig, later⟩ := ih (agent.perform call).2
      refine ⟨laterConfig.trans config, later.trans ?_⟩
      rw [supervised, isStartedAmong, Bool.or_assoc]

/-- An agent that was just made is stopped, and its supervisor was not started. -/
theorem create_ok {config : Config} {pid : Nat} {isRunning : Nat → Bool} {volume : Volume} {agent : Agent}
    (created : (create config pid isRunning volume).1 = .ok agent) :
    agent.config = config ∧ agent.state = .stopped ∧ agent.isSupervised = false := by
  unfold create at created
  simp only at created
  split at created
  next => cases created
  next =>
    split at created
    next => cases created
    next =>
      cases created
      exact ⟨rfl, rfl, rfl⟩

theorem not_repeatable (error : AgentError) {after : Agent} (state : after.state = .starting) :
    ¬ Repeatable (.error error, after) := by
  rintro ⟨⟩
  next stopped =>
    rw [state] at stopped
    cases stopped

theorem start_starting {agent : Agent} (state : agent.state = .starting) (network : Network) :
    agent.start network = (.error .alreadyRunning, agent) := by
  simp only [start, state, ne_eq, reduceCtorEq, not_false_eq_true, if_true]
  rfl

/-! ## An address that is in use -/

/-- The configuration of an agent that is told nothing. It listens for viewers. -/
def plainConfig : Config :=
  .default ⟨∅, .empty, "/root", "/"⟩

/-- The machine can listen wherever it is asked to. -/
def anywhere : Network where
  dial _ _ := .ok ()
  listen _ := .ok ()

/-- Somebody else listens wherever the machine is asked to. -/
def occupied : Network where
  dial _ _ := .ok ()
  listen _ := .error "Address already in use (os error 98)"

/-- The agent with that configuration, in a directory that is empty. -/
def plain? : Option Agent :=
  (create plainConfig 41 (fun _ => false) .empty).1.toOption

theorem exists_plain :
    ∃ agent, plain? = some agent ∧ (create plainConfig 41 (fun _ => false) .empty).1 = .ok agent := by
  have made : plain?.isSome = true := by decide +kernel
  unfold plain? at made ⊢
  cases created : (create plainConfig 41 (fun _ => false) .empty).1 with
  | error error =>
      rw [created] at made
      cases made
  | ok agent => exact ⟨agent, rfl, rfl⟩

theorem not_canListen_occupied : ¬ CanListen plainConfig occupied := by
  intro can
  cases can rfl

/-- A start of an agent that is stopped leaves it running, or stopped with an error, exactly if the
    address for viewers can be had and no start has succeeded before. Otherwise it leaves an agent that is
    starting, and every start from then on is refused as if the agent were running. -/
theorem run_repeatable_iff {config : Config} {pid : Nat} {isRunning : Nat → Bool} {volume : Volume}
    {agent : Agent} (created : (create config pid isRunning volume).1 = .ok agent) (calls : List Call)
    (stopped : (agent.run calls).state = .stopped) (network : Network) :
    let outcome := (agent.run calls).start network
    (Repeatable outcome ↔ CanListen config network ∧ agent.isStartedAmong calls = false) ∧
      (¬ Repeatable outcome → (∃ error, outcome.1 = .error error) ∧ outcome.2.state = .starting ∧
        ∀ later, outcome.2.start later = (.error .alreadyRunning, outcome.2)) := by
  intro outcome
  obtain ⟨made, -, fresh⟩ := create_ok created
  obtain ⟨same, supervised⟩ := agent.run_keeps calls
  rw [made] at same
  rw [fresh, Bool.false_or] at supervised
  have starts : Starts (agent.run calls) network outcome := start_starts (agent.run calls) network
  generalize outcome = result at starts
  cases starts with
  | refused busy => exact absurd stopped busy
  | unheard error _ deaf state =>
      rw [same] at deaf
      have unlike := not_repeatable error state
      exact ⟨⟨fun repeatable => absurd repeatable unlike, fun ⟨can, _⟩ => absurd can deaf⟩,
        fun _ => ⟨⟨error, rfl⟩, state, start_starting state⟩⟩
  | spent _ _ spent state =>
      rw [supervised] at spent
      have unlike := not_repeatable (.supervisor .alreadyRunning) state
      refine ⟨⟨fun repeatable => absurd repeatable unlike, fun ⟨_, never⟩ => ?_⟩,
        fun _ => ⟨⟨_, rfl⟩, state, start_starting state⟩⟩
      rw [spent] at never
      cases never
  | started _ can fresh running =>
      rw [same] at can
      rw [supervised] at fresh
      exact ⟨⟨fun _ => ⟨can, fresh⟩, fun _ => .started running⟩,
        fun unlike => absurd (.started running) unlike⟩

/-- The address is in use at first and can be had later, when the agent is started and stopped. After
    that it cannot be started again, although the address can be had. -/
theorem run_repeatable_iff_occupied :
    ∃ agent, (create plainConfig 41 (fun _ => false) .empty).1 = .ok agent ∧
      ¬ Repeatable ((agent.run []).start occupied) ∧
      let calls : List Call := [.start occupied, .stop, .start anywhere, .tell .lost, .stop]
      (agent.run calls).state = .stopped ∧ CanListen plainConfig anywhere ∧
        ¬ Repeatable ((agent.run calls).start anywhere) := by
  obtain ⟨agent, made, created⟩ := exists_plain
  obtain ⟨-, fresh, -⟩ := create_ok created
  refine ⟨agent, created, fun repeatable => ?_, ?_⟩
  · exact not_canListen_occupied ((run_repeatable_iff created [] fresh occupied).1.mp repeatable).1
  intro calls
  have seen : (plain?.map fun agent => ((agent.run calls).state, agent.isStartedAmong calls)) =
      some (.stopped, true) := by decide +kernel
  rw [made, Option.map_some, Option.some.injEq, Prod.mk.injEq] at seen
  obtain ⟨stopped, started⟩ := seen
  refine ⟨stopped, fun _ => rfl, fun repeatable => ?_⟩
  have never := ((run_repeatable_iff created calls stopped anywhere).1.mp repeatable).2
  rw [started] at never
  cases never

/-- The second start of an agent can leave it neither running nor stopped, wherever it may listen. -/
theorem second_start_stuck :
    ¬ ∀ (config : Config) (pid : Nat) (isRunning : Nat → Bool) (volume : Volume) (agent : Agent),
      (create config pid isRunning volume).1 = .ok agent → ∀ (calls : List Call) (network : Network),
        (agent.run calls).state = .stopped → Repeatable ((agent.run calls).start network) := by
  intro repeatable
  obtain ⟨agent, made, created⟩ := exists_plain
  let calls : List Call := [.start anywhere, .stop]
  have seen : (plain?.map fun agent =>
      ((agent.run calls).state, ((agent.run calls).start anywhere).1.isOk,
        ((agent.run calls).start anywhere).2.state)) = some (.stopped, false, .starting) := by
    decide +kernel
  rw [made, Option.map_some, Option.some.injEq, Prod.mk.injEq, Prod.mk.injEq] at seen
  obtain ⟨stopped, failed, starting⟩ := seen
  have second := repeatable plainConfig 41 (fun _ => false) .empty agent created calls anywhere stopped
  generalize (agent.run calls).start anywhere = outcome at second failed starting
  cases second with
  | started running => cases failed
  | failed error stopped =>
      rw [stopped] at starting
      cases starting

end TerminalAgent.Agent
