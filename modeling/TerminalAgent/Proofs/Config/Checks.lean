import TerminalAgent.Config.Check
import TerminalAgent.Proofs.Outcomes

/-! # What a check makes sure of

A configuration passes its check exactly if each of its settings is one that the agent can run with.
-/

namespace TerminalAgent

/-! ## Numbers between two others -/

namespace Binary64

theorem isFinite_iff {x : Binary64} :
    x.isFinite = true ↔ x.isNaN = false ∧ x.isInfinite = false := by
  have bound : x.exponentField ≤ maxExponent := Nat.le_of_lt_succ (Nat.mod_lt _ (by decide))
  by_cases fraction : x.fractionField = 0 <;> simp [isFinite, isNaN, isInfinite, fraction] <;> omega

/-- A number between two finite ones is finite. -/
theorem between_of_le {low x high : Binary64} (lowFinite : low.isFinite = true)
    (highFinite : high.isFinite = true) (above : low.le x = true) (below : x.le high = true) :
    x.isFinite = true ∧ low.signedScaled ≤ x.signedScaled ∧ x.signedScaled ≤ high.signedScaled := by
  obtain ⟨lowNumber, lowBounded⟩ := isFinite_iff.mp lowFinite
  obtain ⟨highNumber, highBounded⟩ := isFinite_iff.mp highFinite
  obtain ⟨number, notBelow⟩ : x.isNaN = false ∧ x.lt low = false := by simpa [le, lowNumber] using above
  have notAbove : high.lt x = false := by simpa [le, number, highNumber] using below
  cases infinite : x.isInfinite with
  | true =>
      -- An infinity is below one of the two or above the other.
      have positive : x.isNegative = false := by simpa [lt, number, lowNumber, lowBounded, infinite] using notBelow
      have negative : x.isNegative = true := by
        simpa [lt, number, highNumber, highBounded, infinite] using notAbove
      rw [positive] at negative
      cases negative
  | false =>
      refine ⟨isFinite_iff.mpr ⟨number, infinite⟩, ?_, ?_⟩
      · simpa [lt, number, lowNumber, lowBounded, infinite] using notBelow
      · simpa [lt, number, highNumber, highBounded, infinite] using notAbove

end Binary64

/-! ## Checks -/

namespace Config

/-- What a check makes sure of. -/
structure Checked (env : Environment) (config : Config) : Prop where
  serverUrl : isServerUrl config.server.url = true
  command : env.hasCommand config.shell.command = true
  size : config.shell.cols ≠ 0 ∧ config.shell.rows ≠ 0
  logLevel : logLevels.contains config.agent.logLevel.toLower = true
  backoff : config.reconnect.initialBackoffMs ≠ 0 ∧
    config.reconnect.initialBackoffMs ≤ config.reconnect.maxBackoffMs
  multiplier : (Binary64.ofInt 1).le config.reconnect.multiplier = true ∧
    config.reconnect.multiplier.le maxMultiplier = true
  heartbeat : config.server.heartbeatIntervalSecs ≠ 0 ∧ config.server.heartbeatTimeoutSecs ≠ 0
  poll : config.dependency.pollIntervalMs ≠ 0
  flush : config.recording.flushIntervalMs ≠ 0
  listenAddr : config.playback.enabled = true → (SocketAddress.parse? config.playback.listenAddr).isSome = true

theorem check_eq_ok {env : Environment} {config : Config} :
    config.check env = .ok () ↔ config.Checked env := by
  have address (b : Bool) (fault : ConfigError) :
      (if b then throw fault else pure () : Except ConfigError Unit) = .ok () ↔ b = false := by
    cases b <;> simp [throw, throwThe, MonadExceptOf.throw, pure, Except.pure]
  have refused (fault : ConfigError) (next : Unit → Except ConfigError Unit) :
      throw fault >>= next = .error fault := rfl
  simp only [check, refused, refused_eq_ok, passed_eq_ok, address]
  constructor
  · rintro ⟨serverUrl, command, size, logLevel, backoff, multiplier, heartbeat, poll, flush, listenAddr⟩
    refine ⟨serverUrl, command, ?_, logLevel, ?_, ?_, ?_, poll, flush, ?_⟩
    · simpa using size
    · simpa using backoff
    · simpa using multiplier
    · simpa using heartbeat
    · simpa [Option.isSome_iff_ne_none] using listenAddr
  · intro checked
    refine ⟨checked.serverUrl, checked.command, ?_, checked.logLevel, ?_, ?_, ?_, checked.poll,
      checked.flush, ?_⟩
    · simpa using checked.size
    · simpa using checked.backoff
    · simpa using checked.multiplier
    · simpa using checked.heartbeat
    · simpa [Option.isSome_iff_ne_none] using checked.listenAddr

end Config

end TerminalAgent
