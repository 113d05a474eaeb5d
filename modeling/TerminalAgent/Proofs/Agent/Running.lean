import TerminalAgent.Agent.Basic
import TerminalAgent.Connection.Heartbeat
import TerminalAgent.Proofs.Config.Checks
import TerminalAgent.Proofs.Config.Numbers
import TerminalAgent.Proofs.Router.TerminalSize

/-! # Running with a checked configuration

A configuration that was read and passes its check makes no part of the agent run with a value that it
cannot take.
-/

namespace TerminalAgent.Agent

open Config

/-- What the parts of an agent can run with. -/
structure Runnable (config : Config) : Prop where
  /-- Something can tick at this interval. -/
  heartbeat : 0 < (WebSocketSettings.ofConfig config.server).heartbeatInterval.nanos
  poll : 0 < (supervisorSettings config).dependencyPoll.nanos
  flush : 0 < (RecorderSettings.ofConfig config.recording).flushInterval.nanos
  /-- The server may be silent for a time that is a duration. -/
  patience :
    let settings := WebSocketSettings.ofConfig config.server
    (Heartbeat.new settings.heartbeatInterval settings.heartbeatTimeout).patience.seconds <
      Duration.secondsBound
  backoff :
    let policy := BackoffPolicy.ofConfig config.reconnect
    0 < policy.initial.nanos ∧ policy.initial ≤ policy.max
  /-- The factor is a number from one to ten. -/
  multiplier :
    let factor := (BackoffPolicy.ofConfig config.reconnect).multiplier
    factor.isFinite = true ∧ (Binary64.unit : Int) ≤ factor.signedScaled ∧
      factor.signedScaled ≤ 10 * (Binary64.unit : Int)
  dependency :
    let policy := (supervisorSettings config).dependencyPolicy
    0 < policy.initial.nanos ∧ policy.initial ≤ policy.max
  size :
    let spec := ShellSpec.ofConfig config.shell
    spec.cols ≠ 0 ∧ spec.rows ≠ 0
  listenAddr : config.playback.enabled = true →
    ∃ address, SocketAddress.parse? config.playback.listenAddr = some address

theorem nanos_ofMillis_pos {ms : UInt64} (some : ms ≠ 0) : 0 < (Duration.ofMillis ms.toNat).nanos := by
  have positive : 0 < ms.toNat := UInt64.pos_iff_ne_zero.mpr some
  exact Nat.mul_pos positive (by decide)

theorem runnable {env : Environment} {config : Config} (checked : config.Checked env)
    (writable : config.Writable) : Runnable config := by
  obtain ⟨some, limited⟩ := checked.backoff
  have initial : 0 < (BackoffPolicy.ofConfig config.reconnect).initial.nanos := nanos_ofMillis_pos some
  have poll : 0 < (supervisorSettings config).dependencyPoll.nanos := nanos_ofMillis_pos checked.poll
  refine ⟨?_, poll, nanos_ofMillis_pos checked.flush, ?_, ⟨initial, ?_⟩, ?_, ⟨?_, Duration.min_le_right _ _⟩,
    checked.size, fun enabled => Option.isSome_iff_exists.mp (checked.listenAddr enabled)⟩
  · have positive : 0 < config.server.heartbeatIntervalSecs.toNat :=
      UInt64.pos_iff_ne_zero.mpr checked.heartbeat.1
    exact Nat.mul_pos positive (by decide)
  · have interval := writable.server.1
    have timeout := writable.server.2
    simp only [Fits] at interval timeout
    simp only [Heartbeat.new, Heartbeat.patience, WebSocketSettings.ofConfig, Duration.ofSeconds,
      Duration.seconds, Duration.nanosPerSecond, Duration.secondsBound]
    omega
  · exact Nat.mul_le_mul_right _ (UInt64.le_iff_toNat_le.mp limited)
  · obtain ⟨above, below⟩ := checked.multiplier
    have low : (Binary64.ofInt 1).signedScaled = Binary64.unit := by decide +kernel
    have high : maxMultiplier.signedScaled = 10 * (Binary64.unit : Int) := by decide +kernel
    have between := Binary64.between_of_le (by decide +kernel) (by decide +kernel) above below
    rwa [low, high] at between
  · change 0 < (if _ then _ else _ : Duration).nanos
    split
    next => exact initial
    next => exact poll

/-- A configuration that was read, in which variables took their places and which then passed its check,
    is one that every part of the agent can run with. -/
theorem runnable_of_check {env : Environment} {source : String} {parsed : Config}
    (read : parse env source = .ok parsed) (checked : (parsed.overridden env).check env = .ok ()) :
    Runnable (parsed.overridden env) :=
  runnable (check_eq_ok.mp checked) ((parse_writable read).overridden env)

/-- Settings with the longest heartbeat that a text can ask for. -/
def patientText : String :=
  "[server]\nurl = 'ws://[::1]'\n" ++
    "heartbeat_interval_secs = 9223372036854775807\n" ++
    "heartbeat_timeout_secs = 0x7fff_ffff_ffff_ffff\n" ++
    "[shell]\ncommand = 'sh'\n"

/-- The configuration of this text on a machine with one shell. -/
def patientConfig : Config :=
  { Connection.oneShellConfig with
    server := { Connection.oneShellConfig.server with
      heartbeatIntervalSecs := 0x7fffffffffffffff
      heartbeatTimeoutSecs := 0x7fffffffffffffff } }

theorem runnable_of_check_patient :
    Config.parse Connection.oneShell patientText = .ok patientConfig ∧
      (patientConfig.overridden Connection.oneShell).check Connection.oneShell = .ok () ∧
      Runnable (patientConfig.overridden Connection.oneShell) := by
  have read : Config.parse Connection.oneShell patientText = .ok patientConfig := by decide +kernel
  have command : Connection.oneShell.hasCommand
      (patientConfig.overridden Connection.oneShell).shell.command = true := Connection.hasCommand_oneShell
  have checked : (patientConfig.overridden Connection.oneShell).check Connection.oneShell = .ok () := by
    unfold Config.check
    rw [command]
    decide +kernel
  exact ⟨read, checked, runnable_of_check read checked⟩

end TerminalAgent.Agent
