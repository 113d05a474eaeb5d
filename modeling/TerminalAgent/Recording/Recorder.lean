import TerminalAgent.Config.Basic
import TerminalAgent.Duration
import TerminalAgent.Recording.Log
import TerminalAgent.Recording.RecordingStore
import TerminalAgent.Session.Output

/-!
# Recording a session

A recorder numbers the output of a session and writes it to a store in batches: when enough has
gathered, and at every tick of a clock. A batch that the store refuses stays in front of what comes
later. The recording is sealed only when all of it is written.
-/

namespace TerminalAgent

structure RecorderSettings where
  /-- The time between ticks. -/
  flushInterval : Duration
  /-- So many bytes are written without waiting for a tick. -/
  flushThreshold : Nat
  deriving Repr, DecidableEq

namespace RecorderSettings

def default : RecorderSettings where
  flushInterval := .ofMillis 250
  flushThreshold := 32768

/-- The settings that a configuration asks for. -/
def ofConfig (config : Config.Recording) : RecorderSettings where
  flushInterval := .ofMillis config.flushIntervalMs.toNat
  flushThreshold := config.flushThresholdBytes.toNat

end RecorderSettings

/-- What a recorder has done. -/
structure RecorderStats where
  chunks : Nat := 0
  bytes : Nat := 0
  /-- How often the echo mode changed. -/
  echoTransitions : Nat := 0
  writeErrors : Nat := 0
  /-- Bytes that could not be written in the end. -/
  unpersistedBytes : Nat := 0
  isSealed : Bool := false
  deriving Repr, DecidableEq

/-- A recorder at work. -/
structure Recorder where
  id : String
  threshold : Nat
  codec : Codec
  /-- The echo mode of the last output. -/
  echo : EchoMode
  /-- The number of the next chunk. -/
  seq : Nat
  /-- Frames that are not written yet. -/
  pending : Bytes
  /-- Whether the last batch was refused. -/
  isFailing : Bool
  stats : RecorderStats

namespace Recorder

variable {σ : Type} (store : RecordingStore σ)

/-- How often the last batch is tried. -/
def finalAttempts : Nat := 3

/-- A recorder that has seen nothing yet. -/
def new (id : String) (settings : RecorderSettings) : Recorder where
  id := id
  threshold := settings.flushThreshold
  codec := .compressing
  echo := .enabled
  seq := 0
  pending := []
  isFailing := false
  stats := {}

/-- Numbers a piece of output and puts its frame behind what is pending. -/
def record (recorder : Recorder) (atMs : Nat) (output : Output) : Recorder :=
  let stats :=
    if output.echo = recorder.echo then recorder.stats
    else { recorder.stats with echoTransitions := recorder.stats.echoTransitions + 1 }
  let chunk : Chunk :=
    { seq := UInt64.ofNat recorder.seq, atMs := UInt64.ofNat atMs, echo := output.echo,
      data := output.data }
  match Log.encodeChunk recorder.codec chunk with
  | .ok frame =>
      { recorder with
        echo := output.echo
        seq := recorder.seq + 1
        pending := recorder.pending ++ frame
        stats := { stats with
          chunks := stats.chunks + 1
          bytes := stats.bytes + output.data.length } }
  | .error _ =>
      { recorder with
        echo := output.echo
        stats := { stats with writeErrors := stats.writeErrors + 1 } }

/-- Writes what is pending, and says whether nothing is left. -/
def flush (recorder : Recorder) (s : σ) : Bool × Recorder × σ :=
  if recorder.pending.isEmpty then (true, recorder, s)
  else
    match store.append recorder.id recorder.pending s with
    | (.ok (), s) => (true, { recorder with pending := [], isFailing := false }, s)
    | (.error _, s) =>
        (false,
          { recorder with
            isFailing := true
            stats := { recorder.stats with writeErrors := recorder.stats.writeErrors + 1 } }, s)

/-- Takes a piece of output. While writing fails, only ticks try again. -/
def receive (recorder : Recorder) (atMs : Nat) (output : Output) (s : σ) : Recorder × σ :=
  let recorder := recorder.record atMs output
  if !recorder.isFailing && recorder.threshold ≤ recorder.pending.length then
    (recorder.flush store s).2
  else (recorder, s)

/-- What happens while the output goes on. -/
inductive Event where
  | output (atMs : Nat) (output : Output)
  | tick
  deriving Repr, DecidableEq

def step (recorder : Recorder) (event : Event) (s : σ) : Recorder × σ :=
  match event with
  | .output atMs output => recorder.receive store atMs output s
  | .tick => (recorder.flush store s).2

/-- Tries so often to write what is pending. -/
def flushUpTo : (attempts : Nat) → Recorder → σ → Bool × Recorder × σ
  | 0, recorder, s => (false, recorder, s)
  | attempts + 1, recorder, s =>
      match recorder.flush store s with
      | (true, recorder, s) => (true, recorder, s)
      | (false, recorder, s) => flushUpTo attempts recorder s

/-- What is done when the output has ended: all is written and sealed, or it is left open. -/
def finish (recorder : Recorder) (s : σ) : RecorderStats × σ :=
  match flushUpTo store finalAttempts recorder s with
  | (false, recorder, s) =>
      ({ recorder.stats with unpersistedBytes := recorder.pending.length }, s)
  | (true, recorder, s) =>
      match store.sealRecording recorder.id s with
      | (.ok (), s) => ({ recorder.stats with isSealed := true }, s)
      | (.error _, s) => (recorder.stats, s)

/-- Begins the recording. Without one, output is passed over. -/
def start (id : String) (settings : RecorderSettings) (s : σ) : Option Recorder × σ :=
  match store.create id s with
  | (.ok (), s) => (some (new id settings), s)
  | (.error _, s) => (none, s)

end Recorder

/-! ## By the clock -/

/-- A recorder with a clock and the output that waits for it. -/
structure RecorderTask where
  /-- The recorder, unless the recording could not be begun. -/
  recorder : Option Recorder
  /-- Milliseconds between ticks. -/
  intervalMs : Nat
  nextTickMs : Nat
  nowMs : Nat
  inbox : List Output

namespace RecorderTask

variable {σ : Type} (store : RecordingStore σ)

/-- A recorder that ticks at once and then at every interval. -/
def start (id : String) (settings : RecorderSettings) (s : σ) : RecorderTask × σ :=
  let (recorder, s) := Recorder.start store id settings s
  ({ recorder, intervalMs := settings.flushInterval.millis, nextTickMs := 0, nowMs := 0, inbox := [] }, s)

/-- Something happens to the recorder, if there is one. -/
def step (event : Recorder.Event) (task : RecorderTask) (s : σ) : RecorderTask × σ :=
  match task.recorder with
  | none => (task, s)
  | some recorder =>
      let (recorder, s) := recorder.step store event s
      ({ task with recorder := some recorder }, s)

/-- Output waits for the recorder to run. -/
def send (output : Output) (task : RecorderTask) : RecorderTask :=
  { task with inbox := task.inbox ++ [output] }

/-- The recorder takes what waits for it. -/
def drain (task : RecorderTask) (s : σ) : RecorderTask × σ :=
  task.inbox.foldl
    (fun (state : RecorderTask × σ) output => state.1.step store (.output state.1.nowMs output) state.2)
    ({ task with inbox := [] }, s)

/-- Lets at most `fuel` ticks pass that are due. -/
def tickFrom : (fuel : Nat) → RecorderTask → σ → RecorderTask × σ
  | 0, task, s => (task, s)
  | fuel + 1, task, s =>
      if task.nextTickMs ≤ task.nowMs then
        let (task, s) := task.step store .tick s
        tickFrom fuel { task with nextTickMs := task.nextTickMs + task.intervalMs } s
      else (task, s)

/-- Lets the recorder run while time passes. -/
def wait (ms : Nat) (task : RecorderTask) (s : σ) : RecorderTask × σ :=
  let (task, s) := task.drain store s
  let task := { task with nowMs := task.nowMs + ms }
  tickFrom store (task.nowMs + 1) task s

/-- What is done when the output has ended. -/
def finish (task : RecorderTask) (s : σ) : RecorderStats × σ :=
  let (task, s) := task.drain store s
  match task.recorder with
  | none => ({}, s)
  | some recorder => recorder.finish store s

end RecorderTask

end TerminalAgent
