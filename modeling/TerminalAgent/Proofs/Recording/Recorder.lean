import Mathlib.Data.List.Induction
import TerminalAgent.Proofs.Recording.Log
import TerminalAgent.Proofs.Recording.Stores
import TerminalAgent.Recording.Recorder

/-! # Nothing is lost while recording

What a recorder has taken is either in the store or pending, in the order in which it came. This
holds at every point, whatever the store refuses, and so the recording that is sealed in the end is
the log of all output.
-/

namespace TerminalAgent

namespace Recorder

variable {σ : Type} (store : RecordingStore σ)

/-- The recorder and its store after some events. -/
def run (events : List Event) (state : Recorder × σ) : Recorder × σ :=
  events.foldl (fun state event => state.1.step store event state.2) state

/-- The pieces of output among events, each with its time. -/
def outputs (events : List Event) : List (Nat × Output) :=
  events.filterMap fun event =>
    match event with
    | .output atMs output => some (atMs, output)
    | .tick => none

/-- The chunks that events bring, numbered from zero. -/
def received (events : List Event) : List Chunk :=
  (outputs events).mapIdx fun i piece =>
    ⟨UInt64.ofNat i, UInt64.ofNat piece.1, piece.2.echo, piece.2.data⟩

theorem run_concat (events : List Event) (event : Event) (state : Recorder × σ) :
    run store (events ++ [event]) state =
      (run store events state).1.step store event (run store events state).2 := by
  simp only [run, List.foldl_append, List.foldl_cons, List.foldl_nil]

@[simp] theorem received_concat_tick (events : List Event) :
    received (events ++ [.tick]) = received events := by
  simp [received, outputs]

@[simp] theorem received_concat_output (events : List Event) (atMs : Nat) (output : Output) :
    received (events ++ [.output atMs output]) = received events ++
      [⟨UInt64.ofNat (received events).length, UInt64.ofNat atMs, output.echo, output.data⟩] := by
  simp [received, outputs]

/-- Output whose chunk has a frame is put behind what is pending, under the next number. -/
theorem record_eq {recorder : Recorder} {atMs : Nat} {output : Output} {frame : Bytes}
    (encoded : Log.encodeChunk recorder.codec
      ⟨UInt64.ofNat recorder.seq, UInt64.ofNat atMs, output.echo, output.data⟩ = .ok frame) :
    ∃ stats, recorder.record atMs output =
        { recorder with
          echo := output.echo, seq := recorder.seq + 1, pending := recorder.pending ++ frame, stats } ∧
      stats.isSealed = recorder.stats.isSealed ∧
      stats.unpersistedBytes = recorder.stats.unpersistedBytes := by
  simp only [record, encoded]
  refine ⟨_, rfl, ?_, ?_⟩ <;> split <;> rfl

variable {store}

/-- The chunks are in `frames`, of which so many are in the store and the others pending. -/
structure Holds (kept : String → σ → Option Recording) (id : String) (chunks : List Chunk)
    (frames : List Bytes) (written : Nat) (recorder : Recorder) (s : σ) : Prop where
  encoded : chunks.mapM (Log.encodeChunk .compressing) = .ok frames
  stored : kept id s = some ⟨(frames.take written).flatten, false⟩
  pending : recorder.pending = (frames.drop written).flatten
  bound : written ≤ frames.length
  owner : recorder.id = id
  codec : recorder.codec = .compressing
  seq : recorder.seq = chunks.length
  isOpen : recorder.stats.isSealed = false
  unpersisted : recorder.stats.unpersistedBytes = 0

namespace Holds

variable {kept : String → σ → Option Recording} {id : String} {chunks : List Chunk}
  {frames : List Bytes} {written : Nat} {recorder : Recorder} {s : σ}

/-- The store and what is pending make up the log. -/
theorem together (h : Holds kept id chunks frames written recorder s) :
    ∃ stored, kept id s = some ⟨stored, false⟩ ∧ stored ++ recorder.pending = frames.flatten := by
  refine ⟨_, h.stored, ?_⟩
  rw [h.pending, ← List.flatten_append, List.take_append_drop]

theorem record (h : Holds kept id chunks frames written recorder s) (atMs : Nat) (output : Output)
    (fits : Log.Fits
      ⟨UInt64.ofNat chunks.length, UInt64.ofNat atMs, output.echo, output.data⟩) :
    ∃ frame, Holds kept id
      (chunks ++ [⟨UInt64.ofNat chunks.length, UInt64.ofNat atMs, output.echo, output.data⟩])
      (frames ++ [frame]) written (recorder.record atMs output) s := by
  obtain ⟨frame, encoded⟩ := Log.exists_encodeChunk .compressing fits
  have numbered : Log.encodeChunk recorder.codec
      ⟨UInt64.ofNat recorder.seq, UInt64.ofNat atMs, output.echo, output.data⟩ = .ok frame := by
    rw [h.codec, h.seq, encoded]
  obtain ⟨stats, recorded, isSealed, unpersisted⟩ := record_eq numbered
  refine ⟨frame, ?_⟩
  rw [recorded]
  constructor
  case encoded =>
    simp only [List.mapM_append, h.encoded, List.mapM_cons, List.mapM_nil, encoded]
    rfl
  case stored => rw [List.take_append_of_le_length h.bound, h.stored]
  case pending =>
    rw [List.drop_append_of_le_length h.bound, List.flatten_append, h.pending,
      List.flatten_singleton]
  case bound => exact Nat.le_trans h.bound (by simp)
  case owner => exact h.owner
  case codec => exact h.codec
  case seq => simp [h.seq]
  case isOpen => exact isSealed.trans h.isOpen
  case unpersisted => exact unpersisted.trans h.unpersisted

/-- Nothing pending means that all is written. -/
theorem allWritten (h : Holds kept id chunks frames written recorder s)
    (nothing : recorder.pending = []) :
    Holds kept id chunks frames frames.length recorder s := by
  -- What is not written adds nothing, so the first frames are the whole log already.
  have rest : (frames.drop written).flatten = [] := h.pending.symm.trans nothing
  have front : (frames.take written).flatten = frames.flatten := by
    rw [← List.append_nil (frames.take written).flatten, ← rest, ← List.flatten_append,
      List.take_append_drop]
  refine { h with stored := ?_, pending := ?_, bound := Nat.le_refl _ }
  · rw [List.take_length, h.stored, front]
  · rw [List.drop_length, nothing, List.flatten_nil]

/-- A flush writes everything or, if it is refused, changes nothing but the statistics. -/
theorem flush (keeps : store.Keeps kept) (h : Holds kept id chunks frames written recorder s) :
    Holds kept id chunks frames (if (recorder.flush store s).1 then frames.length else written)
      (recorder.flush store s).2.1 (recorder.flush store s).2.2 := by
  unfold Recorder.flush
  split
  next nothing => exact h.allWritten (List.isEmpty_iff.mp nothing)
  next =>
    cases appended : store.append recorder.id recorder.pending s with
    | mk outcome s' =>
        rw [h.owner] at appended
        cases outcome with
        | ok done =>
            have all : (frames.take written).flatten ++ recorder.pending = frames.flatten := by
              rw [h.pending, ← List.flatten_append, List.take_append_drop]
            refine { h with stored := ?_, pending := ?_, bound := Nat.le_refl _ }
            · rw [if_pos rfl, List.take_length, keeps.appended h.stored appended, all]
            · rw [if_pos rfl, List.drop_length, List.flatten_nil]
        | error error => exact { h with stored := keeps.appendRefused h.stored appended }

theorem flushUpTo (keeps : store.Keeps kept) (h : Holds kept id chunks frames written recorder s)
    (attempts : Nat) :
    Holds kept id chunks frames
      (if (recorder.flushUpTo store attempts s).1 then frames.length else written)
      (recorder.flushUpTo store attempts s).2.1 (recorder.flushUpTo store attempts s).2.2 := by
  induction attempts generalizing recorder s with
  | zero => exact h
  | succ attempts ih =>
      have tried := h.flush keeps
      unfold Recorder.flushUpTo
      split
      next flushed => rwa [flushed] at tried
      next refused =>
        rw [refused] at tried
        exact ih tried

/-- A piece of output is recorded, and perhaps written. -/
theorem receive (keeps : store.Keeps kept) (h : Holds kept id chunks frames written recorder s)
    (atMs : Nat) (output : Output)
    (fits : Log.Fits
      ⟨UInt64.ofNat chunks.length, UInt64.ofNat atMs, output.echo, output.data⟩) :
    ∃ frames written, Holds kept id
      (chunks ++ [⟨UInt64.ofNat chunks.length, UInt64.ofNat atMs, output.echo, output.data⟩])
      frames written (recorder.receive store atMs output s).1
      (recorder.receive store atMs output s).2 := by
  obtain ⟨frame, recorded⟩ := h.record atMs output fits
  simp only [Recorder.receive]
  split
  next => exact ⟨_, _, recorded.flush keeps⟩
  next => exact ⟨_, _, recorded⟩

theorem step (keeps : store.Keeps kept) {events : List Event} {event : Event}
    (h : Holds kept id (received events) frames written recorder s)
    (fits : ∀ chunk ∈ received (events ++ [event]), Log.Fits chunk) :
    ∃ frames written, Holds kept id (received (events ++ [event])) frames written
      (recorder.step store event s).1 (recorder.step store event s).2 := by
  cases event with
  | tick =>
      rw [received_concat_tick]
      exact ⟨_, _, h.flush keeps⟩
  | output atMs output =>
      rw [received_concat_output] at fits ⊢
      exact h.receive keeps atMs output (fits _ (by simp))

end Holds

theorem start_holds {kept : String → σ → Option Recording} (keeps : store.Keeps kept) {id : String}
    {settings : RecorderSettings} {s₀ s₁ : σ} {recorder₀ : Recorder}
    (started : start store id settings s₀ = (some recorder₀, s₁)) :
    Holds kept id [] [] 0 recorder₀ s₁ := by
  unfold start at started
  split at started
  next s created =>
    cases started
    exact ⟨rfl, keeps.created created, rfl, Nat.le_refl 0, rfl, rfl, rfl, rfl, rfl⟩
  next => cases started

/-- After any events, the chunks that came are in the store and pending. -/
theorem run_holds {kept : String → σ → Option Recording} (keeps : store.Keeps kept) {id : String}
    {settings : RecorderSettings} {s₀ s₁ : σ} {recorder₀ : Recorder}
    (started : start store id settings s₀ = (some recorder₀, s₁)) (events : List Event)
    (fits : ∀ chunk ∈ received events, Log.Fits chunk) :
    ∃ frames written, Holds kept id (received events) frames written
      (run store events (recorder₀, s₁)).1 (run store events (recorder₀, s₁)).2 := by
  -- On the last event: the number of a chunk depends on how many came before.
  induction events using List.reverseRecOn with
  | nil => exact ⟨[], 0, start_holds keeps started⟩
  | append_singleton events event ih =>
      have fitsBefore : ∀ chunk ∈ received events, Log.Fits chunk := by
        intro chunk member
        apply fits
        cases event with
        | tick => rwa [received_concat_tick]
        | output atMs output =>
            rw [received_concat_output]
            exact List.mem_append_left _ member
      obtain ⟨frames, written, holds⟩ := ih fitsBefore
      rw [run_concat]
      exact holds.step keeps fits

namespace Holds

variable {kept : String → σ → Option Recording} {id : String} {chunks : List Chunk}
  {frames : List Bytes} {written : Nat} {recorder : Recorder} {s : σ}

/-- A recording that was written to the end is the whole log, sealed if the store seals it. -/
theorem finish_of_flushed (keeps : store.Keeps kept)
    (h : Holds kept id chunks frames written recorder s)
    (flushed : (recorder.flushUpTo store finalAttempts s).1 = true) :
    (recorder.finish store s).1.unpersistedBytes = 0 ∧
      kept id (recorder.finish store s).2 =
        some ⟨frames.flatten, (recorder.finish store s).1.isSealed⟩ := by
  have final := h.flushUpTo keeps finalAttempts
  rw [flushed, if_pos rfl] at final
  simp only [finish]
  split
  next refused => simp [refused] at flushed
  next recorder s tried =>
    rw [tried] at final
    have stored : kept id s = some ⟨frames.flatten, false⟩ := by
      rw [final.stored, List.take_length]
    cases asked : store.sealRecording recorder.id s with
    | mk outcome s' =>
        rw [final.owner] at asked
        cases outcome with
        | ok done => exact ⟨final.unpersisted, keeps.sealed stored asked⟩
        | error error =>
            have isOpen : recorder.stats.isSealed = false := final.isOpen
            refine ⟨final.unpersisted, ?_⟩
            simp only [isOpen, keeps.sealRefused stored asked]

/-- A recording that could not be written to the end stays open with its first frames, and the
    statistics tell how long the others are. -/
theorem finish_of_refused (keeps : store.Keeps kept)
    (h : Holds kept id chunks frames written recorder s)
    (refused : (recorder.flushUpTo store finalAttempts s).1 = false) :
    (recorder.finish store s).1.isSealed = false ∧
      kept id (recorder.finish store s).2 = some ⟨(frames.take written).flatten, false⟩ ∧
      (recorder.finish store s).1.unpersistedBytes = (frames.drop written).flatten.length := by
  have final := h.flushUpTo keeps finalAttempts
  rw [refused] at final
  simp only [finish]
  split
  next recorder s tried =>
    rw [tried] at final
    exact ⟨final.isOpen, final.stored, congrArg List.length final.pending⟩
  next flushed => simp [flushed] at refused

end Holds

/-- Whatever comes and whatever the store refuses, the store and what is pending always make up the
    log of all chunks so far, also between the last attempts. In the end the recording is sealed
    with this log, or it stays open with the first frames of it, and the others are counted. -/
theorem run_lossless {kept : String → σ → Option Recording} (keeps : store.Keeps kept)
    {id : String} {settings : RecorderSettings} {s₀ s₁ : σ} {recorder₀ : Recorder}
    (started : start store id settings s₀ = (some recorder₀, s₁))
    (events : List Event) (fits : ∀ chunk ∈ received events, Log.Fits chunk)
    {recorder : Recorder} {s : σ} (reached : run store events (recorder₀, s₁) = (recorder, s))
    {stats : RecorderStats} {s' : σ} (finished : recorder.finish store s = (stats, s')) :
    ∃ frames, (received events).mapM (Log.encodeChunk .compressing) = .ok frames ∧
      (∃ stored, kept id s = some ⟨stored, false⟩ ∧
        stored ++ recorder.pending = frames.flatten) ∧
      (∀ attempts flushed recorder' t,
        recorder.flushUpTo store attempts s = (flushed, recorder', t) →
        ∃ stored, kept id t = some ⟨stored, false⟩ ∧
          stored ++ recorder'.pending = frames.flatten) ∧
      (stats.isSealed = true ↔ ∃ bytes, kept id s' = some ⟨bytes, true⟩) ∧
      (∀ bytes, kept id s' = some ⟨bytes, true⟩ →
        Log.decode bytes = .ok (received events) ∧ stats.unpersistedBytes = 0) ∧
      ((recorder.flushUpTo store finalAttempts s).1 = false →
        stats.isSealed = false ∧
        ∃ n, kept id s' = some ⟨(frames.take n).flatten, false⟩ ∧
          stats.unpersistedBytes = (frames.drop n).flatten.length) := by
  obtain ⟨frames, written, holds⟩ := run_holds keeps started events fits
  simp only [reached] at holds
  refine ⟨frames, holds.encoded, holds.together, ?_, ?_, ?_, ?_⟩
  · intro attempts flushed recorder' t tried
    have after := holds.flushUpTo keeps attempts
    simp only [tried] at after
    exact after.together
  · cases flushed : (recorder.flushUpTo store finalAttempts s).1 with
    | true =>
        obtain ⟨-, stored⟩ := holds.finish_of_flushed keeps flushed
        simp only [finished] at stored
        simp [stored]
    | false =>
        obtain ⟨isOpen, stored, -⟩ := holds.finish_of_refused keeps flushed
        simp only [finished] at isOpen stored
        simp [isOpen, stored]
  · intro bytes isSealed
    cases flushed : (recorder.flushUpTo store finalAttempts s).1 with
    | true =>
        obtain ⟨unpersisted, stored⟩ := holds.finish_of_flushed keeps flushed
        simp only [finished] at unpersisted stored
        rw [isSealed, Option.some.injEq, Recording.mk.injEq] at stored
        rw [stored.1]
        exact ⟨Log.decode_flatten (Log.frames_of_mapM holds.encoded), unpersisted⟩
    | false =>
        obtain ⟨-, stored, -⟩ := holds.finish_of_refused keeps flushed
        simp [finished, isSealed] at stored
  · intro refused
    obtain ⟨isOpen, stored, unpersisted⟩ := holds.finish_of_refused keeps refused
    simp only [finished] at isOpen stored unpersisted
    exact ⟨isOpen, written, stored, unpersisted⟩

/-- The store in memory refuses two batches, and still all is sealed. -/
theorem run_lossless_two_refusals :
    let store := MemoryStore.recording.refusing
    let events : List Event :=
      [.output 0 ⟨[104, 105], .enabled⟩, .tick, .output 7 ⟨[33], .disabled⟩, .tick, .tick]
    let state := run store events (new "session" .default,
      (start store "session" .default ([true, true], MemoryStore.empty)).2)
    ∃ bytes,
      (state.1.finish store state.2).2.2.recordings.get? "session" = some ⟨bytes, true⟩ ∧
      Log.decode bytes = .ok [⟨0, 0, .enabled, [104, 105]⟩, ⟨1, 7, .disabled, [33]⟩] := by
  intro store events state
  have started : start store "session" .default ([true, true], MemoryStore.empty) =
      (some (new "session" .default),
        (start store "session" .default ([true, true], MemoryStore.empty)).2) := rfl
  have reached : run store events (new "session" .default,
      (start store "session" .default ([true, true], MemoryStore.empty)).2) = (state.1, state.2) := by
    rw [Prod.eta]
  have finished : state.1.finish store state.2 =
      ((state.1.finish store state.2).1, (state.1.finish store state.2).2) := by
    rw [Prod.eta]
  obtain ⟨-, -, -, -, isSealed, decoded, -⟩ := run_lossless MemoryStore.keeps.refusing started
    events (by decide) reached finished
  obtain ⟨bytes, stored⟩ := isSealed.mp (by decide +kernel)
  exact ⟨bytes, stored, (decoded bytes stored).1⟩

end Recorder

end TerminalAgent
