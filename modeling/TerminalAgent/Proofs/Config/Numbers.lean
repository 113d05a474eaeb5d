import TerminalAgent.Proofs.Config.RoundTrip
import TerminalAgent.Proofs.Toml.Contents

/-! # The numbers of a configuration

The integers of a text have 64 bits with sign, and every number of a configuration comes from a text or
is a default. So what is read can also be written.
-/

namespace TerminalAgent

namespace Toml

/-! ## Sections -/

/-- Reading the setting from an item whose integers fit keeps the property. -/
def Setting.Keeps (P : σ → Prop) (setting : Setting σ) : Prop :=
  ∀ item before after, item.Each Scalar.Fits → P before → setting.read item before = .ok after → P after

/-- Every setting of the section keeps the property. -/
def SectionFormat.Keeps (P : σ → Prop) (format : SectionFormat σ) : Prop :=
  ∀ setting ∈ format.settings, setting.Keeps P

namespace SectionFormat.Keeps

variable {σ : Type} {P : σ → Prop} {format : SectionFormat σ} {before after : σ}

theorem readEntry (keeps : format.Keeps P) {entry : Key × Item} (each : entry.2.Each Scalar.Fits)
    (holds : P before) (read : format.readEntry before entry = .ok after) : P after := by
  unfold SectionFormat.readEntry at read
  split at read
  next setting found =>
    exact keeps setting (List.mem_of_find?_eq_some found) _ _ _ each holds (mapError_eq_ok.mp read)
  next =>
    cases read
    exact holds

theorem readValues {settings : List (Setting σ)} (keeps : ∀ setting ∈ settings, setting.Keeps P)
    {items : List Item} (each : ∀ item ∈ items, item.Each Scalar.Fits) (holds : P before)
    (read : SectionFormat.readValues settings items before = .ok after) : P after := by
  induction settings generalizing items before with
  | nil =>
      cases read
      exact holds
  | cons setting settings ih =>
      cases items with
      | nil =>
          cases read
          exact holds
      | cons item items =>
          obtain ⟨keep, keeps⟩ := List.forall_mem_cons.mp keeps
          obtain ⟨fits, each⟩ := List.forall_mem_cons.mp each
          obtain ⟨between, first, others⟩ := bind_eq_ok.mp read
          exact ih keeps each (keep _ _ _ fits holds (mapError_eq_ok.mp first)) others

/-- What every setting keeps is kept when a section is read. -/
theorem read (keeps : format.Keeps P) {item : Item} (each : item.Each Scalar.Fits) (holds : P before)
    (read : format.read before item = .ok after) : P after := by
  cases each with
  | table all =>
      rw [read_table] at read
      exact foldlM_keeps (fun entry member => keeps.readEntry (all entry member)) holds read
  | array all => exact readValues keeps all holds read
  | tables all => exact readValues keeps all holds read
  | @scalar value span fits =>
      cases value with
      | datetime t =>
          cases read
          exact holds
      | text s => cases read
      | integer i => cases read
      | float x => cases read
      | boolean b => cases read

end SectionFormat.Keeps

namespace Setting.Keeps

variable {σ α : Type} {P : σ → Prop} {decoder : Decoder α} {put : α → σ → σ} {write : σ → Written}

/-- A setting whose value has a property that the section needs of it. -/
theorem of {name : String} {Q : α → Prop}
    (decodes : ∀ {item a}, item.Each Scalar.Fits → decoder item = .ok a → Q a)
    (keeps : ∀ {a before}, Q a → P before → P (put a before)) :
    (Setting.of name decoder put write).Keeps P := by
  intro item before after each holds read
  obtain ⟨a, decoded, rfl⟩ := map_eq_ok.mp read
  exact keeps (decodes each decoded) holds

/-- A setting that the property says nothing about. -/
theorem free {name : String} (keeps : ∀ {a before}, P before → P (put a before)) :
    (Setting.of name decoder put write).Keeps P :=
  of (Q := fun _ => True) (fun _ _ => trivial) fun _ => keeps

end Setting.Keeps

/-- A natural number that is read from an integer has 63 bits. -/
theorem Decoder.natural_fits {bound : Nat} {expected : String} {item : Item} {n : Nat}
    (each : item.Each Scalar.Fits) (decoded : natural bound expected item = .ok n) :
    n < 0x8000000000000000 := by
  unfold natural at decoded
  split at decoded
  next i span =>
    split at decoded
    next =>
      cases decoded
      cases each with
      | scalar fits =>
          have below := fits.2
          omega
    next => cases decoded
  next => cases decoded

end Toml

namespace Config

open Toml

theorem fits_of_natural {bound : Nat} {expected : String} {item : Item} {n : UInt64}
    (each : item.Each Scalar.Fits)
    (decoded : (Decoder.natural bound expected item).map UInt64.ofNat = .ok n) : Fits n := by
  obtain ⟨m, natural, rfl⟩ := map_eq_ok.mp decoded
  have below := Decoder.natural_fits each natural
  rw [Fits, UInt64.toNat_ofNat_of_lt' (Nat.lt_trans below (by decide))]
  exact below

/-! ## What the sections keep -/

def Server.Writable (server : Server) : Prop :=
  Fits server.heartbeatIntervalSecs ∧ Fits server.heartbeatTimeoutSecs

def Recording.Writable (recording : Recording) : Prop :=
  Fits recording.flushIntervalMs ∧ Fits recording.flushThresholdBytes

def Playback.Writable (playback : Playback) : Prop := Fits playback.lingerSecs

def Reconnect.Writable (reconnect : Reconnect) : Prop :=
  Fits reconnect.initialBackoffMs ∧ Fits reconnect.maxBackoffMs

def Dependency.Writable (dependency : Dependency) : Prop := Fits dependency.pollIntervalMs

/-- The numbers of a configuration can be written. -/
structure Writable (config : Config) : Prop where
  server : config.server.Writable
  recording : config.recording.Writable
  playback : config.playback.Writable
  reconnect : config.reconnect.Writable
  dependency : config.dependency.Writable

section Sections

open Setting.Keeps (of free)

theorem server_keeps : serverFormat.Keeps Server.Writable := by
  simp only [SectionFormat.Keeps, serverFormat, List.forall_mem_cons]
  exact ⟨free id, free id, of fits_of_natural fun fits held => ⟨fits, held.2⟩,
    of fits_of_natural fun fits held => ⟨held.1, fits⟩, List.forall_mem_nil _⟩

theorem recording_keeps : recordingFormat.Keeps Recording.Writable := by
  simp only [SectionFormat.Keeps, recordingFormat, List.forall_mem_cons]
  exact ⟨free id, of fits_of_natural fun fits held => ⟨fits, held.2⟩,
    of fits_of_natural fun fits held => ⟨held.1, fits⟩, List.forall_mem_nil _⟩

theorem playback_keeps : playbackFormat.Keeps Playback.Writable := by
  simp only [SectionFormat.Keeps, playbackFormat, List.forall_mem_cons]
  exact ⟨free id, free id, of fits_of_natural fun fits _ => fits, List.forall_mem_nil _⟩

theorem reconnect_keeps : reconnectFormat.Keeps Reconnect.Writable := by
  simp only [SectionFormat.Keeps, reconnectFormat, List.forall_mem_cons]
  exact ⟨of fits_of_natural fun fits held => ⟨fits, held.2⟩,
    of fits_of_natural fun fits held => ⟨held.1, fits⟩, free id, free id, List.forall_mem_nil _⟩

theorem dependency_keeps : dependencyFormat.Keeps Dependency.Writable := by
  simp only [SectionFormat.Keeps, dependencyFormat, List.forall_mem_cons]
  exact ⟨free id, of fits_of_natural fun fits _ => fits, List.forall_mem_nil _⟩

end Sections

/-! ## What is read -/

theorem writable_default (env : Environment) : (default env).Writable := by
  constructor <;> simp [default, Fits, Server.Writable, Recording.Writable, Playback.Writable,
    Reconnect.Writable, Dependency.Writable]

theorem Writable.fits {config : Config} (writable : config.Writable) : ∀ n ∈ config.wideNumbers, Fits n := by
  simp only [wideNumbers, List.forall_mem_cons]
  exact ⟨writable.server.1, writable.server.2, writable.recording.1, writable.recording.2,
    writable.playback, writable.reconnect.1, writable.reconnect.2, writable.dependency, List.forall_mem_nil _⟩

theorem readSection_writable {name : String} {item : Item} {config after : Config}
    (each : item.Each Scalar.Fits) (writable : config.Writable)
    (read : readSection name item config = .ok after) : after.Writable := by
  unfold readSection at read
  split at read
  next =>
    obtain ⟨agent, -, rfl⟩ := map_eq_ok.mp read
    exact { writable with }
  next =>
    obtain ⟨server, taken, rfl⟩ := map_eq_ok.mp read
    exact { writable with server := server_keeps.read each writable.server taken }
  next =>
    obtain ⟨shell, -, rfl⟩ := map_eq_ok.mp read
    exact { writable with }
  next =>
    obtain ⟨recording, taken, rfl⟩ := map_eq_ok.mp read
    exact { writable with recording := recording_keeps.read each writable.recording taken }
  next =>
    obtain ⟨playback, taken, rfl⟩ := map_eq_ok.mp read
    exact { writable with playback := playback_keeps.read each writable.playback taken }
  next =>
    obtain ⟨reconnect, taken, rfl⟩ := map_eq_ok.mp read
    exact { writable with reconnect := reconnect_keeps.read each writable.reconnect taken }
  next =>
    obtain ⟨dependency, taken, rfl⟩ := map_eq_ok.mp read
    exact { writable with dependency := dependency_keeps.read each writable.dependency taken }
  next =>
    cases read
    exact writable

theorem parse_writable {env : Environment} {source : String} {config : Config}
    (parsed : parse env source = .ok config) : config.Writable := by
  obtain ⟨table, document, read⟩ := bind_eq_ok.mp parsed
  have each : table.Each Scalar.Fits := readDocument_fits (mapError_eq_ok.mp document)
  exact foldlM_keeps
    (fun entry member {_ _} writable taken =>
      readSection_writable (each entry member) writable (mapError_eq_ok.mp taken))
    (writable_default env) (mapError_eq_ok.mp read)

/-- No variable takes the place of a number. -/
theorem Writable.overridden {config : Config} (writable : config.Writable) (env : Environment) :
    (config.overridden env).Writable := by
  refine ⟨?_, writable.recording, writable.playback, writable.reconnect, ?_⟩
  · simp only [Config.overridden]
    split <;> split <;> exact writable.server
  · simp only [Config.overridden]
    split <;> exact writable.dependency

/-- Whatever is read can be written. -/
theorem toText_of_parse {env : Environment} {source : String} {config : Config}
    (parsed : parse env source = .ok config) : config.toText = .ok config.render :=
  toText_of_fits (parse_writable parsed).fits

end Config

end TerminalAgent
