import TerminalAgent.Proofs.SortedMap
import TerminalAgent.Recording.FaultyStore
import TerminalAgent.Recording.RecordingStore

/-! # What stores keep

A recorder relies on little: a recording that was made is empty and open, an append that succeeds
puts its bytes behind the others and one that fails changes nothing, and sealing changes no bytes.
`RecordingStore.Keeps` says so of a store, for a view of what it keeps under each key. The store in
memory, the store with planned failures and any store with failures added are such stores.
-/

namespace TerminalAgent

variable {σ : Type}

/-- The store keeps recordings as `kept` shows them, and what it refuses to do changes nothing. -/
structure RecordingStore.Keeps (store : RecordingStore σ) (kept : String → σ → Option Recording) :
    Prop where
  created : ∀ {key s s'}, store.create key s = (.ok (), s') → kept key s' = some ⟨[], false⟩
  appended : ∀ {key bytes more s s'}, kept key s = some ⟨bytes, false⟩ →
    store.append key more s = (.ok (), s') → kept key s' = some ⟨bytes ++ more, false⟩
  appendRefused : ∀ {key bytes more s s' error}, kept key s = some ⟨bytes, false⟩ →
    store.append key more s = (.error error, s') → kept key s' = some ⟨bytes, false⟩
  sealed : ∀ {key bytes s s'}, kept key s = some ⟨bytes, false⟩ →
    store.sealRecording key s = (.ok (), s') → kept key s' = some ⟨bytes, true⟩
  sealRefused : ∀ {key bytes s s' error}, kept key s = some ⟨bytes, false⟩ →
    store.sealRecording key s = (.error error, s') → kept key s' = some ⟨bytes, false⟩

/-! ## The store in memory -/

namespace MemoryStore

theorem create_ok {store store' : MemoryStore} {key : String}
    (h : store.create key = .ok store') :
    store'.recordings.get? key = some ⟨[], false⟩ := by
  unfold create at h
  split at h
  next => cases h
  next =>
    split at h
    next => cases h
    next =>
      cases h
      simp

section
variable {store : MemoryStore} {key : String} {bytes : Bytes}

theorem append_eq (more : Bytes) (kept : store.recordings.get? key = some ⟨bytes, false⟩) :
    store.append key more = .ok ⟨store.recordings.insert key ⟨bytes ++ more, false⟩⟩ := by
  simp only [append, openRecording, kept]
  rfl

theorem sealRecording_eq (kept : store.recordings.get? key = some ⟨bytes, false⟩) :
    store.sealRecording key = .ok ⟨store.recordings.insert key ⟨bytes, true⟩⟩ := by
  simp only [sealRecording, openRecording, kept]
  rfl

end

theorem keeps : recording.Keeps fun key store => store.recordings.get? key where
  created {key s s'} h := by
    simp only [recording] at h
    cases made : s.create key with
    | ok store =>
        simp only [made, StoreError.settle] at h
        cases h
        exact create_ok made
    | error error => simp [made, StoreError.settle] at h
  appended kept h := by
    simp only [recording, append_eq _ kept] at h
    cases h
    simp
  appendRefused kept h := by
    simp only [recording, append_eq _ kept] at h
    cases h
  sealed kept h := by
    simp only [recording, sealRecording_eq kept] at h
    cases h
    simp
  sealRefused kept h := by
    simp only [recording, sealRecording_eq kept] at h
    cases h

/-- What is kept sealed can be read. -/
theorem read_of_kept {store : MemoryStore} {key : String} {bytes : Bytes}
    (sealed : store.recordings.get? key = some ⟨bytes, true⟩) :
    store.archive.read key = .ok bytes := by
  simp only [archive, read, sealed, if_true]
  rfl

end MemoryStore

/-! ## Stores with failures -/

namespace FaultyStore

/-- What is done is done to the store, and what fails leaves it alone. -/
theorem perform_cases {call : StoreCall} {isToFail : Bool}
    {operation : MemoryStore → Except StoreError MemoryStore} {faulty faulty' : FaultyStore}
    {outcome : Except StoreError Unit}
    (h : perform call isToFail operation faulty = (outcome, faulty')) :
    (outcome = .ok () ∧ operation faulty.store = .ok faulty'.store) ∨
      ((∃ error, outcome = .error error) ∧ faulty'.store = faulty.store) := by
  unfold perform at h
  cases isToFail with
  | true =>
      cases h
      exact .inr ⟨⟨_, rfl⟩, rfl⟩
  | false =>
      cases done : operation faulty.store with
      | ok store =>
          simp only [done, Bool.false_eq_true, if_false] at h
          cases h
          exact .inl ⟨rfl, rfl⟩
      | error error =>
          simp only [done, Bool.false_eq_true, if_false] at h
          cases h
          exact .inr ⟨⟨_, rfl⟩, rfl⟩

theorem keeps : recording.Keeps fun key faulty => faulty.store.recordings.get? key where
  created h := by
    simp only [recording] at h
    obtain ⟨-, created⟩ | ⟨⟨_, refused⟩, -⟩ := perform_cases h
    · exact MemoryStore.create_ok created
    · cases refused
  appended kept h := by
    simp only [recording] at h
    obtain ⟨-, appended⟩ | ⟨⟨_, refused⟩, -⟩ := perform_cases h
    · rw [MemoryStore.append_eq _ kept, Except.ok.injEq] at appended
      simp [← appended]
    · cases refused
  appendRefused kept h := by
    simp only [recording] at h
    obtain ⟨done, -⟩ | ⟨-, same⟩ := perform_cases h
    · cases done
    · simpa only [same] using kept
  sealed kept h := by
    simp only [recording] at h
    obtain ⟨-, sealed⟩ | ⟨⟨_, refused⟩, -⟩ := perform_cases h
    · rw [MemoryStore.sealRecording_eq kept, Except.ok.injEq] at sealed
      simp [← sealed]
    · cases refused
  sealRefused kept h := by
    simp only [recording] at h
    obtain ⟨done, -⟩ | ⟨-, same⟩ := perform_cases h
    · cases done
    · simpa only [same] using kept

end FaultyStore

namespace RecordingStore

variable {store : RecordingStore σ} {kept : String → σ → Option Recording}

/-- A store that hands what it does to another keeps what that one does, though it may refuse an
    append by itself. -/
theorem Keeps.of_handed {τ : Type} {outer : RecordingStore τ} {inner : τ → σ} (h : store.Keeps kept)
    (create : ∀ {key s s' outcome}, outer.create key s = (outcome, s') →
      store.create key (inner s) = (outcome, inner s'))
    (append : ∀ {key bytes s s' outcome}, outer.append key bytes s = (outcome, s') →
      ((∃ error, outcome = .error error) ∧ inner s' = inner s) ∨
        store.append key bytes (inner s) = (outcome, inner s'))
    (sealRecording : ∀ {key s s' outcome}, outer.sealRecording key s = (outcome, s') →
      store.sealRecording key (inner s) = (outcome, inner s')) :
    outer.Keeps fun key s => kept key (inner s) where
  created made := h.created (create made)
  appended isOpen appended := by
    obtain ⟨⟨_, refused⟩, -⟩ | appended := append appended
    · cases refused
    · exact h.appended isOpen appended
  appendRefused isOpen refused := by
    obtain ⟨-, same⟩ | refused := append refused
    · rwa [same]
    · exact h.appendRefused isOpen refused
  sealed isOpen sealed := h.sealed isOpen (sealRecording sealed)
  sealRefused isOpen refused := h.sealRefused isOpen (sealRecording refused)

/-- The store, but the next appends are refused where the plan says so. -/
def refusing (store : RecordingStore σ) : RecordingStore (List Bool × σ) where
  create key s :=
    let (outcome, inner) := store.create key s.2
    (outcome, s.1, inner)
  append key bytes s :=
    match s.1 with
    | true :: plan => (throw (.io "" (.other "planned failure")), plan, s.2)
    | plan =>
        let (outcome, inner) := store.append key bytes s.2
        (outcome, plan.tail, inner)
  sealRecording key s :=
    let (outcome, inner) := store.sealRecording key s.2
    (outcome, s.1, inner)

theorem append_refusing {key : String} {bytes : Bytes} {s s' : List Bool × σ}
    {outcome : Except StoreError Unit} (h : store.refusing.append key bytes s = (outcome, s')) :
    ((∃ error, outcome = .error error) ∧ s'.2 = s.2) ∨
      store.append key bytes s.2 = (outcome, s'.2) := by
  obtain ⟨plan, inner⟩ := s
  match plan with
  | true :: plan =>
      cases h
      exact .inl ⟨⟨_, rfl⟩, rfl⟩
  | [] | false :: plan =>
      obtain ⟨rfl, rfl⟩ := Prod.mk.inj h
      exact .inr rfl

theorem Keeps.refusing (h : store.Keeps kept) : store.refusing.Keeps fun key s => kept key s.2 := by
  refine h.of_handed ?_ append_refusing ?_
  · rintro key s _ _ ⟨⟩
    rfl
  · rintro key s _ _ ⟨⟩
    rfl

end RecordingStore

end TerminalAgent
