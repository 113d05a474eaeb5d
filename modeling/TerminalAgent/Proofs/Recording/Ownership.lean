import Mathlib.Logic.Function.Basic
import TerminalAgent.Proofs.Storage.Volume
import TerminalAgent.Recording.DirectoryLock

/-! # Owners of a directory

Processes that contend for a directory take their file operations in any order, and two of them can
come to own it at once: a process may take away the file of an owner because it found the file still
empty, or because it had looked into an older one. `Race.run_exclusive` says that there is no other
way. A run in which neither happens has one owner at a time.
-/

namespace TerminalAgent.DirectoryLock

/-! ## The file of an owner -/

theorem parsePid?_repr {pid : Nat} (word : pid < 0x100000000) : parsePid? pid.repr = some pid := by
  have digits : ∀ c ∈ Nat.toDigits 10 pid, c.isDigit := fun c member =>
    Nat.isDigit_of_mem_toDigits (by decide) (by decide) member
  have unsigned : ∀ rest, Nat.toDigits 10 pid ≠ '+' :: rest := by
    intro rest same
    exact absurd (digits '+' (same ▸ List.mem_cons_self)) (by decide)
  have value : (Nat.toDigits 10 pid).foldl (fun n c => 10 * n + (c.toNat - 48)) 0 = pid :=
    Nat.ofDigitChars_ten_toDigits
  unfold parsePid?
  rw [Nat.toList_repr]
  split
  next rest same => exact absurd same (unsigned rest)
  next =>
    have all : (Nat.toDigits 10 pid).all Char.isDigit = true := List.all_eq_true.mpr digits
    simp only [value, all, Nat.toDigits_ne_nil, ne_eq, not_false_eq_true, decide_true, Bool.and_self,
      if_true, if_pos word]

theorem not_isBlank_of_isDigit {c : Char} (h : c.isDigit) : Text.isBlank c = false := by
  have bounds : 48 ≤ c.toNat ∧ c.toNat ≤ 57 := by
    simpa [Char.isDigit, UInt32.le_iff_toNat_le] using h
  simp [Text.isBlank]
  omega

theorem dropWhile_isBlank {text rest : List Char} (some : text ≠ [])
    (dense : ∀ c ∈ text, Text.isBlank c = false) :
    (text ++ rest).dropWhile Text.isBlank = text ++ rest := by
  obtain ⟨first, others, rfl⟩ := List.exists_cons_of_ne_nil some
  have notBlank := dense first List.mem_cons_self
  rw [List.cons_append, List.dropWhile_cons_of_neg (by simp [notBlank])]

/-- Of a line without blanks only its end is cut off. -/
theorem trim_line {text : String} (some : text ≠ "")
    (dense : ∀ c ∈ text.toList, Text.isBlank c = false) : Text.trim (text ++ "\n") = text := by
  have front : text.toList ≠ [] := by simpa using some
  have back : text.toList.reverse ≠ [] := by simpa using some
  have newline : Text.isBlank '\n' = true := by decide
  have ends : "\n".toList = ['\n'] := by decide
  rw [Text.trim, String.toList_append, dropWhile_isBlank front dense, ends, List.reverse_append,
    List.reverse_singleton, List.singleton_append, List.dropWhile_cons_of_pos newline,
    ← List.append_nil text.toList.reverse, dropWhile_isBlank back (by simpa using dense),
    List.append_nil, List.reverse_reverse, String.ofList_toList]

/-- A file that a process has signed names this process. -/
theorem owner?_of_signed {volume : Volume} {pid : Nat} (word : pid < 0x100000000)
    (signed : volume.file? fileName = some (fileText pid)) : owner? volume = some pid := by
  have dense : ∀ c ∈ pid.repr.toList, Text.isBlank c = false := by
    intro c member
    rw [Nat.toList_repr] at member
    exact not_isBlank_of_isDigit (Nat.isDigit_of_mem_toDigits (by decide) (by decide) member)
  have line := trim_line Nat.repr_ne_empty dense
  simp only [owner?, Volume.read_eq signed, fileText, Nat.toString_eq_repr]
  simp [Except.toOption, Utf8.decode?_encode, line, parsePid?_repr word]

/-! ## Processes at one directory -/

/-- Processes that contend for a directory, all of them running. Some may have the same number, as
    owners within one process do. -/
structure Contest (n : Nat) where
  path : String
  isRunning : Nat → Bool
  pid : Fin n → Nat
  running : ∀ i, isRunning (pid i) = true
  word : ∀ i, pid i < 0x100000000

def Contest.contender {n : Nat} (contest : Contest n) (i : Fin n) : Contender :=
  ⟨contest.pid i, contest.path, contest.isRunning⟩

namespace Phase

/-- From making the file to taking it away. -/
def owns : Phase → Bool
  | writing _ | holding | releasing | withdrawing => true
  | _ => false

/-- The number is in the file. -/
def hasSigned : Phase → Bool
  | holding | releasing | withdrawing => true
  | _ => false

/-- About to write into the file that the name stands for. -/
def isWriting (node : Option Node) : Phase → Bool
  | writing id => node = some (.file id)
  | _ => false

theorem owns_of_hasSigned {phase : Phase} (h : phase.hasSigned) : phase.owns := by
  cases phase with
  | holding | releasing | withdrawing => rfl
  | _ => cases h

end Phase

structure Race (n : Nat) where
  volume : Volume
  phase : Fin n → Phase
  /-- What the name of the file stood for when a process last looked who owns it. -/
  seen : Fin n → Option Node

inductive Move (n : Nat) where
  /-- A process begins to take the directory. -/
  | acquire (i : Fin n)
  /-- It performs its next file operation. -/
  | proceed (i : Fin n)
  /-- It begins to give up what it holds. -/
  | release (i : Fin n)

namespace Race

variable {n : Nat} (contest : Contest n)

def start (volume : Volume) : Race n where
  volume := volume
  phase _ := .released
  seen _ := none

def moved (race : Race n) (i : Fin n) (phase : Phase) (volume : Volume) (seen : Option Node) :
    Race n where
  volume := volume
  phase := Function.update race.phase i phase
  seen := Function.update race.seen i seen

/-- What a process has seen once its next operation is done. -/
def sight (race : Race n) (i : Fin n) : Option Node :=
  match race.phase i with
  | .inspecting _ => race.volume.node? fileName
  | _ => race.seen i

def step (race : Race n) : Move n → Race n
  | .acquire i =>
      match race.phase i with
      | .released | .refused _ => race.moved i (.creating attempts) race.volume (race.seen i)
      | _ => race
  | .proceed i =>
      let (phase, volume) := DirectoryLock.step (contest.contender i) (race.phase i) race.volume
      race.moved i phase volume (race.sight i)
  | .release i =>
      match race.phase i with
      | .holding => race.moved i .releasing race.volume (race.seen i)
      | _ => race

def run (race : Race n) (moves : List (Move n)) : Race n :=
  moves.foldl (step contest) race

/-- A process looks into no file that its maker has still to sign, and takes away only the file that it
    has looked into. -/
def isCareful (race : Race n) : Move n → Bool
  | .proceed i =>
      let node := race.volume.node? fileName
      match race.phase i with
      | .inspecting _ => decide (∀ other, (race.phase other).isWriting node = false)
      | .clearing _ => node = none || node = race.seen i
      | _ => true
  | _ => true

def isOrderly (race : Race n) : List (Move n) → Bool
  | [] => true
  | move :: rest => race.isCareful move && (race.step contest move).isOrderly rest

/-! ## One owner -/

structure Exclusive (race : Race n) : Prop where
  sound : race.volume.Sound
  sole : ∀ {i j}, (race.phase i).owns → (race.phase j).owns → i = j
  made : ∀ {i id}, race.phase i = .writing id →
    race.volume.node? fileName = some (.file id) ∧ race.volume.content id = []
  signed : ∀ {i}, (race.phase i).hasSigned →
    race.volume.file? fileName = some (fileText (contest.pid i))
  /-- What a process is about to take away is not the file of an owner. -/
  stale : ∀ {i left}, race.phase i = .clearing left → ∀ j, (race.phase j).owns →
    race.volume.node? fileName ≠ race.seen i
  known : ∀ {i left id}, race.phase i = .clearing left → race.seen i = some (.file id) →
    id < race.volume.contents.length

theorem phase_moved (race : Race n) (i j : Fin n) (phase : Phase) (volume : Volume)
    (seen : Option Node) :
    (race.moved i phase volume seen).phase j = if j = i then phase else race.phase j :=
  Function.update_apply ..

theorem seen_moved (race : Race n) (i j : Fin n) (phase : Phase) (volume : Volume)
    (seen : Option Node) :
    (race.moved i phase volume seen).seen j = if j = i then seen else race.seen j :=
  Function.update_apply ..

namespace Exclusive

variable {contest} {race : Race n} {i : Fin n} {phase : Phase} {volume : Volume}

theorem node?_of_owns (h : Exclusive contest race) (owns : (race.phase i).owns) :
    ∃ id, race.volume.node? fileName = some (.file id) := by
  cases reached : race.phase i with
  | writing id => exact ⟨id, (h.made reached).1⟩
  | holding | releasing | withdrawing =>
      have signed := h.signed (i := i) (by rw [reached]; rfl)
      obtain ⟨id, found, -⟩ := Volume.exists_node?_of_file? signed
      exact ⟨id, found⟩
  | _ => simp [reached, Phase.owns] at owns

/-- A process that does not own the file, or no longer, leaves the directory as it is. -/
theorem aside (h : Exclusive contest race) (seen : Option Node) (disowns : phase.owns = false)
    (judged : ∀ left, phase = .clearing left →
      seen = race.volume.node? fileName ∧ ∀ j, (race.phase j).owns = false) :
    Exclusive contest (race.moved i phase race.volume seen) := by
  have owner {j : Fin n} (owns : ((race.moved i phase race.volume seen).phase j).owns) :
      (race.phase j).owns := by
    rw [phase_moved] at owns
    split at owns
    next => rw [disowns] at owns; cases owns
    next => exact owns
  constructor
  case sound => exact h.sound
  case sole => exact fun ownsJ ownsK => h.sole (owner ownsJ) (owner ownsK)
  case made =>
    intro j id reached
    rw [phase_moved] at reached
    split at reached
    next => simp [reached, Phase.owns] at disowns
    next => exact h.made reached
  case signed =>
    intro j signed
    rw [phase_moved] at signed
    split at signed
    next =>
      rw [Phase.owns_of_hasSigned signed] at disowns
      cases disowns
    next => exact h.signed signed
  case stale =>
    intro j left reached k owns
    rw [phase_moved] at reached
    rw [seen_moved]
    split at reached
    next =>
      have nobody := (judged left reached).2 k
      rw [owner owns] at nobody
      cases nobody
    next elsewhere =>
      rw [if_neg elsewhere]
      exact h.stale reached k (owner owns)
  case known =>
    intro j left id reached seenThere
    rw [phase_moved] at reached
    rw [seen_moved] at seenThere
    split at reached
    next here =>
      rw [if_pos here, (judged left reached).1] at seenThere
      exact h.sound.inRange seenThere
    next elsewhere =>
      rw [if_neg elsewhere] at seenThere
      exact h.known reached seenThere

/-- While nobody else owns the file, a process may change it. -/
theorem alone (h : Exclusive contest race) (seen : Option Node) (sound : volume.Sound)
    (longer : race.volume.contents.length ≤ volume.contents.length)
    (alone : ∀ j, (race.phase j).owns → j = i)
    (made : ∀ id, phase = .writing id →
      volume.node? fileName = some (.file id) ∧ volume.content id = [])
    (signed : phase.hasSigned → volume.file? fileName = some (fileText (contest.pid i)))
    (fresh : phase.owns → ∀ j left, race.phase j = .clearing left →
      volume.node? fileName ≠ race.seen j)
    (notClearing : ∀ left, phase ≠ .clearing left) :
    Exclusive contest (race.moved i phase volume seen) := by
  have owner {j : Fin n} (owns : ((race.moved i phase volume seen).phase j).owns) :
      j = i ∧ phase.owns := by
    rw [phase_moved] at owns
    split at owns
    next here => exact ⟨here, owns⟩
    next elsewhere => exact absurd (alone j owns) elsewhere
  constructor
  case sound => exact sound
  case sole =>
    intro j k ownsJ ownsK
    rw [(owner ownsJ).1, (owner ownsK).1]
  case made =>
    intro j id reached
    have here : j = i := (owner (by rw [reached]; rfl)).1
    rw [phase_moved, if_pos here] at reached
    exact made id reached
  case signed =>
    intro j signedThere
    have here : j = i := (owner (Phase.owns_of_hasSigned signedThere)).1
    rw [phase_moved, if_pos here] at signedThere
    rw [here]
    exact signed signedThere
  case stale =>
    intro j left reached k owns
    rw [phase_moved] at reached
    rw [seen_moved]
    split at reached
    next => exact absurd reached (notClearing left)
    next elsewhere =>
      rw [if_neg elsewhere]
      exact fresh (owner owns).2 j left reached
  case known =>
    intro j left id reached seenThere
    rw [phase_moved] at reached
    rw [seen_moved] at seenThere
    split at reached
    next => exact absurd reached (notClearing left)
    next elsewhere =>
      rw [if_neg elsewhere] at seenThere
      exact Nat.lt_of_lt_of_le (h.known reached seenThere) longer

/-- An owner that has signed goes on and leaves the directory as it is. -/
theorem keep (h : Exclusive contest race) (seen : Option Node) (before : (race.phase i).hasSigned)
    (after : phase.hasSigned) : Exclusive contest (race.moved i phase race.volume seen) := by
  have owns := Phase.owns_of_hasSigned before
  refine h.alone seen h.sound (Nat.le_refl _) (fun j ownsJ => h.sole ownsJ owns) ?_ ?_ ?_ ?_
  · rintro id rfl
    cases after
  · exact fun _ => h.signed before
  · exact fun _ j left clearing => h.stale clearing i owns
  · rintro left rfl
    cases after

/-- The file is taken away, and with it the only owner. -/
theorem vacate (h : Exclusive contest race) (seen : Option Node)
    (alone : ∀ j, (race.phase j).owns → j = i)
    (removed : race.volume.remove fileName = .ok volume) (disowns : phase.owns = false)
    (notClearing : ∀ left, phase ≠ .clearing left) :
    Exclusive contest (race.moved i phase volume seen) := by
  have contents : volume.contents = race.volume.contents := by rw [Volume.remove_ok removed]
  refine h.alone seen (h.sound.remove removed) (Nat.le_of_eq (by rw [contents])) alone ?_ ?_ ?_ notClearing
  · rintro id rfl
    cases disowns
  · intro signed
    rw [Phase.owns_of_hasSigned signed] at disowns
    cases disowns
  · intro owns
    rw [owns] at disowns
    cases disowns

/-- Where a process finds no running owner and nobody has still to sign, there is no owner. -/
theorem unowned (h : Exclusive contest race)
    (careful : ∀ j, (race.phase j).isWriting (race.volume.node? fileName) = false)
    (stopped : ∀ pid, owner? race.volume = some pid → contest.isRunning pid = false) (j : Fin n) :
    (race.phase j).owns = false := by
  cases reached : race.phase j with
  | writing id =>
      have notYet := careful j
      simp [reached, Phase.isWriting, (h.made reached).1] at notYet
  | holding | releasing | withdrawing =>
      have signed := h.signed (i := j) (by rw [reached]; rfl)
      have named := owner?_of_signed (contest.word j) signed
      have running := contest.running j
      rw [stopped _ named] at running
      cases running
  | _ => rfl

theorem proceed (h : Exclusive contest race) (careful : race.isCareful (.proceed i)) :
    Exclusive contest (race.step contest (.proceed i)) := by
  simp only [step]
  cases reached : race.phase i with
  | creating left =>
      cases left with
      | zero => exact h.aside _ rfl (by simp [DirectoryLock.step])
      | succ left =>
          simp only [DirectoryLock.step]
          split
          next volume id made =>
            have free : race.volume.node? fileName = none := (Volume.createNew_ok made).2.1
            have nodes := Volume.node?_createNew made fileName
            rw [if_pos rfl] at nodes
            obtain ⟨-, -, new, after⟩ := Volume.createNew_ok made
            refine h.alone _ (h.sound.createNew made) (by simp [after]) ?_ ?_ (by simp [Phase.hasSigned])
              ?_ (by simp)
            · intro j owns
              obtain ⟨other, taken⟩ := h.node?_of_owns owns
              rw [free] at taken
              cases taken
            · rintro _ ⟨⟩
              refine ⟨nodes, ?_⟩
              simp [after, new, Volume.content]
            · intro _ j left clearing seen
              rw [nodes] at seen
              have old := h.known clearing seen.symm
              omega
          next => exact h.aside _ rfl (by simp)
          next => exact h.aside _ rfl (by simp)
  | writing id =>
      have owns : (race.phase i).owns := by rw [reached]; rfl
      obtain ⟨named, blank⟩ := h.made reached
      refine h.alone _ (h.sound.append id _) (by simp [DirectoryLock.step, Volume.append])
        (fun j ownsJ => h.sole ownsJ owns) (by simp [DirectoryLock.step]) ?_ ?_
        (by simp [DirectoryLock.step])
      · intro _
        simp only [DirectoryLock.step]
        rw [h.sound.file?_append named, if_pos rfl, blank, List.nil_append]
        rfl
      · exact fun _ j left clearing => h.stale clearing i owns
  | inspecting left =>
      simp only [isCareful, reached, decide_eq_true_eq] at careful
      have sight : race.sight i = race.volume.node? fileName := by simp only [sight, reached]
      simp only [DirectoryLock.step, sight]
      split
      next pid named =>
        split
        next => exact h.aside _ rfl (by simp)
        next stopped =>
          refine h.aside _ rfl fun _ _ => ⟨rfl, h.unowned careful ?_⟩
          rintro _ found
          rw [named] at found
          cases found
          simpa [Contest.contender] using stopped
      next nameless =>
        refine h.aside _ rfl fun _ _ => ⟨rfl, h.unowned careful ?_⟩
        rintro _ found
        rw [nameless] at found
        cases found
  | clearing left =>
      simp only [isCareful, reached, Bool.or_eq_true, decide_eq_true_eq] at careful
      simp only [DirectoryLock.step]
      split
      next volume removed =>
        refine h.vacate _ ?_ removed rfl (by simp)
        intro j owns
        obtain ⟨id, there⟩ := h.node?_of_owns owns
        obtain gone | same := careful
        · rw [there] at gone
          cases gone
        · exact absurd same (h.stale reached j owns)
      next => exact h.aside _ rfl (by simp)
      next => exact h.aside _ rfl (by simp)
  | blaming =>
      simp only [DirectoryLock.step]
      split <;> exact h.aside _ rfl (by simp)
  | releasing =>
      simp only [DirectoryLock.step]
      split
      next => exact h.keep _ (by rw [reached]; rfl) rfl
      next => exact h.aside _ rfl (by simp)
  | withdrawing =>
      have owns : (race.phase i).owns := by rw [reached]; rfl
      simp only [DirectoryLock.step]
      split
      next volume removed =>
        exact h.vacate _ (fun j ownsJ => h.sole ownsJ owns) removed rfl (by simp)
      next => exact h.aside _ rfl (by simp)
  | holding => exact h.keep _ (by rw [reached]; rfl) rfl
  | refused | released => exact h.aside _ rfl (by simp [DirectoryLock.step])

theorem step (h : Exclusive contest race) {move : Move n} (careful : race.isCareful move) :
    Exclusive contest (race.step contest move) := by
  cases move with
  | proceed i => exact h.proceed careful
  | acquire i =>
      simp only [Race.step]
      split
      next => exact h.aside _ rfl (by simp)
      next => exact h.aside _ rfl (by simp)
      next => exact h
  | release i =>
      simp only [Race.step]
      split
      next reached => exact h.keep _ (by rw [reached]; rfl) rfl
      next => exact h

theorem start {volume : Volume} (sound : volume.Sound) : Exclusive contest (start volume) where
  sound := sound
  sole owns := by cases owns
  made reached := by cases reached
  signed signed := by cases signed
  stale reached := by cases reached
  known reached := by cases reached

theorem run (h : Exclusive contest race) {moves : List (Move n)}
    (orderly : race.isOrderly contest moves) : Exclusive contest (race.run contest moves) := by
  induction moves generalizing race with
  | nil => exact h
  | cons move rest ih =>
      obtain ⟨careful, orderly⟩ := Bool.and_eq_true_iff.mp orderly
      exact ih (h.step careful) orderly

end Exclusive

/-- Whatever the directory held and in whatever order processes take their steps, no two of them hold
    the directory at once, if no process looks into a file that has still to be signed or takes away
    another file than it has looked into. -/
theorem run_exclusive (contest : Contest n) {volume : Volume} (sound : volume.Sound)
    {moves : List (Move n)} (orderly : (start volume).isOrderly contest moves) {i j : Fin n}
    (apart : i ≠ j) :
    ¬ (((start volume).run contest moves).phase i = .holding ∧
      ((start volume).run contest moves).phase j = .holding) := by
  rintro ⟨holdsI, holdsJ⟩
  have exclusive : Exclusive contest ((start volume).run contest moves) :=
    (Exclusive.start sound).run orderly
  exact apart (exclusive.sole (by rw [holdsI]; rfl) (by rw [holdsJ]; rfl))

/-- Two processes, and no other one is running. -/
def pair : Contest 2 where
  path := "recordings/agent.pid"
  isRunning pid := pid = 41 || pid = 42
  pid i := 41 + i
  running := by decide
  word := by decide

/-- A directory whose owner is gone. -/
def abandoned : Volume where
  present := true
  nodes := (∅ : SortedMap Node).insert fileName (.file 0)
  contents := [fileText 7]

theorem abandoned_sound : abandoned.Sound := by
  have only {name : String} {id : Nat} (found : abandoned.node? name = some (.file id)) :
      name = fileName ∧ id = 0 := by
    simp only [abandoned, Volume.node?, SortedMap.get?_insert, SortedMap.get?_empty] at found
    split at found
    next here => exact ⟨here, by simpa [eq_comm] using found⟩
    next => cases found
  constructor
  · intro name id found
    rw [(only found).2]
    exact Nat.zero_lt_one
  · intro a b id foundA foundB
    rw [(only foundA).1, (only foundB).1]

/-- One process takes over from an owner that is gone, and the other one is refused. -/
theorem run_exclusive_taken_over :
    let moves : List (Move 2) := [.acquire 0, .acquire 1, .proceed 0, .proceed 1, .proceed 0, .proceed 0,
      .proceed 0, .proceed 0, .proceed 1]
    let race := (start abandoned).run pair moves
    (start abandoned).isOrderly pair moves ∧ race.phase 0 = .holding ∧
      race.phase 1 = .refused (.locked pair.path 41) ∧
      ¬ (race.phase 0 = .holding ∧ race.phase 1 = .holding) := by
  intro moves race
  have orderly : (start abandoned).isOrderly pair moves := by decide +kernel
  have holds : race.phase 0 = .holding := by decide +kernel
  have refused : race.phase 1 = .refused (.locked pair.path 41) := by decide +kernel
  exact ⟨orderly, holds, refused, run_exclusive pair abandoned_sound orderly (by decide)⟩

/-- Both processes see that the owner is gone. While the second hesitates, the first takes over; then the
    second takes the new file away. -/
theorem two_holders :
    let moves : List (Move 2) := [.acquire 0, .acquire 1, .proceed 1, .proceed 1, .proceed 0, .proceed 0,
      .proceed 0, .proceed 0, .proceed 0, .proceed 1, .proceed 1, .proceed 1]
    let race := (start abandoned).run pair moves
    abandoned.Sound ∧ pair.pid 0 ≠ pair.pid 1 ∧ race.phase 0 = .holding ∧ race.phase 1 = .holding := by
  refine ⟨abandoned_sound, by decide, ?_, ?_⟩ <;> decide +kernel

/-- The first has made the file, and the second finds it empty. -/
example :
    let race := (start .empty).run pair [.acquire 0, .acquire 1, .proceed 0, .proceed 1, .proceed 1,
      .proceed 1, .proceed 1, .proceed 1, .proceed 0]
    race.phase 0 = .holding ∧ race.phase 1 = .holding := by
  decide +kernel

end Race

end TerminalAgent.DirectoryLock
