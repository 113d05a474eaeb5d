import Mathlib.Data.List.TakeWhile
import TerminalAgent.Proofs.Text.Characters
import TerminalAgent.Proofs.Url.Parts

/-! # References that name a path

A reference of plain parts between slashes leads from a base to the path of these parts, and what follows
a question mark becomes the query.
-/

namespace TerminalAgent.Url

/-- A character that stands for itself in a part of a path. -/
def isPartChar (c : Char) : Bool :=
  !escapedInPath c && !(['/', '\\', '.', '%', '|'].contains c)

structure PartChar (c : Char) : Prop where
  free : escapedInPath c = false
  noSlash (kind : SchemeKind) : kind.isSlash c = false
  noBar : c ≠ '|'
  noDot : c ∉ ['.', '%']
  noLowerDot : c.toLower ∉ ['.', '%']

theorem partChar_of_isPartChar {c : Char} (plain : isPartChar c = true) : PartChar c := by
  have ascii : c.toNat < 0x7F := by
    by_contra foreign
    have large : 0x7E < c.toNat := by omega
    simp [isPartChar, escapedInPath, isControlOrForeign, large] at plain
  have known := of_forall_ofNat (P := fun c => isPartChar c = true →
    escapedInPath c = false ∧ c ≠ '/' ∧ c ≠ '\\' ∧ c ≠ '|' ∧ c ∉ ['.', '%'] ∧ c.toLower ∉ ['.', '%'])
    (by decide +kernel) ascii
  obtain ⟨free, noSlash, noBackslash, noBar, noDot, noLowerDot⟩ := known plain
  exact ⟨free, fun kind => by simp [SchemeKind.isSlash, noSlash, noBackslash], noBar, noDot, noLowerDot⟩

variable {kind : SchemeKind} {part : List Char}

/-! ## Parts -/

theorem escape_of_free {mustEscape : Char → Bool} {s : List Char} (free : ∀ c ∈ s, mustEscape c = false) :
    escape mustEscape (String.ofList s) = String.ofList s := by
  have chars : (s.flatMap fun c => if mustEscape c then (Utf8.encode c.toString).flatMap escapeByte else [c]) = s := by
    refine (List.flatMap_congr fun c member => ?_).trans (List.flatMap_singleton' s)
    rw [free c member]
    rfl
  rw [escape, String.toList_ofList, chars]

/-- The names of directories that are not plain begin with a dot or an escape of one. -/
theorem contains_eq_false {names : List String}
    (marked : ∀ name ∈ names, ∃ c ∈ name.toList.head?, c ∈ ['.', '%'])
    (unmarked : ∀ c ∈ part, c ∉ ['.', '%']) : names.contains (String.ofList part) = false := by
  rw [List.contains_eq_mem, decide_eq_false_iff_not]
  intro member
  obtain ⟨c, first, mark⟩ := marked _ member
  rw [String.toList_ofList] at first
  exact unmarked c (List.mem_of_mem_head? first) mark

theorem grow_plain (plain : ∀ c ∈ part, isPartChar c = true) (isLast : Bool) (parts : List String) :
    grow kind isLast parts part = parts ++ [String.ofList part] := by
  have noDot : isDot part = false :=
    contains_eq_false (by simp) fun c member => (partChar_of_isPartChar (plain c member)).noDot
  have noDoubleDot : isDoubleDot part = false := by
    refine contains_eq_false (by simp) fun c member => ?_
    obtain ⟨c, there, rfl⟩ := List.mem_map.mp member
    exact (partChar_of_isPartChar (plain c there)).noLowerDot
  have free := escape_of_free fun c member => (partChar_of_isPartChar (plain c member)).free
  unfold grow
  rw [if_neg (by simp [noDoubleDot]), if_neg (by simp [noDot])]
  split
  next letter => exact absurd rfl (partChar_of_isPartChar (plain '|' (by simp))).noBar
  next =>
    dsimp only
    rw [free]

theorem cutAtSlash_last (noSlash : ∀ c ∈ part, kind.isSlash c = false) :
    cutAtSlash kind part = (part, none) := by
  have whole : part.takeWhile (!kind.isSlash ·) = part :=
    List.takeWhile_eq_self_iff.mpr fun c member => by simp [noSlash c member]
  simp only [cutAtSlash, whole, List.drop_length]

theorem cutAtSlash_slash (noSlash : ∀ c ∈ part, kind.isSlash c = false) (rest : List Char) :
    cutAtSlash kind (part ++ '/' :: rest) = (part, some rest) := by
  have slash : kind.isSlash '/' = true := rfl
  have front : (part ++ '/' :: rest).takeWhile (!kind.isSlash ·) = part := by
    rw [List.takeWhile_append_of_pos fun c member => by simp [noSlash c member]]
    simp [slash]
  simp only [cutAtSlash, front, List.drop_left]

/-- Plain parts between slashes come behind the parts of a path. -/
theorem pathFrom_plain {names : List (List Char)} (some_ : names ≠ [])
    (plain : ∀ name ∈ names, ∀ c ∈ name, isPartChar c = true) {fuel : Nat} (enough : names.length ≤ fuel)
    (parts : List String) :
    pathFrom kind fuel parts (['/'].intercalate names) = parts ++ names.map String.ofList := by
  induction names generalizing fuel parts with
  | nil => exact absurd rfl some_
  | cons name names ih =>
      obtain ⟨first, others⟩ := List.forall_mem_cons.mp plain
      have noSlash : ∀ c ∈ name, kind.isSlash c = false := fun c member =>
        (partChar_of_isPartChar (first c member)).noSlash kind
      cases fuel with
      | zero => cases enough
      | succ fuel =>
          rw [pathFrom_succ]
          cases names with
          | nil =>
              rw [List.intercalate_singleton, cutAtSlash_last noSlash]
              exact grow_plain first true parts
          | cons next names =>
              rw [List.intercalate_cons_cons, List.append_assoc, List.singleton_append, cutAtSlash_slash noSlash]
              dsimp only
              rw [ih (List.cons_ne_nil _ _) others (Nat.le_of_succ_le_succ enough), grow_plain first]
              simp

/-! ## References -/

theorem cut_plain {front : List Char} (plain : ∀ c ∈ front, c ≠ '?' ∧ c ≠ '#') (query : Option (List Char))
    (noFragment : ∀ text ∈ query, '#' ∉ text) :
    cut (front ++ query.elim [] ('?' :: ·)) = ⟨front, query, none⟩ := by
  have front_ : (front ++ query.elim [] ('?' :: ·)).takeWhile (fun c => c ≠ '?' && c ≠ '#') = front := by
    rw [List.takeWhile_append_of_pos fun c member => by simp [plain c member]]
    cases query <;> simp
  unfold cut
  rw [front_]
  dsimp only
  cases query with
  | none => simp
  | some text =>
      have whole : text.takeWhile (· ≠ '#') = text :=
        List.takeWhile_eq_self_iff.mpr fun c member => by
          simpa using ne_of_mem_of_not_mem member (noFragment text rfl)
      simp only [Option.elim_some, List.drop_left, whole, List.drop_length]

theorem join_slash {base : Url} (special : kindOf base.scheme = .special) {parts : List String}
    (path : base.path = .segments parts) {s : String} {rest : List Char} (text : clean s = '/' :: rest) :
    join base s = parseRelative base parts (cut ('/' :: rest)) := by
  have noScheme : splitScheme? ('/' :: rest) = none := rfl
  unfold join
  rw [text]
  dsimp only
  rw [noScheme]
  dsimp only
  split
  next _ _ front => exact absurd (List.cons.inj front).1 (by decide)
  next _ opaque_ _ =>
    rw [path] at opaque_
    cases opaque_
  next _ segments _ =>
    rw [path] at segments
    cases segments
    rw [if_neg (by rw [special]; nofun)]

theorem mem_intercalate {c separator : Char} {names : List (List Char)}
    (member : c ∈ [separator].intercalate names) : c = separator ∨ ∃ name ∈ names, c ∈ name := by
  induction names with
  | nil => cases member
  | cons name names ih =>
      cases names with
      | nil =>
          rw [List.intercalate_singleton] at member
          exact .inr ⟨name, List.mem_cons_self, member⟩
      | cons next names =>
          rw [List.intercalate_cons_cons, List.append_assoc, List.mem_append, List.singleton_append,
            List.mem_cons] at member
          rcases member with here | between | later
          · exact .inr ⟨name, List.mem_cons_self, here⟩
          · exact .inl between
          · rcases ih later with between | ⟨other, there, among⟩
            · exact .inl between
            · exact .inr ⟨other, List.mem_cons_of_mem _ there, among⟩

theorem length_le_intercalate_slash (names : List (List Char)) :
    names.length ≤ (['/'].intercalate names).length + 1 := by
  induction names with
  | nil => exact Nat.zero_le _
  | cons name names ih =>
      cases names with
      | nil => exact Nat.succ_le_succ (Nat.zero_le _)
      | cons next names =>
          rw [List.intercalate_cons_cons]
          simp only [List.length_append, List.length_cons, List.length_nil] at ih ⊢
          omega

/-- A reference from the root, of plain parts, leads to the path of these parts. -/
theorem join_rooted {base : Url} (special : kindOf base.scheme = .special) {parts : List String}
    (path : base.path = .segments parts) {names : List (List Char)}
    (begins : names.head?.any (· ≠ []) = true)
    (plain : ∀ name ∈ names, ∀ c ∈ name, isPartChar c = true) {query : Option (List Char)}
    (noFragment : ∀ text ∈ query, '#' ∉ text) {s : String}
    (text : clean s = '/' :: ['/'].intercalate names ++ query.elim [] ('?' :: ·)) :
    join base s = .ok { base with
      path := .segments (names.map String.ofList)
      query := query.map (encodeQuery .special)
      fragment := none } := by
  have front : ∀ c ∈ '/' :: ['/'].intercalate names, c ≠ '?' ∧ c ≠ '#' := by
    refine List.forall_mem_cons.mpr ⟨by decide, fun c member => ?_⟩
    rcases mem_intercalate member with rfl | ⟨name, there, among⟩
    · decide
    · have free := (partChar_of_isPartChar (plain name there c among)).free
      constructor <;> rintro rfl <;> cases free
  have cut_ := cut_plain front query noFragment
  have some_ : names ≠ [] := by
    rintro rfl
    cases begins
  obtain ⟨first, rest, begun, noSlash⟩ : ∃ first rest, ['/'].intercalate names = first :: rest ∧
      SchemeKind.special.isSlash first = false := by
    cases names with
    | nil => cases begins
    | cons name others =>
        cases name with
        | nil => cases begins
        | cons c name =>
            have noSlash := (partChar_of_isPartChar (plain (c :: name) List.mem_cons_self c List.mem_cons_self)).noSlash
            cases others with
            | nil => exact ⟨c, name, List.intercalate_singleton, noSlash .special⟩
            | cons next others => exact ⟨c, _, List.intercalate_cons_cons, noSlash .special⟩
  have segments : parsePath .special [] (['/'].intercalate names) = .segments (names.map String.ofList) := by
    exact congrArg Path.segments (pathFrom_plain some_ plain (length_le_intercalate_slash names) [])
  rw [List.cons_append] at text cut_
  rw [join_slash special path text, cut_, parseRelative, special]
  dsimp only
  have slash : SchemeKind.special.isSlash '/' = true := rfl
  rw [if_pos slash, segments, begun]
  dsimp only
  rw [noSlash, if_neg Bool.false_ne_true]
  rfl

end TerminalAgent.Url
