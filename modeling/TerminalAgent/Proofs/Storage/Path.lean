import Mathlib.Data.String.Basic
import TerminalAgent.Storage.Path

/-! # Parts of a path

A path without slashes is one part, and nothing is before this part.
-/

namespace TerminalAgent

open String

private theorem splitOnAux_slash (before after : List Char) (absent : '/' ∉ after)
    (parts : List String) :
    splitOnAux (ofList (before ++ after)) "/" 0 ⟨utf8Len before⟩ 0 parts =
      parts.reverse ++ [ofList (before ++ after)] := by
  induction after generalizing before with
  | nil =>
      unfold splitOnAux
      have all : Pos.Raw.extract (ofList before) 0 ⟨utf8Len before⟩ = ofList before := by
        simpa using extract_of_valid [] before []
      simp [-ofList_append, all]
  | cons c after ih =>
      have differs : c ≠ '/' := fun same => absent (same ▸ List.mem_cons_self)
      have others : '/' ∉ after := fun member => absent (List.mem_cons_of_mem _ member)
      have inside : ¬ Pos.Raw.atEnd (ofList (before ++ c :: after)) ⟨utf8Len before⟩ := by
        have := c.utf8Size_pos
        simp only [atEnd_iff, rawEndPos_ofList, utf8Len_append, utf8Len_cons, Pos.Raw.le_iff]
        omega
      have here : Pos.Raw.get (ofList (before ++ c :: after)) ⟨utf8Len before⟩ = c :=
        get_of_valid before (c :: after)
      have slash : Pos.Raw.get "/" 0 = '/' := rfl
      have next : ((⟨utf8Len before⟩ : Pos.Raw).unoffsetBy 0).next (ofList (before ++ c :: after)) =
          ⟨utf8Len (before ++ [c])⟩ := by
        simpa [-ofList_append] using next_of_valid before c after
      have rest := ih (before ++ [c]) others
      rw [List.append_assoc, List.singleton_append] at rest
      unfold splitOnAux
      rw [if_neg inside, here, slash, if_neg (by simpa using differs), next, rest]

theorem splitOn_slash {path : String} (absent : '/' ∉ path.toList) : path.splitOn "/" = [path] := by
  have parts := splitOnAux_slash [] path.toList absent []
  simpa [splitOn] using parts

theorem Path.trimBackwards_name {chars : List Char} (absent : '/' ∉ chars) : trimBackwards chars = chars := by
  rw [trimBackwards.eq_def]
  split
  next => rfl
  next => exact absurd List.mem_cons_self absent
  next => exact absurd List.mem_cons_self absent
  next => exact absurd (List.mem_cons_of_mem _ List.mem_cons_self) absent
  next => rfl

theorem Path.parent?_name {path : String} (some : path ≠ "") (absent : '/' ∉ path.toList) :
    parent? path = .some "" := by
  have backwards : trimBackwards path.toList.reverse = path.toList.reverse :=
    trimBackwards_name (by simpa using absent)
  have front : path.toList.reverse.dropWhile (· ≠ '/') = [] := by
    have all : ∀ c ∈ path.toList.reverse, decide (c ≠ '/') = true := by
      intro c member
      rw [decide_eq_true_eq]
      rintro rfl
      exact absent (List.mem_reverse.mp member)
    have whole : (path.toList.reverse ++ []).dropWhile _ = _ := List.dropWhile_append_of_pos all
    simpa using whole
  have other : ¬ (path.toList.reverse = [] || path.toList.reverse = ['/']) = true := by
    simp only [List.reverse_eq_nil_iff, String.toList_eq_nil_iff, some, decide_false, Bool.false_or,
      decide_eq_true_eq]
    intro slash
    exact absent (List.mem_reverse.mp (slash ▸ List.mem_cons_self))
  unfold parent?
  simp only [backwards, if_neg other, front, trimBackwards_name List.not_mem_nil]
  rfl

end TerminalAgent
