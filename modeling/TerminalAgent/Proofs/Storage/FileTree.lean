import TerminalAgent.Storage.FileTree

/-! # Files of a tree

A file is read where it was written, with what was written.
-/

namespace TerminalAgent.FileTree

variable {tree : FileTree} {parts : List String} {node : TreeNode}

theorem at?_put_self (nonempty : parts ≠ []) : (tree.put parts node).at? parts = some node := by
  have none : (tree.entries.filter fun entry => entry.1 ≠ parts).find? (fun entry => entry.1 = parts) = none := by
    simp
  rw [at?, if_neg (by simpa using nonempty), put, List.find?_append, none]
  simp

theorem at?_put_of_ne {other : List String} (differs : other ≠ parts) :
    (tree.put parts node).at? other = tree.at? other := by
  have kept : (tree.entries.filter fun entry => entry.1 ≠ parts).find? (fun entry => entry.1 = other) =
      tree.entries.find? fun entry => entry.1 = other := by
    rw [List.find?_filter]
    congr 1
    funext entry
    by_cases here : entry.1 = other
    · simp [here, differs]
    · simp [here]
  rw [at?, at?, put, List.find?_append, kept]
  simp [Ne.symm differs]

/-- No path leads elsewhere after something other than a directory was put into the tree. -/
theorem follow_put (noDirectory : tree.at? parts ≠ some .directory) {within path here : List String}
    (followed : tree.follow within path = .ok here) : (tree.put parts node).follow within path = .ok here := by
  fun_induction FileTree.follow tree within path with
  | case1 => exact followed
  | case2 _ _ _ skipped ih =>
      rw [follow, if_pos skipped]
      exact ih followed
  | case3 _ _ plain ih =>
      rw [follow, if_neg plain, if_pos rfl]
      exact ih followed
  | case4 _ _ _ plain down _ last =>
      rw [follow, if_neg plain, if_neg down]
      exact (if_pos last).trans followed
  | case5 _ _ _ plain down here goesOn directory ih =>
      -- The walk goes on through directories only, and none of these is what was put.
      have differs : here ≠ parts := fun same => noDirectory (same ▸ directory)
      have kept : (tree.put parts node).at? here = some .directory :=
        (at?_put_of_ne differs).trans directory
      rw [follow, if_neg plain, if_neg down]
      refine (if_neg goesOn).trans ?_
      rw [kept]
      exact ih followed
  | case6 => cases followed
  | case7 => cases followed

theorem resolve_put (noDirectory : tree.at? parts ≠ some .directory) {path : String} {here : List String}
    (resolved : tree.resolve path = .ok here) : (tree.put parts node).resolve path = .ok here := by
  unfold resolve at resolved ⊢
  split at resolved
  next => cases resolved
  next some =>
    rw [if_neg some]
    exact follow_put noDirectory resolved

/-- A file that was put where a path leads is what the path leads to. -/
theorem lookup_put (noDirectory : tree.at? parts ≠ some .directory) {path : String}
    (resolved : tree.resolve path = .ok parts) : (tree.put parts node).lookup path = .ok node := by
  have nonempty : parts ≠ [] := by
    rintro rfl
    exact noDirectory rfl
  simp only [lookup, resolve_put noDirectory resolved, bind, Except.bind, at?_put_self nonempty]
  rfl

theorem lookup_write {path : String} {bytes : Bytes} {after : FileTree} (written : tree.write path bytes = .ok after) :
    ∃ isProgram, after.lookup path = .ok (.file bytes isProgram) := by
  unfold write at written
  cases resolved : tree.resolve path with
  | error fault => rw [resolved] at written; cases written
  | ok parts =>
      simp only [resolved, bind, Except.bind] at written
      cases found : tree.at? parts with
      | none =>
          have noDirectory : tree.at? parts ≠ some .directory := by simp [found]
          simp only [found] at written
          split at written
          next => cases written
          next =>
            cases written
            exact ⟨_, lookup_put noDirectory resolved⟩
      | some node =>
          cases node with
          | directory => simp only [found] at written; cases written
          | file before isProgram =>
              have noDirectory : tree.at? parts ≠ some .directory := by simp [found]
              simp only [found] at written
              cases written
              exact ⟨_, lookup_put noDirectory resolved⟩

end TerminalAgent.FileTree
