import TerminalAgent.Proofs.Storage.Path
import TerminalAgent.Recording.DirectoryLock
import TerminalAgent.Recording.FileStore

/-! # Names of recordings

The names of open and of sealed recordings tell the keys, and no name is taken twice: not by
another key, not by the other state of the recording and not by the file of the owner.
-/

namespace TerminalAgent

/-! ## Names and keys -/

namespace FileStore

theorem openName_inj {a b : String} : openName a = openName b ↔ a = b := by
  simp [openName, String.ext_iff]

theorem sealedName_inj {a b : String} : sealedName a = sealedName b ↔ a = b := by
  simp [sealedName, String.ext_iff]

/-- The last characters tell names apart. -/
theorem ne_of_getLast?_ne {a b : String} (h : a.toList.getLast? ≠ b.toList.getLast?) : a ≠ b :=
  fun same => h (same ▸ rfl)

theorem getLast?_openName (key : String) : (openName key).toList.getLast? = some 't' := by
  simp [openName, openEnding]

theorem getLast?_sealedName (key : String) : (sealedName key).toList.getLast? = some 'c' := by
  simp [sealedName, sealedEnding]

theorem getLast?_fileName : DirectoryLock.fileName.toList.getLast? = some 'd' := by
  decide

theorem openName_ne_sealedName (a b : String) : openName a ≠ sealedName b :=
  ne_of_getLast?_ne (by simp [getLast?_openName, getLast?_sealedName])

theorem openName_ne_fileName (key : String) : openName key ≠ DirectoryLock.fileName :=
  ne_of_getLast?_ne (by simp [getLast?_openName, getLast?_fileName])

theorem sealedName_ne_fileName (key : String) : sealedName key ≠ DirectoryLock.fileName :=
  ne_of_getLast?_ne (by simp [getLast?_sealedName, getLast?_fileName])

/-- A name has a key if the ending stands behind it. -/
theorem keyOf?_eq_some {ending name key : String} :
    keyOf? ending name = some key ↔ name = key ++ ending := by
  have ends : name.endsWith ending = true ↔ ending.toList <:+ name.toList := by
    rw [String.endsWith_eq_endsWith_toSlice, String.Slice.endsWith_string_iff, String.copy_toSlice]
  unfold keyOf?
  split
  next h =>
    obtain ⟨front, split⟩ := ends.mp h
    have lengths : name.length - ending.length = front.length := by
      simp only [← String.length_toList, ← split, List.length_append]
      omega
    rw [Option.some.injEq, lengths, ← split, List.take_left, String.ext_iff, String.ext_iff,
      String.toList_append, ← split, String.toList_ofList, List.append_cancel_right_eq]
  next h =>
    constructor
    · intro found
      cases found
    · intro same
      exact absurd (ends.mpr ⟨key.toList, by rw [same, String.toList_append]⟩) h

/-- The name of a sealed recording leads to a file exactly if there is an entry of this name. -/
theorem hasPath_sealedName {key : String} {volume : Volume} (valid : RecordingKey.isValid key)
    (present : volume.present = true) :
    volume.hasPath (sealedName key) = (volume.node? (sealedName key)).isSome := by
  have noSlash : '/' ∉ (sealedName key).toList := by
    simp only [RecordingKey.isValid, Bool.and_eq_true, List.all_eq_true] at valid
    simp only [sealedName, String.toList_append, List.mem_append, not_or]
    refine ⟨fun member => ?_, by decide⟩
    exact absurd (valid.2 '/' member) (by decide)
  have relative : (sealedName key).startsWith "/" = false := by
    rw [String.startsWith_string_eq_false_iff]
    exact fun first => noSlash (first.subset (by decide))
  have notDots : sealedName key ≠ "" ∧ sealedName key ≠ "." ∧ sealedName key ≠ ".." :=
    ⟨ne_of_getLast?_ne (by simp [getLast?_sealedName]),
      ne_of_getLast?_ne (by simp [getLast?_sealedName]),
      ne_of_getLast?_ne (by simp [getLast?_sealedName])⟩
  obtain ⟨notEmpty, notDot, notUp⟩ := notDots
  simp only [Volume.hasPath, present, relative, splitOn_slash noSlash, Volume.walk, notEmpty, notDot,
    notUp, Volume.node?]
  cases volume.nodes.get? (sealedName key) with
  | none => rfl
  | some node => cases node <;> rfl

end FileStore

end TerminalAgent
