/-!
# Maps in the order of their keys

A `SortedMap` lists its entries in strictly ascending order of keys, so two maps with the same
entries are equal. Text is ordered by code points, which is the order of its UTF-8 bytes.
-/

namespace TerminalAgent

/-- A finite map from text to `α`. -/
structure SortedMap (α : Type) where
  entries : List (String × α)
  /-- Each key comes once, and keys ascend. -/
  sorted : entries.Pairwise fun a b => a.1 < b.1

namespace SortedMap

instance [DecidableEq α] : DecidableEq (SortedMap α) := fun a b =>
  if h : a.entries = b.entries then
    isTrue (by cases a; cases b; cases h; rfl)
  else isFalse fun hab => h (hab ▸ rfl)

instance [Repr α] : Repr (SortedMap α) where
  reprPrec map := reprPrec map.entries

/-- The map without entries. -/
def empty : SortedMap α where
  entries := []
  sorted := .nil

instance : EmptyCollection (SortedMap α) := ⟨empty⟩

instance : Inhabited (SortedMap α) := ⟨empty⟩

/-- The value at a key in a list of entries. -/
def lookup (key : String) : List (String × α) → Option α
  | [] => none
  | entry :: rest => if entry.1 = key then some entry.2 else lookup key rest

/-- Puts an entry where its key belongs, in place of an entry with that key. -/
def insertEntry (key : String) (value : α) : List (String × α) → List (String × α)
  | [] => [(key, value)]
  | entry :: rest =>
      if key < entry.1 then (key, value) :: entry :: rest
      else if key = entry.1 then (key, value) :: rest
      else entry :: insertEntry key value rest

theorem mem_insertEntry {key : String} {value : α} {entries : List (String × α)}
    {entry : String × α} (h : entry ∈ insertEntry key value entries) :
    entry = (key, value) ∨ entry ∈ entries := by
  induction entries with
  | nil => simpa [insertEntry] using h
  | cons first rest ih =>
      simp only [insertEntry] at h
      split at h
      next => simpa using h
      next =>
        split at h
        next => grind
        next => grind

theorem lt_of_not_lt_of_ne {a b : String} (h : ¬ a < b) (hne : ¬ a = b) : b < a := by
  have hle : b ≤ a := String.not_lt.mp h
  rcases Std.le_iff_lt_or_eq.mp hle with hlt | heq
  · exact hlt
  · exact absurd heq.symm hne

theorem sorted_insertEntry (key : String) (value : α) {entries : List (String × α)}
    (h : entries.Pairwise fun a b => a.1 < b.1) :
    (insertEntry key value entries).Pairwise fun a b => a.1 < b.1 := by
  induction h with
  | nil => simp [insertEntry]
  | @cons first rest hfirst hrest ih =>
      simp only [insertEntry]
      split
      next hlt =>
        refine .cons ?_ (.cons hfirst hrest)
        intro entry hentry
        rcases List.mem_cons.mp hentry with rfl | hmem
        · exact hlt
        · exact String.lt_trans hlt (hfirst entry hmem)
      next hnot =>
        split
        next heq =>
          refine .cons ?_ hrest
          intro entry hentry
          exact heq ▸ hfirst entry hentry
        next hne =>
          refine .cons ?_ ih
          intro entry hentry
          rcases mem_insertEntry hentry with rfl | hmem
          · exact lt_of_not_lt_of_ne hnot hne
          · exact hfirst entry hmem

/-- The value at a key. -/
def get? (map : SortedMap α) (key : String) : Option α :=
  lookup key map.entries

/-- Puts a value at a key. -/
def insert (map : SortedMap α) (key : String) (value : α) : SortedMap α where
  entries := insertEntry key value map.entries
  sorted := sorted_insertEntry key value map.sorted

/-- Takes the entry at a key away. -/
def erase (map : SortedMap α) (key : String) : SortedMap α where
  entries := map.entries.filter fun entry => entry.1 ≠ key
  sorted := map.sorted.filter _

/-- The map of a list of entries, of which a later one replaces an earlier one with its key. -/
def ofList (entries : List (String × α)) : SortedMap α :=
  entries.foldl (fun map entry => map.insert entry.1 entry.2) empty

def isEmpty (map : SortedMap α) : Bool :=
  map.entries.isEmpty

def size (map : SortedMap α) : Nat :=
  map.entries.length

end SortedMap

end TerminalAgent
