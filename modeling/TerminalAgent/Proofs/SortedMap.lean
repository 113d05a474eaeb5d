import TerminalAgent.SortedMap

/-! # Values in sorted maps

What is found after a value was put into a map or taken out of it.
-/

namespace TerminalAgent.SortedMap

variable {α : Type}

@[simp] theorem get?_empty (key : String) : (∅ : SortedMap α).get? key = none := rfl

/-- Only the empty map has no value at any key. -/
theorem eq_empty {map : SortedMap α} (h : ∀ key, map.get? key = none) : map = ∅ := by
  obtain ⟨entries, sorted⟩ := map
  cases entries with
  | nil => rfl
  | cons entry rest =>
      have found := h entry.1
      simp [get?, lookup] at found

theorem lookup_insertEntry (key other : String) (value : α) (entries : List (String × α)) :
    lookup other (insertEntry key value entries) =
      if other = key then some value else lookup other entries := by
  induction entries with
  | nil => simp [insertEntry, lookup, eq_comm]
  | cons entry rest ih =>
      simp only [insertEntry]
      split
      next => simp only [lookup, eq_comm]
      next =>
        split
        next same =>
          subst same
          by_cases here : other = entry.1
          · simp [lookup, here]
          · simp [lookup, here, Ne.symm here]
        next differs =>
          simp only [lookup, ih]
          by_cases here : entry.1 = other
          · have other_ne : other ≠ key := fun same => differs (here.trans same).symm
            simp only [here, other_ne, if_true, if_false]
          · simp only [here, if_false]

@[simp] theorem get?_insert (map : SortedMap α) (key other : String) (value : α) :
    (map.insert key value).get? other = if other = key then some value else map.get? other :=
  lookup_insertEntry key other value map.entries

theorem lookup_filter_ne (key other : String) (entries : List (String × α)) :
    lookup other (entries.filter fun entry => entry.1 ≠ key) =
      if other = key then none else lookup other entries := by
  induction entries with
  | nil => simp [lookup]
  | cons entry rest ih =>
      by_cases erased : entry.1 = key
      · rw [List.filter_cons_of_neg (by simpa using erased), ih]
        by_cases here : other = key
        · simp only [here, if_true]
        · have entry_ne : entry.1 ≠ other := fun same => here (same.symm.trans erased)
          simp only [lookup, here, entry_ne, if_false]
      · rw [List.filter_cons_of_pos (by simpa using erased)]
        simp only [lookup, ih]
        by_cases here : entry.1 = other
        · have other_ne : other ≠ key := fun same => erased (here.trans same)
          simp only [here, other_ne, if_true, if_false]
        · simp only [here, if_false]

@[simp] theorem get?_erase (map : SortedMap α) (key other : String) :
    (map.erase key).get? other = if other = key then none else map.get? other :=
  lookup_filter_ne key other map.entries

theorem lookup_eq_some {entries : List (String × α)}
    (sorted : entries.Pairwise fun a b => a.1 < b.1) {key : String} {value : α} :
    lookup key entries = some value ↔ (key, value) ∈ entries := by
  induction sorted with
  | nil => simp [lookup]
  | @cons entry rest smaller _ ih =>
      simp only [lookup, List.mem_cons]
      by_cases here : entry.1 = key
      · have absent : (key, value) ∉ rest := fun member =>
          String.lt_irrefl key (here ▸ smaller (key, value) member)
        simp only [here, if_true, Option.some.injEq, absent, or_false]
        rw [Prod.ext_iff]
        simp [here, eq_comm]
      · have other : (key, value) ≠ entry := fun same => here (same ▸ rfl)
        simp only [here, if_false, other, false_or, ih]

/-- The value at a key is that of the entry with this key. -/
theorem get?_eq_some (map : SortedMap α) {key : String} {value : α} :
    map.get? key = some value ↔ (key, value) ∈ map.entries :=
  lookup_eq_some map.sorted

theorem nodup_keys (map : SortedMap α) : (map.entries.map Prod.fst).Nodup := by
  refine List.nodup_iff_pairwise_ne.mpr (List.pairwise_map.mpr (map.sorted.imp ?_))
  intro a b smaller same
  exact String.lt_irrefl _ (same ▸ smaller)

theorem nodup_entries (map : SortedMap α) : map.entries.Nodup :=
  List.Pairwise.of_map Prod.fst (fun _ _ differ same => differ (congrArg Prod.fst same)) map.nodup_keys

theorem eq_of_entries {a b : SortedMap α} (same : a.entries = b.entries) : a = b := by
  cases a
  cases b
  cases same
  rfl

/-- A map is known by its values. -/
theorem eq_of_get? {a b : SortedMap α} (same : ∀ key, a.get? key = b.get? key) : a = b := by
  have perm : a.entries.Perm b.entries := by
    refine (List.perm_ext_iff_of_nodup a.nodup_entries b.nodup_entries).mpr fun entry => ?_
    rw [← get?_eq_some, ← get?_eq_some, same]
  have entries : a.entries = b.entries := by
    refine List.Perm.eq_of_pairwise ?_ a.sorted b.sorted perm
    intro x y _ _ smaller greater
    exact absurd greater (String.lt_asymm smaller)
  exact eq_of_entries entries

/-- Entries with different keys that are put into a map one after the other. -/
theorem get?_foldl_insert {entries : List (String × α)} (distinct : (entries.map Prod.fst).Nodup)
    (before : SortedMap α) {key : String} {value : α} :
    (entries.foldl (fun map entry => map.insert entry.1 entry.2) before).get? key = some value ↔
      (key, value) ∈ entries ∨ key ∉ entries.map Prod.fst ∧ before.get? key = some value := by
  induction entries generalizing before with
  | nil => simp
  | cons entry rest ih =>
      obtain ⟨name, held⟩ := entry
      obtain ⟨apart, distinct⟩ := List.nodup_cons.mp distinct
      rw [List.foldl_cons, ih distinct, get?_insert]
      by_cases same : key = name
      · subst same
        have unheld : (key, value) ∉ rest := fun there =>
          apart (List.mem_map.mpr ⟨_, there, rfl⟩)
        simp [apart, unheld, eq_comm]
      · simp [same]

/-- The order in which the entries of a map are put together makes no difference. -/
theorem foldl_insert_of_perm {map : SortedMap α} {entries : List (String × α)}
    (order : entries.Perm map.entries) :
    entries.foldl (fun map entry => map.insert entry.1 entry.2) ∅ = map := by
  have distinct : (entries.map Prod.fst).Nodup := (order.map Prod.fst).nodup_iff.mpr map.nodup_keys
  refine eq_of_get? fun key => Option.ext fun value => ?_
  rw [get?_foldl_insert distinct, get?_empty, order.mem_iff, ← get?_eq_some]
  simp

/-- A key above all others is put behind them. -/
theorem insertEntry_last {key : String} {entries : List (String × α)}
    (above : ∀ entry ∈ entries, entry.1 < key) (value : α) :
    insertEntry key value entries = entries ++ [(key, value)] := by
  induction entries with
  | nil => rfl
  | cons entry rest ih =>
      have below : entry.1 < key := above entry List.mem_cons_self
      have others := ih fun other member => above other (List.mem_cons_of_mem _ member)
      have notBefore : ¬ key < entry.1 := String.lt_asymm below
      have notSame : key ≠ entry.1 := fun same => String.lt_irrefl _ (same ▸ below)
      simp only [insertEntry, if_neg notBefore, if_neg notSame, others, List.cons_append]

/-- Puts another value, which may depend on the key, in the place of each one. -/
def mapEntries {β : Type} (map : SortedMap α) (f : String → α → β) : SortedMap β where
  entries := map.entries.map fun entry => (entry.1, f entry.1 entry.2)
  sorted := List.pairwise_map.mpr map.sorted

theorem lookup_map {β : Type} (f : String → α → β) (key : String) (entries : List (String × α)) :
    lookup key (entries.map fun entry => (entry.1, f entry.1 entry.2)) =
      (lookup key entries).map (f key) := by
  induction entries with
  | nil => rfl
  | cons entry rest ih =>
      simp only [List.map_cons, lookup]
      by_cases here : entry.1 = key
      · simp only [here, if_true, Option.map_some]
      · simp only [here, if_false, ih]

@[simp] theorem get?_mapEntries {β : Type} (map : SortedMap α) (f : String → α → β) (key : String) :
    (map.mapEntries f).get? key = (map.get? key).map (f key) :=
  lookup_map f key map.entries

end TerminalAgent.SortedMap
