import TerminalAgent.Proofs.Toml.Keys
import TerminalAgent.Proofs.Toml.Values
import TerminalAgent.Toml.Document

/-! # Lines of a document

What one line makes of a draft, and what follows for lines one after the other. Nothing depends on the
lines that come later but the spans of keys and values.
-/

namespace TerminalAgent.Toml

/-! ## Lines in turn -/

/-- A line can begin here. -/
def LineStart (text : Place) : Prop := ∀ c ∈ text.head?, isBlank c = false

theorem LineStart.append {front rest : Place} (h : LineStart front) (h' : LineStart rest) :
    LineStart (front ++ rest) := by
  intro c here
  rw [List.head?_append, Option.mem_def, Option.or_eq_some_iff] at here
  obtain here | ⟨-, here⟩ := here
  · exact h c here
  · exact h' c here

theorem LineStart.dropWhile {text : Place} (h : LineStart text) : text.dropWhile isBlank = text :=
  dropWhile_of_head h

/-- Lines after which a draft is as wanted, whatever lines follow. -/
def Leads (draft : Draft) (text : List Char) (wanted : Draft → Prop) : Prop :=
  ∀ rest, LineStart rest → ∃ next n, wanted next ∧ n ≤ text.length ∧
    ∀ fuel, linesFrom (n + fuel) draft (text ++ rest) = linesFrom fuel next rest

namespace Leads

variable {draft : Draft} {wanted between : Draft → Prop} {front back : List Char}

theorem nil (h : wanted draft) : Leads draft [] wanted := fun rest _ =>
  ⟨draft, 0, h, Nat.le_refl 0, fun fuel => by rw [Nat.zero_add, List.nil_append]⟩

theorem append (first : Leads draft front between) (start : LineStart back)
    (second : ∀ next, between next → Leads next back wanted) : Leads draft (front ++ back) wanted := by
  intro rest lineStart
  obtain ⟨middle, n, holds, le, same⟩ := first (back ++ rest) (start.append lineStart)
  obtain ⟨next, m, holds', le', same'⟩ := second middle holds rest lineStart
  refine ⟨next, n + m, holds', ?_, fun fuel => ?_⟩
  · rw [List.length_append]
    omega
  · rw [List.append_assoc, Nat.add_assoc, same, same']

theorem mono (h : Leads draft front between) (implies : ∀ next, between next → wanted next) :
    Leads draft front wanted := fun rest start =>
  let ⟨next, n, holds, more⟩ := h rest start
  ⟨next, n, implies next holds, more⟩

theorem blankLine (draft : Draft) : Leads draft ['\n'] (· = draft) := by
  intro rest start
  refine ⟨draft, 1, rfl, Nat.le_refl 1, fun fuel => ?_⟩
  rw [Nat.add_comm]
  exact congrArg (linesFrom fuel draft) start.dropWhile

end Leads

/-! ## Entries -/

theorem lineTailAfter_read (rest : Place) : lineTailAfter ('\n' :: rest) = .read () rest := rfl

theorem linesFrom_entry {draft next : Draft} {text rest : Place} (some : text ≠ [])
    (head : ∀ c ∈ text.head?, c ∉ [' ', '\t', '#', '[', '\n', '\r'])
    (read : entryLine draft text = .read next rest) (start : LineStart rest) (fuel : Nat) :
    linesFrom (1 + fuel) draft text = linesFrom fuel next rest := by
  have other : ∀ c ∈ [' ', '\t', '#', '[', '\n', '\r'], ∀ tail, text ≠ c :: tail := by
    rintro c member tail rfl
    exact head c rfl member
  rw [Nat.add_comm, linesFrom, Reader.final_read read]
  · exact congrArg (linesFrom fuel next) start.dropWhile
  · exact some
  · exact other '#' (by decide)
  · exact other '[' (by decide)
  · exact other '\n' (by decide)
  · exact other '\r' (by decide)

namespace Draft

/-- The draft is at a table of this path with these entries. -/
structure IsAt (root : Table) (path : List Key) (entries : List (Key × Item)) (draft : Draft) : Prop where
  root : draft.root = root
  path : draft.path = path
  isElement : draft.isElement = false
  kind : draft.current.kind = .headed
  entries : draft.current.entries = entries

variable {draft : Draft} {root : Table} {path : List Key} {entries : List (Key × Item)}

theorem IsAt.addEntry (isAt : draft.IsAt root path entries) (key : Key) (item : Item)
    (fresh : entries.find? (fun entry => entry.1.name = key.name) = none) :
    ∃ next, draft.addEntry [] key item = .ok next ∧ next.IsAt root path (entries ++ [(key, item)]) := by
  obtain ⟨root, ⟨kind, span, entries⟩, path, isElement⟩ := draft
  obtain ⟨rfl, rfl, rfl, rfl, rfl⟩ := isAt
  simp only [Draft.addEntry, Table.addEntry, Table.visitAt, Table.find?, fresh, Table.put]
  exact ⟨_, rfl, rfl, rfl, rfl, rfl, rfl⟩

end Draft

theorem entryLine_read {keyText : List Char} {name text : String} {scalar : Scalar}
    (key : KeyText keyText name) (denotes : Denotes text scalar) (rest : Place) :
    ∃ span valueSpan, ∀ draft next : Draft,
      draft.addEntry [] ⟨name, span⟩ (.scalar scalar valueSpan) = .ok next →
        entryLine draft (keyText ++ ' ' :: '=' :: ' ' :: (text.toList ++ '\n' :: rest)) = .read next rest := by
  obtain ⟨span, path⟩ := key.path (' ' :: '=' :: ' ' :: (text.toList ++ '\n' :: rest))
    (by rintro c ⟨⟩; decide) (by simp [isBlank])
  have mark : keyMark ('=' :: ' ' :: (text.toList ++ '\n' :: rest)) =
      .read '=' (' ' :: (text.toList ++ '\n' :: rest)) := rfl
  have skipped : blanks (' ' :: (text.toList ++ '\n' :: rest)) = .read () (text.toList ++ '\n' :: rest) :=
    congrArg (Outcome.read ()) (dropWhile_of_head (denotes.notBlank rest))
  have item := value_scalar (denotes rest)
  refine ⟨span, ⟨text.toList ++ '\n' :: rest, '\n' :: rest⟩, fun draft next added => ?_⟩
  refine Reader.checked_read (a := (([], ⟨name, span⟩), _)) ?_ added
  refine (Reader.bind_read path _).trans (Reader.final_read ?_)
  refine (Reader.bind_read mark _).trans ?_
  refine (Reader.bind_read skipped _).trans ?_
  refine (Reader.bind_read item _).trans ?_
  exact (Reader.bind_read (lineTailAfter_read rest) _).trans rfl

theorem Leads.entry {draft : Draft} {root : Table} {path : List Key} {entries : List (Key × Item)}
    {keyText : List Char} {name text : String} {scalar : Scalar} (isAt : draft.IsAt root path entries)
    (key : KeyText keyText name) (denotes : Denotes text scalar)
    (fresh : entries.find? (fun entry => entry.1.name = name) = none) :
    Leads draft (keyText ++ ' ' :: '=' :: ' ' :: (text.toList ++ ['\n'])) fun next =>
      ∃ span valueSpan, next.IsAt root path (entries ++ [(⟨name, span⟩, .scalar scalar valueSpan)]) := by
  intro rest start
  obtain ⟨span, valueSpan, read⟩ := entryLine_read key denotes rest
  obtain ⟨next, added, reached⟩ := isAt.addEntry ⟨name, span⟩ (.scalar scalar valueSpan) fresh
  have line := read draft next added
  refine ⟨next, 1, ⟨span, valueSpan, reached⟩, ?_, fun fuel => ?_⟩
  · simp
    omega
  · have same : keyText ++ ' ' :: '=' :: ' ' :: (text.toList ++ ['\n']) ++ rest =
        keyText ++ ' ' :: '=' :: ' ' :: (text.toList ++ '\n' :: rest) := by simp
    rw [same, linesFrom_entry _ _ line start]
    · simp
    · rw [List.head?_append_of_ne_nil _ key.nonempty]
      exact key.head

/-! ## Headers -/

namespace Table

variable {table : Table} {key other : Key} {item : Item}

theorem put_new (fresh : table.find? key.name = none) (item : Item) :
    table.put key item = { table with entries := table.entries ++ [(key, item)] } := by
  simp only [put, fresh, Option.isSome_none, Bool.false_eq_true, if_false]

theorem find?_last (fresh : table.find? key.name = none) (item : Item) :
    (table.put key item).find? key.name = some (key, item) := by
  rw [put_new fresh]
  simp only [find?] at fresh ⊢
  rw [List.find?_append, fresh]
  simp

/-- The item put last is replaced in its place. -/
theorem put_last (fresh : table.find? key.name = none) (other : Key) (same : other.name = key.name)
    (item last : Item) :
    (table.put key item).put other last = table.put key last := by
  have kept : ∀ entry ∈ table.entries, ¬ entry.1.name = key.name := by
    simpa [find?] using fresh
  have found : ((table.put key item).find? other.name).isSome = true := by
    rw [same, find?_last fresh]
    rfl
  rw [put, if_pos found, put_new fresh, put_new fresh, same]
  simp only [List.map_append, List.map_singleton, if_true]
  congr 2
  exact (List.map_congr_left fun entry member => if_neg (kept entry member)).trans (List.map_id' _)

/-- What a header that goes through the table of another one comes to. -/
theorem visitAt_headed {α : Type} {visit : Table → Except Cause (α × Table)} {span : Option Span}
    {entries : List (Key × Item)} (a : α) (inner : Table)
    (found : table.find? key.name = some (other, .table .headed span entries))
    (visited : visit ⟨.headed, span, entries⟩ = .ok (a, inner)) :
    table.visitAt .header visit [] [key] = .ok (a, table.put key inner.toItem) := by
  simp only [visitAt, found, visited]
  rfl

end Table

namespace Draft

variable {draft : Draft} {root : Table} (key inner : Key) {entries : List (Key × Item)}

theorem openTable_new (closed : draft.close = .ok root) (fresh : root.find? key.name = none) (span : Span) :
    ∃ next, draft.openTable [] key span = .ok next ∧ next.IsAt root [key] [] := by
  simp only [Draft.openTable, closed, bind, Except.bind, Table.visitAt, fresh]
  exact ⟨_, rfl, rfl, rfl, rfl, rfl, rfl⟩

theorem openTable_inner {outer : Key} {outerSpan : Option Span} (closed : draft.close = .ok root)
    (found : root.find? key.name = some (outer, .table .headed outerSpan entries))
    (fresh : Table.find? ⟨.headed, outerSpan, entries⟩ inner.name = none) (span : Span) :
    ∃ next, draft.openTable [key] inner span = .ok next ∧
      next.IsAt (root.put key (.table .headed outerSpan entries)) [key, inner] [] := by
  simp only [Draft.openTable, closed, bind, Except.bind]
  rw [Table.visitAt_headed [] ⟨.headed, outerSpan, entries⟩ found]
  · exact ⟨_, rfl, rfl, rfl, rfl, rfl, rfl⟩
  · simp only [fresh]
    rfl

variable {key inner}

theorem IsAt.close_new (isAt : draft.IsAt root [key] entries) :
    ∃ span, draft.close = .ok (root.put key (.table .headed span entries)) := by
  obtain ⟨root, ⟨kind, span, entries⟩, path, isElement⟩ := draft
  obtain ⟨rfl, rfl, rfl, rfl, rfl⟩ := isAt
  exact ⟨span, rfl⟩

theorem IsAt.close_inner (isAt : draft.IsAt root [key, inner] entries) {outer : Key}
    {outerSpan : Option Span} {before : List (Key × Item)}
    (found : root.find? key.name = some (outer, .table .headed outerSpan before))
    (fresh : Table.find? ⟨.headed, outerSpan, before⟩ inner.name = none) :
    ∃ span, draft.close = .ok (root.put key (.table .headed outerSpan
      (before ++ [(inner, .table .headed span entries)]))) := by
  obtain ⟨root, ⟨kind, span, entries⟩, path, isElement⟩ := draft
  obtain ⟨rfl, rfl, rfl, rfl, rfl⟩ := isAt
  have put : Table.put ⟨.headed, outerSpan, before⟩ inner (.table .headed span entries) =
      ⟨.headed, outerSpan, before ++ [(inner, .table .headed span entries)]⟩ := Table.put_new fresh _
  refine ⟨span, ?_⟩
  simp only [Draft.close, List.getLast?_cons_cons, List.getLast?_singleton, List.dropLast_cons_cons,
    List.dropLast_singleton, bind, Except.bind]
  rw [Table.visitAt_headed () ⟨.headed, outerSpan, before ++ [(inner, .table .headed span entries)]⟩ found]
  · rfl
  · rw [← put]
    rfl

end Draft

theorem tableLine_read {keys : List Char} {path : List Key} {key : Key} {rest : Place}
    (some : keys ≠ []) (head : ∀ c ∈ keys.head?, c ≠ '[')
    (read : keyPath (keys ++ ']' :: '\n' :: rest) = .read (path, key) (']' :: '\n' :: rest)) :
    ∃ span, ∀ draft next : Draft, draft.openTable path key span = .ok next →
      tableLine draft ('[' :: (keys ++ ']' :: '\n' :: rest)) = .read next rest := by
  obtain ⟨c, keys, rfl⟩ := List.exists_cons_of_ne_nil some
  refine ⟨⟨'[' :: (c :: keys ++ ']' :: '\n' :: rest), '\n' :: rest⟩, fun draft next opened => ?_⟩
  rw [List.cons_append] at read ⊢
  unfold tableLine
  split
  next same => exact absurd (List.cons.inj (List.cons.inj same).2).1 (head c rfl)
  next =>
    rw [headerLine]
    refine Reader.labelled_read (Reader.checked_read (a := ((path, key), _)) ?_ opened) _
    refine (Reader.bind_read (Reader.place_read _) _).trans ?_
    refine (Reader.bind_read (Reader.literal_read "[" (c :: (keys ++ ']' :: '\n' :: rest))) _).trans ?_
    refine (Reader.bind_read (Reader.final_read read) _).trans ?_
    refine (Reader.bind_read (Reader.expecting_read (Reader.expecting_read
      (Reader.final_read (Reader.literal_read "]" ('\n' :: rest))) _) _) _).trans ?_
    refine (Reader.bind_read (Reader.place_read _) _).trans ?_
    exact (Reader.bind_read (Reader.final_read (lineTailAfter_read rest)) _).trans rfl
  next other => exact absurd rfl (other _ _)

namespace Leads

variable {draft : Draft} {wanted : Draft → Prop} {root : Table} {keyText innerText : List Char}
  {name innerName : String}

theorem tableLine {keys : List Char} (some : keys ≠ []) (head : ∀ c ∈ keys.head?, c ≠ '[')
    (read : ∀ rest, ∃ path key,
      keyPath (keys ++ ']' :: '\n' :: rest) = .read (path, key) (']' :: '\n' :: rest) ∧
        ∀ span, ∃ next, draft.openTable path key span = .ok next ∧ wanted next) :
    Leads draft ('[' :: (keys ++ [']', '\n'])) wanted := by
  intro rest start
  obtain ⟨path, key, keysRead, opens⟩ := read rest
  obtain ⟨span, line⟩ := tableLine_read some head keysRead
  obtain ⟨next, opened, holds⟩ := opens span
  refine ⟨next, 1, holds, by simp, fun fuel => ?_⟩
  have same : '[' :: (keys ++ [']', '\n']) ++ rest = '[' :: (keys ++ ']' :: '\n' :: rest) := by simp
  rw [same, Nat.add_comm, linesFrom, Reader.final_read (line draft next opened)]
  exact congrArg (linesFrom fuel next) start.dropWhile

theorem head_of_keyText (key : KeyText keyText name) : ∀ c ∈ keyText.head?, c ≠ '[' := by
  rintro c here rfl
  exact key.head '[' here (by decide)

theorem header (closed : draft.close = .ok root) (key : KeyText keyText name)
    (fresh : root.find? name = none) :
    Leads draft ('[' :: (keyText ++ [']', '\n'])) fun next =>
      ∃ span, next.IsAt root [⟨name, span⟩] [] := by
  refine tableLine key.nonempty (head_of_keyText key) fun rest => ?_
  obtain ⟨span, read⟩ := key.path (']' :: '\n' :: rest) (by rintro c ⟨⟩; decide) (by simp [isBlank])
  refine ⟨_, _, read, fun headerSpan => ?_⟩
  obtain ⟨next, opened, isAt⟩ := Draft.openTable_new ⟨name, span⟩ closed fresh headerSpan
  exact ⟨next, opened, span, isAt⟩

/-- The header of a new table within the table of another header. -/
theorem innerHeader (closed : draft.close = .ok root) (key : KeyText keyText name)
    (innerKey : KeyText innerText innerName) {outer : Key} {span : Option Span}
    {entries : List (Key × Item)} (found : root.find? name = some (outer, .table .headed span entries))
    (fresh : Table.find? ⟨.headed, span, entries⟩ innerName = none) :
    Leads draft ('[' :: (keyText ++ '.' :: innerText ++ [']', '\n'])) fun next =>
      ∃ keySpan innerSpan, next.IsAt (root.put ⟨name, keySpan⟩ (.table .headed span entries))
        [⟨name, keySpan⟩, ⟨innerName, innerSpan⟩] [] := by
  refine tableLine (by simp) ?_ fun rest => ?_
  · rw [List.head?_append_of_ne_nil _ key.nonempty]
    exact head_of_keyText key
  · obtain ⟨keySpan, innerSpan, read⟩ := key.pairPath innerKey (']' :: '\n' :: rest)
      (by rintro c ⟨⟩; decide) (by simp [isBlank])
    have same : keyText ++ '.' :: innerText ++ ']' :: '\n' :: rest =
        keyText ++ '.' :: (innerText ++ ']' :: '\n' :: rest) := by simp
    rw [same]
    refine ⟨_, _, read, fun headerSpan => ?_⟩
    obtain ⟨next, opened, isAt⟩ := Draft.openTable_inner ⟨name, keySpan⟩
      ⟨innerName, innerSpan⟩ closed found fresh headerSpan
    exact ⟨next, opened, keySpan, innerSpan, isAt⟩

end Leads

/-- Lines that lead to a draft that closes make a document. -/
theorem readDocument_of_leads {text : List Char} {holds : Table → Prop} (start : LineStart text)
    (unmarked : text.head? ≠ some byteOrderMark)
    (leads : Leads .new text fun draft => ∃ root, draft.close = .ok root ∧ holds root) :
    ∃ root, readDocument text = .ok root ∧ holds root := by
  obtain ⟨draft, n, ⟨root, closed, here⟩, le, same⟩ := leads [] (by rintro c ⟨⟩)
  -- The lines need no more fuel than characters, and on no text any fuel is enough.
  have read : linesFrom (text.length + 1) .new text = .read draft [] := by
    have split := same (text.length - n + 1)
    rw [List.append_nil, ← Nat.add_assoc, Nat.add_sub_cancel' le] at split
    exact split
  refine ⟨root, ?_, here⟩
  simp only [readDocument, if_neg unmarked, start.dropWhile, read, closed]

end TerminalAgent.Toml
