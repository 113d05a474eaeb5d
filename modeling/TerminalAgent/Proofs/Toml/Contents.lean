import TerminalAgent.Proofs.Outcomes
import TerminalAgent.Toml.Document

/-! # What a document holds

The tree of a document is put together from the scalars that were read, so what holds of every scalar
that a text can give holds throughout the tree. Above all, every integer in it has 64 bits with sign.
-/

namespace TerminalAgent.Toml

/-! ## Readers -/

/-- Whatever is read has the property. -/
def Outcome.Gives (outcome : Outcome α) (P : α → Prop) : Prop :=
  ∀ a rest, outcome = .read a rest → P a

namespace Outcome.Gives

variable {α β : Type} {outcome : Outcome α} {P : α → Prop} {Q : β → Prop}

theorem missed (fault : Fault) : (Outcome.missed fault : Outcome α).Gives P := nofun

theorem refused (fault : Fault) : (Outcome.refused fault : Outcome α).Gives P := nofun

theorem map (h : outcome.Gives P) {f : α → β} (h' : ∀ {a}, P a → Q (f a)) : (outcome.map f).Gives Q := by
  intro b rest read
  cases outcome with
  | read a left =>
      cases read
      exact h' (h _ _ rfl)
  | missed fault => cases read
  | refused fault => cases read

theorem mapFault (h : outcome.Gives P) (f : Fault → Fault) : (outcome.mapFault f).Gives P := by
  intro a rest read
  cases outcome with
  | read a left => exact h _ _ read
  | missed fault => cases read
  | refused fault => cases read

theorem final (h : outcome.Gives P) : outcome.final.Gives P := by
  intro a rest read
  cases outcome with
  | read a left => exact h _ _ read
  | missed fault => cases read
  | refused fault => cases read

end Outcome.Gives

/-- Whatever the reader reads has the property. -/
def Reader.Gives (reader : Reader α) (P : α → Prop) : Prop :=
  ∀ text, (reader text).Gives P

namespace Reader.Gives

variable {α β : Type} {reader : Reader α} {P : α → Prop} {Q : β → Prop}

theorem any (reader : Reader α) : reader.Gives fun _ => True := fun _ _ _ _ => trivial

theorem pure {a : α} (h : P a) : Reader.Gives (Pure.pure a) P := by
  rintro text _ rest ⟨⟩
  exact h

theorem bind (h : reader.Gives P) {next : α → Reader β} (h' : ∀ {a}, P a → (next a).Gives Q) :
    Reader.Gives (reader >>= next) Q := by
  intro text b rest read
  simp only [Bind.bind] at read
  split at read
  next a left first => exact h' (h text a left first) left b rest read
  next => cases read
  next => cases read

theorem final (h : reader.Gives P) : reader.final.Gives P := fun text => (h text).final

theorem labelled (h : reader.Gives P) (label : String) : (reader.labelled label).Gives P :=
  fun text => (h text).mapFault _

theorem expecting (h : reader.Gives P) (what : String) : (reader.expecting what).Gives P :=
  fun text => (h text).mapFault _

theorem orElse (h : reader.Gives P) {second : Reader α} (h' : second.Gives P) :
    (reader.orElse second).Gives P := by
  intro text a rest read
  unfold Reader.orElse at read
  split at read
  next => exact h' text a rest read
  next => exact h text a rest read

theorem optional (h : reader.Gives P) : (Reader.optional reader).Gives fun a? => ∀ a ∈ a?, P a := by
  intro text a? rest read
  unfold Reader.optional at read
  split at read
  next a left found =>
    cases read
    rintro _ ⟨⟩
    exact h text _ _ found
  next =>
    cases read
    rintro _ ⟨⟩
  next => cases read

theorem checked (h : reader.Gives P) {check : α → Except Cause β}
    (h' : ∀ {a b}, P a → check a = .ok b → Q b) : (reader.checked check).Gives Q := by
  intro text b rest read
  unfold Reader.checked at read
  split at read
  next a left found =>
    split at read
    next passed =>
      cases read
      exact h' (h text _ _ found) passed
    next => cases read
  next => cases read
  next => cases read

theorem separated (h : reader.Gives P) (separator : Char) :
    (Reader.separated separator reader).Gives fun items => ∀ item ∈ items, P item := by
  have others (fuel : Nat) :
      (Reader.separatedFrom separator reader fuel).Gives fun items => ∀ item ∈ items, P item := by
    induction fuel with
    | zero => exact pure (List.forall_mem_nil _)
    | succ fuel ih =>
        intro text items rest read
        unfold Reader.separatedFrom at read
        split at read
        next c more =>
          split at read
          next =>
            split at read
            next item left found =>
              have first : P item := h more item left found
              exact (ih left).map (Q := fun items => ∀ item ∈ items, P item)
                (fun all => List.forall_mem_cons.mpr ⟨first, all⟩) _ _ read
            next =>
              cases read
              exact List.forall_mem_nil _
            next => cases read
          next =>
            cases read
            exact List.forall_mem_nil _
        next =>
          cases read
          exact List.forall_mem_nil _
  exact h.bind fun first => bind (fun text => others text.length text) fun all =>
    pure (List.forall_mem_cons.mpr ⟨first, all⟩)

theorem spanned (h : reader.Gives P) {make : α → Span → β} (h' : ∀ {a} span, P a → Q (make a span)) :
    (Toml.spanned make reader).Gives Q := by
  intro text b rest read
  unfold Toml.spanned at read
  split at read
  next a left found =>
    cases read
    exact h' _ (h text _ _ found)
  next => cases read
  next => cases read

end Reader.Gives

/-! ## Integers -/

/-- An integer has 64 bits with sign. -/
def Scalar.Fits : Scalar → Prop
  | .integer i => -0x8000000000000000 ≤ i ∧ i < 0x8000000000000000
  | _ => True

namespace Number

theorem fits_of_checkRange {negative : Bool} {magnitude : Nat} {i : Int}
    (passed : checkRange negative magnitude = .ok i) : Scalar.Fits (.integer i) := by
  unfold checkRange at passed
  unfold Scalar.Fits
  split at passed <;> split at passed <;> cases passed <;> omega

theorem basedReader_gives (start : String) (base : Nat) (label : String) :
    (basedReader start base label).Gives fun i => Scalar.Fits (.integer i) :=
  .final <| .checked (.any _) fun _ passed => fits_of_checkRange passed

theorem decimalReader_gives : Reader.Gives decimalReader fun i => Scalar.Fits (.integer i) := by
  intro text i rest read
  unfold decimalReader at read
  split at read
  next =>
    split at read
    next passed =>
      cases read
      exact fits_of_checkRange passed
    next => cases read
  next => cases read
  next => cases read

theorem integerReader_gives : Reader.Gives integerReader fun i => Scalar.Fits (.integer i) := by
  intro text
  unfold integerReader
  split
  next => exact basedReader_gives _ _ _ _
  next => exact basedReader_gives _ _ _ _
  next => exact basedReader_gives _ _ _ _
  next => exact decimalReader_gives _

end Number

theorem scalarReader_gives : Reader.Gives scalarReader Scalar.Fits := by
  have whole : Reader.Gives (fun text => (Number.integerReader text).map .integer) Scalar.Fits :=
    fun text => (Number.integerReader_gives text).map id
  have other {α : Type} (make : α → Scalar) (free : ∀ a, (make a).Fits) (reader : Reader α) :
      Reader.Gives (fun text => (reader text).map make) Scalar.Fits :=
    fun text => (Reader.Gives.any reader text).map fun {a} _ => free a
  have float : Reader.Gives (fun text => (Number.floatReader text).map .float) Scalar.Fits :=
    other .float (fun _ => trivial) _
  have date : Reader.Gives (fun text => (Datetime.reader text).map .datetime) Scalar.Fits :=
    other .datetime (fun _ => trivial) _
  have constant (reader : Reader Unit) (value : Scalar) (free : value.Fits) :
      Reader.Gives (fun text => (reader text).map fun _ => value) Scalar.Fits :=
    other (fun _ => value) (fun _ => free) reader
  have named {reader : Reader Scalar} (gives : reader.Gives Scalar.Fits) :
      Reader.Gives (asText reader) Scalar.Fits :=
    ((gives.labelled _).expecting _).expecting _
  intro text
  unfold scalarReader
  split
  next => exact .missed _
  next c rest =>
    split
    next => exact other .text (fun _ => trivial) _ _
    split
    next => exact date.orElse (float.orElse whole) _
    split
    next => exact (whole _).mapFault _
    split
    next => exact (float _).mapFault _
    split
    next => exact named (constant (Reader.literal "true").final (.boolean true) trivial) _
    split
    next => exact named (constant (Reader.literal "false").final (.boolean false) trivial) _
    split
    next => exact named (constant (Reader.literal "inf") (.float (.infinity false)) trivial) _
    split
    next => exact named (constant (Reader.literal "nan") (.float .nan) trivial) _
    next => exact named (fun _ => .missed _) _

/-! ## Trees -/

/-- Every scalar in an item has the property. -/
inductive Item.Each (P : Scalar → Prop) : Item → Prop where
  | scalar {value : Scalar} {span : Span} (holds : P value) : Each P (.scalar value span)
  | array {items : List Item} {span : Span} (all : ∀ item ∈ items, Each P item) :
      Each P (.array items span)
  | table {kind : TableKind} {span : Option Span} {entries : List (Key × Item)}
      (all : ∀ entry ∈ entries, Each P entry.2) : Each P (.table kind span entries)
  | tables {elements : List Item} (all : ∀ item ∈ elements, Each P item) : Each P (.tables elements)

theorem Item.Each.entries {P : Scalar → Prop} {kind : TableKind} {span : Option Span}
    {entries : List (Key × Item)} (each : (Item.table kind span entries).Each P) :
    ∀ entry ∈ entries, entry.2.Each P := by
  cases each with
  | table all => exact all

theorem Item.Each.elements {P : Scalar → Prop} {elements : List Item}
    (each : (Item.tables elements).Each P) : ∀ item ∈ elements, item.Each P := by
  cases each with
  | tables all => exact all

/-- Every scalar in a table has the property. -/
def Table.Each (P : Scalar → Prop) (table : Table) : Prop :=
  ∀ entry ∈ table.entries, entry.2.Each P

variable {P : Scalar → Prop}

namespace Table.Each

variable {table : Table} {key : Key} {item : Item}

theorem new (kind : TableKind) (span : Option Span) : (Table.new kind span).Each P :=
  List.forall_mem_nil _

theorem toItem (each : table.Each P) : table.toItem.Each P := .table each

theorem concat {elements : List Item} (each : (Item.tables elements).Each P) (last : table.Each P) :
    (Item.tables (elements ++ [table.toItem])).Each P := by
  refine .tables fun item member => ?_
  rcases List.mem_append.mp member with old | new
  · exact each.elements item old
  · cases List.mem_singleton.mp new
    exact last.toItem

theorem find (each : table.Each P) {name : String} {entry : Key × Item}
    (found : table.find? name = some entry) : entry.2.Each P :=
  each entry (List.mem_of_find?_eq_some found)

theorem put (each : table.Each P) (key : Key) (holds : item.Each P) : (table.put key item).Each P := by
  intro entry member
  simp only [Table.put] at member
  split at member
  next =>
    obtain ⟨old, there, rfl⟩ := List.mem_map.mp member
    split
    next => exact holds
    next => exact each old there
  next =>
    rcases List.mem_append.mp member with old | last
    · exact each entry old
    · cases List.mem_singleton.mp last
      exact holds

theorem remove (each : table.Each P) (name : String) : (table.remove name).Each P :=
  fun entry member => each entry (List.mem_of_mem_filter member)

/-- What is found and put back on the way along a path keeps the property if the visit at its end does. -/
theorem visitAt {α : Type} {Q : α → Prop} {route : Route} {visit : Table → Except Cause (α × Table)}
    (keeps : ∀ {inner result after}, inner.Each P → visit inner = .ok (result, after) →
      Q result ∧ after.Each P)
    {before path : List Key} {result : α} {after : Table} (each : table.Each P)
    (visited : table.visitAt route visit before path = .ok (result, after)) :
    Q result ∧ after.Each P := by
  induction path generalizing before table after with
  | nil => exact keeps each visited
  | cons key path ih =>
      have enter {inner : Table} {item : Table → Item} (holds : inner.Each P)
          (made : ∀ {inner : Table}, inner.Each P → (item inner).Each P)
          (entered : (do
            let (result, inner) ← inner.visitAt route visit (before ++ [key]) path
            pure (result, table.put key (item inner))) = Except.ok (result, after)) :
          Q result ∧ after.Each P := by
        obtain ⟨⟨result, inner⟩, descended, same⟩ := bind_eq_ok.mp entered
        cases same
        obtain ⟨known, kept⟩ := ih holds descended
        exact ⟨known, each.put key (made kept)⟩
      unfold Table.visitAt at visited
      split at visited
      next => exact enter (new _ _) toItem visited
      next => cases visited
      next => cases visited
      next kind span entries found =>
        have inner : Table.Each P ⟨kind, span, entries⟩ := (each.find found).entries
        split at visited
        next => cases visited
        next => cases visited
        next => cases visited
        next => exact enter inner toItem visited
      next elements found =>
        have all : ∀ item ∈ elements, item.Each P := (each.find found).elements
        split at visited
        next kind span entries last =>
          have inner : Table.Each P ⟨kind, span, entries⟩ :=
            (all _ (List.mem_of_getLast? last)).entries
          have others : (Item.tables elements.dropLast).Each P :=
            .tables fun item member => all item (List.dropLast_subset _ member)
          exact enter inner (concat others) visited
        next => cases visited

theorem addEntry {route : Route} {place : Option (List String)} {path : List Key} {after : Table}
    (each : table.Each P) (holds : item.Each P)
    (added : table.addEntry route place path key item = .ok after) : after.Each P := by
  obtain ⟨⟨result, table⟩, visited, same⟩ := bind_eq_ok.mp added
  cases same
  refine (visitAt (Q := fun _ => True) (fun inner put => ⟨trivial, ?_⟩) each visited).2
  split at put
  next => cases put
  next =>
    split at put
    next => cases put
    next =>
      cases put
      exact inner.put key holds

end Table.Each

/-! ## Values -/

theorem arrayReader_gives {value : Reader Item} (gives : value.Gives (Item.Each P)) :
    (arrayReader value).Gives fun items => ∀ item ∈ items, item.Each P := by
  have element : Reader.Gives (do gaps; let item ← value; gaps; pure item) (Item.Each P) :=
    .bind (.any _) fun _ => gives.bind fun item => .bind (.any _) fun _ => .pure item
  have items : Reader.Gives (do
      let items ← Reader.separated ',' (do gaps; let item ← value; gaps; pure item)
      let _ ← Reader.optional (Reader.char ',')
      pure items) fun items => ∀ item ∈ items, item.Each P :=
    (element.separated ',').bind fun all => .bind (.any _) fun _ => .pure all
  refine items.optional.bind fun {found} known => .bind (.any _) fun _ => .bind (.any _) fun _ => .pure ?_
  cases found with
  | none => exact List.forall_mem_nil _
  | some items => exact known items rfl

theorem inlineReader_gives {value : Reader Item} (gives : value.Gives (Item.Each P)) :
    (inlineReader value).Gives fun entries => ∀ entry ∈ entries, entry.2.Each P := by
  have entry : Reader.Gives (do
      let key ← keyPath
      Reader.final do
        let _ ← keyMark
        blanks
        let item ← value
        blanks
        pure (key, item)) fun entry => entry.2.Each P :=
    .bind (.any _) fun _ => .final <| .bind (.any _) fun _ => .bind (.any _) fun _ =>
      gives.bind fun item => .bind (.any _) fun _ => .pure item
  have added {entries : List ((List Key × Key) × Item)} {table : Table}
      (all : ∀ entry ∈ entries, entry.2.Each P)
      (made : entries.foldlM (fun table entry => table.addEntry .inline none entry.1.1 entry.1.2 entry.2)
        (Table.new .inline none) = .ok table) : table.Each P :=
    foldlM_keeps (fun entry member {_ _} each added => each.addEntry (all entry member) added)
      (.new _ _) made
  refine Reader.Gives.bind (P := Table.Each P)
    (.final <| .checked (P := fun entries => ∀ entry ∈ entries, entry.2.Each P) ?_ added) fun each =>
      .bind (.any _) fun _ => .pure each
  refine (entry.separated ',').optional.bind fun {found} known => .bind (.any _) fun _ => .pure ?_
  cases found with
  | none => exact List.forall_mem_nil _
  | some entries => exact known entries rfl

theorem valueReader_gives (scalars : scalarReader.Gives P) (depth : Nat) :
    (valueReader depth).Gives (Item.Each P) := by
  have alone : Reader.Gives (spanned .scalar scalarReader) (Item.Each P) :=
    scalars.spanned fun _ holds => .scalar holds
  induction depth with
  | zero =>
      intro text
      unfold valueReader
      split
      next =>
        split
        next => exact .refused _
        next => exact alone _
      next => exact .missed _
  | succ depth ih =>
      intro text
      unfold valueReader
      split
      next =>
        exact Reader.Gives.spanned (fun _ => (arrayReader_gives ih _).final) (fun _ all => .array all) _
      next =>
        exact Reader.Gives.spanned (fun _ => (inlineReader_gives ih _).final) (fun _ all => .table all) _
      next => exact alone _

/-! ## Documents -/

/-- Every scalar in what a document has been so far has the property. -/
structure Draft.Each (P : Scalar → Prop) (draft : Draft) : Prop where
  root : draft.root.Each P
  current : draft.current.Each P

namespace Draft.Each

variable {draft after : Draft} {path : List Key} {key : Key} {span : Span} {item : Item}

theorem new : Draft.new.Each P := ⟨.new _ _, .new _ _⟩

theorem close (each : draft.Each P) {root : Table} (closed : draft.close = .ok root) : root.Each P := by
  unfold Draft.close at closed
  split at closed
  next =>
    cases closed
    exact each.current
  next key last =>
    obtain ⟨⟨result, root⟩, visited, same⟩ := bind_eq_ok.mp closed
    cases same
    refine (Table.Each.visitAt (Q := fun _ => True) (fun parent put => ⟨trivial, ?_⟩) each.root visited).2
    split at put
    next =>
      split at put
      next found =>
        cases put
        exact parent.put key (Table.Each.concat (parent.find found) each.current)
      next => cases put
    next =>
      cases put
      exact parent.put key each.current.toItem

theorem openTable (each : draft.Each P) (opened : draft.openTable path key span = .ok after) :
    after.Each P := by
  obtain ⟨root, closed, opened⟩ := bind_eq_ok.mp opened
  obtain ⟨⟨entries, root'⟩, visited, same⟩ := bind_eq_ok.mp opened
  cases same
  obtain ⟨all, root⟩ := (each.close closed).visitAt (Q := fun entries => ∀ entry ∈ entries, entry.2.Each P)
    (fun {parent _ _} each taken => by
      split at taken
      next =>
        cases taken
        exact ⟨List.forall_mem_nil _, each⟩
      next found =>
        cases taken
        exact ⟨(each.find found).entries, each.remove _⟩
      next => cases taken) visited
  exact ⟨root, all⟩

theorem openElement (each : draft.Each P) (opened : draft.openElement path key span = .ok after) :
    after.Each P := by
  obtain ⟨root, closed, opened⟩ := bind_eq_ok.mp opened
  obtain ⟨⟨result, root'⟩, visited, same⟩ := bind_eq_ok.mp opened
  cases same
  refine ⟨?_, .new _ _⟩
  refine ((each.close closed).visitAt (Q := fun _ => True) (fun parent put => ⟨trivial, ?_⟩) visited).2
  split at put
  next =>
    cases put
    exact parent.put key (.tables (List.forall_mem_nil _))
  next =>
    cases put
    exact parent
  next => cases put

theorem addEntry (each : draft.Each P) (holds : item.Each P)
    (added : draft.addEntry path key item = .ok after) : after.Each P := by
  obtain ⟨current, entered, same⟩ := bind_eq_ok.mp added
  cases same
  refine ⟨each.root, Table.Each.addEntry ?_ holds entered⟩
  exact each.current

end Draft.Each

/-! ## Lines -/

variable {draft : Draft}

theorem entryLine_gives (scalars : scalarReader.Gives P) (each : draft.Each P) :
    (entryLine draft).Gives (Draft.Each P) := by
  refine Reader.Gives.checked (P := fun entry => entry.2.Each P) ?_ fun holds added =>
    each.addEntry holds added
  exact .bind (.any _) fun _ => .final <| .bind (.any _) fun _ => .bind (.any _) fun _ =>
    (valueReader_gives scalars _).bind fun item => .bind (.any _) fun _ => .pure item

theorem tableLine_gives (each : draft.Each P) : (tableLine draft).Gives (Draft.Each P) := by
  intro text
  unfold tableLine
  split
  next => exact Reader.Gives.labelled (.checked (.any _) fun _ opened => each.openElement opened) _ _
  next => exact Reader.Gives.labelled (.checked (.any _) fun _ opened => each.openTable opened) _ _
  next => exact .missed _

theorem linesFrom_gives (scalars : scalarReader.Gives P) (fuel : Nat) (each : draft.Each P) :
    (linesFrom fuel draft).Gives (Draft.Each P) := by
  induction fuel generalizing draft with
  | zero => exact Reader.Gives.pure each
  | succ fuel ih =>
      intro text
      have comment : Reader.Gives (do comment; lineEnd; pure draft) (Draft.Each P) :=
        .bind (.any _) fun _ => .bind (.any _) fun _ => .pure each
      unfold linesFrom
      extract_lets line
      have gives : line.Gives (Draft.Each P) := by
        subst line
        split
        next => exact .missed _
        next => exact comment.final _
        next => exact (tableLine_gives each _).final
        next rest => exact Reader.Gives.pure each rest
        next => exact (Reader.Gives.any newline _).map fun _ => each
        next => exact (entryLine_gives scalars each _).final
      clear_value line
      cases line with
      | read next rest => exact ih (gives next rest rfl) _
      | missed fault => exact Reader.Gives.pure each text
      | refused fault => exact .refused fault

/-- What holds of every scalar that is read holds of every scalar in the tree of a document. -/
theorem readDocument_each (scalars : scalarReader.Gives P) {text : List Char} {table : Table}
    (read : readDocument text = .ok table) : table.Each P := by
  unfold readDocument at read
  generalize (if text.head? = some byteOrderMark then text.drop 1 else text) = body at read
  dsimp only at read
  split at read
  next draft lines =>
    have each : draft.Each P := linesFrom_gives scalars _ .new _ _ _ lines
    split at read
    next closed =>
      cases read
      exact each.close closed
    next => cases read
  next => cases read
  next => cases read
  next => cases read

/-- Every integer in a document has 64 bits with sign. -/
theorem readDocument_fits {text : List Char} {table : Table} (read : readDocument text = .ok table) :
    table.Each Scalar.Fits :=
  readDocument_each scalarReader_gives read

end TerminalAgent.Toml
