import Mathlib.Data.List.Nodup
import TerminalAgent.Proofs.SortedMap
import TerminalAgent.Proofs.Toml.Lines
import TerminalAgent.Toml.Decode

/-! # Sections read back

The text of a section leads to a table from which its settings are read again. Each setting is written
and read on its own, so a section is settled by what its settings do one after the other.
-/

namespace TerminalAgent.Toml

variable {σ : Type}

/-! ## Rows of entries -/

theorem SectionFormat.toList_line (name text : String) :
    (line name text).toList = (writeKey name).toList ++ ' ' :: '=' :: ' ' :: (text.toList ++ ['\n']) := by
  simp [line]

theorem lineStart_line (name text : String) : LineStart (SectionFormat.line name text).toList := by
  have key := keyText_writeKey name
  intro c here
  rw [SectionFormat.toList_line, List.head?_append_of_ne_nil _ key.nonempty] at here
  exact key.notBlank c here

theorem lineStart_join {lines : List String} (all : ∀ s ∈ lines, LineStart s.toList) :
    LineStart (String.join lines).toList := by
  induction lines with
  | nil =>
      rintro c ⟨⟩
  | cons s lines ih =>
      rw [String.join_cons, String.toList_append]
      exact (all s List.mem_cons_self).append (ih fun s member => all s (List.mem_cons_of_mem _ member))

/-- Lines of entries by name, which one after the other take a value to another one. -/
inductive Rows (take : σ → Key × Item → Except Rejection σ) : List String → List String → σ → σ → Prop where
  | nil {value : σ} : Rows take [] [] value value
  | cons {name text : String} {scalar : Scalar} {names lines : List String} {before between after : σ}
      (denotes : Denotes text scalar)
      (taken : ∀ span valueSpan, take before (⟨name, span⟩, .scalar scalar valueSpan) = .ok between)
      (rest : Rows take names lines between after) :
      Rows take (name :: names) (SectionFormat.line name text :: lines) before after

/-- The draft is at a table whose entries, one after the other, take a value to another one. -/
structure Draft.Holds (take : σ → Key × Item → Except Rejection σ) (start : σ) (root : Table)
    (path : List Key) (entries : List (Key × Item)) (value : σ) (draft : Draft) : Prop where
  isAt : draft.IsAt root path entries
  taken : entries.foldlM take start = .ok value

theorem foldlM_concat {take : σ → Key × Item → Except Rejection σ} {entries : List (Key × Item)}
    {entry : Key × Item} {start before after : σ} (taken : entries.foldlM take start = .ok before)
    (last : take before entry = .ok after) : (entries ++ [entry]).foldlM take start = .ok after := by
  rw [List.foldlM_append, taken]
  simp only [bind, Except.bind, List.foldlM_cons, List.foldlM_nil, last]
  rfl

namespace Rows

variable {take : σ → Key × Item → Except Rejection σ} {names lines : List String} {before after : σ}

theorem lineStart (rows : Rows take names lines before after) : LineStart (String.join lines).toList := by
  refine lineStart_join ?_
  induction rows with
  | nil => exact List.forall_mem_nil _
  | cons _ _ _ ih => exact List.forall_mem_cons.mpr ⟨lineStart_line _ _, ih⟩

theorem leads (rows : Rows take names lines before after) (distinct : names.Nodup) {start : σ}
    {root : Table} {path : List Key} {entries : List (Key × Item)} {draft : Draft}
    (fresh : ∀ entry ∈ entries, entry.1.name ∉ names)
    (holds : draft.Holds take start root path entries before) :
    Leads draft (String.join lines).toList fun next =>
      ∃ entries', next.Holds take start root path entries' after ∧
        ∀ entry ∈ entries', entry ∈ entries ∨ entry.1.name ∈ names := by
  induction rows generalizing draft entries with
  | nil => exact .nil ⟨entries, holds, fun _ => .inl⟩
  | @cons name text scalar names lines before between after denotes taken rest ih =>
      obtain ⟨new, distinct⟩ := List.nodup_cons.mp distinct
      have missing : entries.find? (fun entry => entry.1.name = name) = none := by
        simp only [List.find?_eq_none, decide_eq_true_eq]
        rintro entry member rfl
        exact fresh entry member List.mem_cons_self
      rw [String.join_cons, String.toList_append, SectionFormat.toList_line]
      refine (Leads.entry holds.isAt (keyText_writeKey name) denotes missing).append rest.lineStart ?_
      rintro next ⟨span, valueSpan, isAt⟩
      refine (ih distinct ?_ ⟨isAt, foldlM_concat holds.taken (taken span valueSpan)⟩).mono ?_
      · intro entry member
        obtain member | member := List.mem_append.mp member
        · exact fun later => fresh entry member (List.mem_cons_of_mem _ later)
        · obtain rfl := List.mem_singleton.mp member
          exact new
      · rintro last ⟨entries', holds', known⟩
        refine ⟨entries', holds', fun entry member => ?_⟩
        obtain member | later := known entry member
        · obtain member | member := List.mem_append.mp member
          · exact .inl member
          · obtain rfl := List.mem_singleton.mp member
            exact .inr List.mem_cons_self
        · exact .inr (List.mem_cons_of_mem _ later)

end Rows

/-! ## Settings -/

/-- The settings are written on lines, and what is read of these, one after the other, takes a value to
    another one. -/
inductive Restores (values : σ) : List (Setting σ) → σ → σ → Prop where
  | nil {value : σ} : Restores values [] value value
  | absent {setting : Setting σ} {settings : List (Setting σ)} {before after : σ}
      (written : setting.write values = .absent) (rest : Restores values settings before after) :
      Restores values (setting :: settings) before after
  | line {setting : Setting σ} {settings : List (Setting σ)} {before between after : σ} {text : String}
      {scalar : Scalar} (written : setting.write values = .value text) (denotes : Denotes text scalar)
      (read : ∀ span, setting.read (.scalar scalar span) before = .ok between)
      (rest : Restores values settings between after) :
      Restores values (setting :: settings) before after

namespace SectionFormat

variable (format : SectionFormat σ) (values : σ)

def readEntry (values : σ) (entry : Key × Item) : Except Rejection σ :=
  match format.settings.find? fun setting => setting.name = entry.1.name with
  | some setting => Decoder.located (entry.2.span? <|> some entry.1.span) (setting.read entry.2 values)
  | none => .ok values

theorem read_table (start : σ) (kind : TableKind) (span : Option Span) (entries : List (Key × Item)) :
    format.read start (.table kind span entries) = entries.foldlM format.readEntry start := rfl

def lines (settings : List (Setting σ)) : List String :=
  settings.filterMap fun setting =>
    match setting.write values with
    | .value text => some (line setting.name text)
    | _ => none

/-- The tables of settings that have one of their own. -/
def tables (settings : List (Setting σ)) : List String :=
  settings.filterMap fun setting =>
    match setting.write values with
    | .table entries => some (
        s!"\n[{format.name}.{setting.name}]\n"
        ++ String.join (entries.entries.map fun entry => line entry.1 (writeText entry.2)))
    | _ => none

theorem write_eq : format.write values =
    s!"[{format.name}]\n" ++ String.join (lines values format.settings)
      ++ String.join (format.tables values format.settings) := rfl

variable {format values}

theorem readEntry_setting {setting : Setting σ} (distinct : (format.settings.map Setting.name).Nodup)
    (member : setting ∈ format.settings) {entry : Key × Item} (named : entry.1.name = setting.name)
    {before after : σ} (read : setting.read entry.2 before = .ok after) :
    format.readEntry before entry = .ok after := by
  obtain ⟨other, found⟩ : ∃ other,
      (format.settings.find? fun setting => setting.name = entry.1.name) = some other := by
    rw [← Option.isSome_iff_exists, List.find?_isSome]
    exact ⟨setting, member, decide_eq_true named.symm⟩
  have sameName : other.name = entry.1.name := by simpa using List.find?_some found
  have same : other = setting :=
    List.inj_on_of_nodup_map distinct (List.mem_of_find?_eq_some found) member (sameName.trans named)
  simp only [readEntry, found, same, read]
  rfl

end SectionFormat

namespace Restores

open SectionFormat

variable {format : SectionFormat σ} {values before after : σ} {settings : List (Setting σ)}

/-- A setting that is read by a decoder. -/
theorem of {α : Type} {name text : String} {decoder : Decoder α} {put : α → σ → σ} {write : σ → Written}
    {scalar : Scalar} {a : α} (written : write values = .value text) (denotes : Denotes text scalar)
    (decoded : ∀ span, decoder (.scalar scalar span) = .ok a)
    (rest : Restores values settings (put a before) after) :
    Restores values (.of name decoder put write :: settings) before after :=
  .line written denotes (fun span => by simp only [Setting.of, decoded]; rfl) rest

theorem tables (restores : Restores values settings before after) : format.tables values settings = [] := by
  induction restores with
  | nil => rfl
  | absent written _ ih | line written _ _ _ ih =>
      rw [SectionFormat.tables, List.filterMap_cons, written]
      exact ih

theorem rows (restores : Restores values settings before after)
    (distinct : (format.settings.map Setting.name).Nodup) (members : ∀ setting ∈ settings, setting ∈ format.settings) :
    ∃ names, names.Sublist (settings.map Setting.name) ∧
      Rows format.readEntry names (lines values settings) before after := by
  induction restores with
  | nil => exact ⟨[], .slnil, .nil⟩
  | absent written _ ih =>
      obtain ⟨names, within, rows⟩ := ih fun setting member => members setting (List.mem_cons_of_mem _ member)
      refine ⟨names, within.cons _, ?_⟩
      rw [lines, List.filterMap_cons, written]
      exact rows
  | line written denotes read _ ih =>
      obtain ⟨names, within, rows⟩ := ih fun setting member => members setting (List.mem_cons_of_mem _ member)
      refine ⟨_, within.cons_cons _, ?_⟩
      rw [lines, List.filterMap_cons, written]
      refine .cons denotes (fun span valueSpan => ?_) rows
      exact readEntry_setting distinct (members _ List.mem_cons_self) rfl (read valueSpan)

end Restores

/-! ## Texts by name -/

namespace Decoder

/-- Takes one entry of a table of texts. -/
def textMapEntry (map : SortedMap String) (entry : Key × Item) : Except Rejection (SortedMap String) := do
  let s ← located (entry.2.span? <|> some entry.1.span) (text entry.2)
  pure (map.insert entry.1.name s)

theorem textMap_table (kind : TableKind) (span : Option Span) (entries : List (Key × Item)) :
    textMap (.table kind span entries) = entries.foldlM textMapEntry ∅ := rfl

theorem rows_texts (map : SortedMap String) {texts : List (String × String)}
    (sorted : (map.entries ++ texts).Pairwise fun a b => a.1 < b.1) :
    ∃ last : SortedMap String, last.entries = map.entries ++ texts ∧
      Rows textMapEntry (texts.map Prod.fst)
        (texts.map fun entry => SectionFormat.line entry.1 (writeText entry.2)) map last := by
  induction texts generalizing map with
  | nil => exact ⟨map, (List.append_nil _).symm, .nil⟩
  | cons entry texts ih =>
      have above : ∀ earlier ∈ map.entries, earlier.1 < entry.1 := fun earlier member =>
        (List.pairwise_append.mp sorted).2.2 earlier member entry List.mem_cons_self
      have inserted : (map.insert entry.1 entry.2).entries = map.entries ++ [entry] :=
        SortedMap.insertEntry_last above entry.2
      obtain ⟨last, reached, rows⟩ := ih (map.insert entry.1 entry.2)
        (by rwa [inserted, List.append_assoc, List.singleton_append])
      refine ⟨last, by rw [reached, inserted, List.append_assoc, List.singleton_append], ?_⟩
      exact .cons (denotes_text entry.2) (fun _ _ => rfl) rows

end Decoder

/-! ## Whole sections -/

/-- A name that needs no quotes as a key. -/
def IsBare (name : String) : Prop := name.toList ≠ [] ∧ name.toList.all isKeyChar = true

instance (name : String) : Decidable (IsBare name) := inferInstanceAs (Decidable (_ ∧ _))

theorem IsBare.keyText {name : String} (bare : IsBare name) : KeyText name.toList name := by
  have key := keyText_bare bare.1 (List.all_eq_true.mp bare.2)
  rwa [String.ofList_toList] at key

namespace SectionFormat

variable {format : SectionFormat σ} {values start between : σ}

/-- The text of the values puts one more table at the end of a document, and from this table the values
    are read. -/
def Regains (format : SectionFormat σ) (values start : σ) : Prop :=
  ∀ (draft : Draft) (root : Table), draft.close = .ok root → root.find? format.name = none →
    Leads draft (format.write values).toList fun next =>
      ∃ key item, key.name = format.name ∧ next.close = .ok (root.put key item) ∧
        format.read start item = .ok values

theorem lineStart_write (format : SectionFormat σ) (values : σ) : LineStart (format.write values).toList := by
  have bracket : (format.write values).toList.head? = some '[' := by simp [write_eq, toString]
  intro c here
  obtain rfl := Option.some.inj (bracket.symm.trans here)
  decide

theorem leads_lines {settings : List (Setting σ)} (bare : IsBare format.name)
    (distinct : (format.settings.map Setting.name).Nodup) (within : settings.Sublist format.settings)
    (restores : Restores values settings start between) {draft : Draft} {root : Table}
    (closed : draft.close = .ok root) (fresh : root.find? format.name = none) :
    Leads draft (s!"[{format.name}]\n" ++ String.join (lines values settings)).toList fun next =>
      ∃ key entries, key.name = format.name ∧
        next.Holds format.readEntry start root [key] entries between ∧
        ∀ entry ∈ entries, entry.1.name ∈ settings.map Setting.name := by
  obtain ⟨names, known, rows⟩ := restores.rows distinct fun setting member => within.subset member
  have header : (s!"[{format.name}]\n").toList = '[' :: (format.name.toList ++ [']', '\n']) := by
    simp [toString]
  rw [String.toList_append, header]
  refine (Leads.header closed bare.keyText fresh).append rows.lineStart ?_
  rintro next ⟨span, isAt⟩
  have namesDistinct : names.Nodup := (distinct.sublist (within.map _)).sublist known
  refine (rows.leads namesDistinct (List.forall_mem_nil _) ⟨isAt, rfl⟩).mono ?_
  rintro last ⟨entries, holds, onlyKnown⟩
  refine ⟨_, entries, rfl, holds, fun entry member => ?_⟩
  obtain absurd | here := onlyKnown entry member
  · cases absurd
  · exact known.subset here

theorem regains_lines (bare : IsBare format.name) (distinct : (format.settings.map Setting.name).Nodup)
    (restores : Restores values format.settings start values) : format.Regains values start := by
  intro draft root closed fresh
  have text : format.write values = s!"[{format.name}]\n" ++ String.join (lines values format.settings) := by
    rw [write_eq, restores.tables]
    exact String.append_empty
  rw [text]
  refine (leads_lines bare distinct (.refl _) restores closed fresh).mono ?_
  rintro next ⟨key, entries, named, holds, -⟩
  obtain ⟨span, closed⟩ := holds.isAt.close_new
  exact ⟨key, _, named, closed, (format.read_table ..).trans holds.taken⟩

/-- How a section is written whose last setting has a table of its own. -/
theorem toList_write {settings : List (Setting σ)} {setting : Setting σ} {texts : SortedMap String}
    (shape : format.settings = settings ++ [setting]) (restores : Restores values settings start between)
    (written : setting.write values = .table texts) :
    (format.write values).toList =
      (s!"[{format.name}]\n" ++ String.join (lines values settings)).toList ++ ('\n' ::
        ('[' :: (format.name.toList ++ '.' :: setting.name.toList ++ [']', '\n']) ++
          (String.join (texts.entries.map fun entry => line entry.1 (writeText entry.2))).toList)) := by
  have sameLines : lines values format.settings = lines values settings := by
    rw [shape, lines, List.filterMap_append, List.filterMap_cons, written]
    exact List.append_nil _
  have oneTable : format.tables values format.settings = [s!"\n[{format.name}.{setting.name}]\n"
      ++ String.join (texts.entries.map fun entry => line entry.1 (writeText entry.2))] := by
    have none : format.tables values settings = [] := restores.tables
    rw [shape, tables, List.filterMap_append, List.filterMap_cons, written]
    rw [tables] at none
    rw [none]
    rfl
  rw [write_eq, sameLines, oneTable]
  simp [toString]

theorem regains_table {setting : Setting σ} {texts : SortedMap String}
    (last : format.settings.getLast? = some setting) (bare : IsBare format.name)
    (bareSetting : IsBare setting.name) (distinct : (format.settings.map Setting.name).Nodup)
    (restores : Restores values format.settings.dropLast start between) (written : setting.write values = .table texts)
    (read : ∀ item, Decoder.textMap item = .ok texts → setting.read item between = .ok values) :
    format.Regains values start := by
  intro draft root closed fresh
  have shape : format.settings = format.settings.dropLast ++ [setting] :=
    (List.dropLast_append_getLast? setting last).symm
  have member : setting ∈ format.settings := List.mem_of_getLast? last
  obtain ⟨map, same, rows⟩ := Decoder.rows_texts ∅ texts.sorted
  obtain rfl : map = texts := SortedMap.eq_of_entries same
  rw [toList_write shape restores written]
  refine (leads_lines bare distinct (List.dropLast_sublist _) restores closed fresh).append
    (by rintro c ⟨⟩; decide) ?_
  rintro next ⟨key, entries, named, holds, known⟩
  refine (Leads.blankLine next).append (by rintro c ⟨⟩; decide) ?_
  rintro _ rfl
  obtain ⟨span, closed⟩ := holds.isAt.close_new
  have fresh : root.find? key.name = none := named ▸ fresh
  have found := Table.find?_last fresh (.table .headed span entries)
  have other : setting.name ∉ format.settings.dropLast.map Setting.name := by
    rw [shape, List.map_append, List.map_singleton] at distinct
    exact fun member => (List.nodup_append.mp distinct).2.2 _ member _ List.mem_cons_self rfl
  have missing : Table.find? ⟨.headed, span, entries⟩ setting.name = none := by
    simp only [Table.find?, List.find?_eq_none, decide_eq_true_eq]
    intro entry member same
    exact other (same ▸ known entry member)
  rw [← named]
  refine (Leads.innerHeader closed (named ▸ bare.keyText) bareSetting.keyText found missing).append rows.lineStart ?_
  rintro inside ⟨keySpan, innerSpan, isAt⟩
  -- The header within has put the section once more, at its own place.
  rw [Table.put_last fresh ⟨key.name, keySpan⟩ rfl] at isAt
  refine (rows.leads map.nodup_keys (List.forall_mem_nil _) ⟨isAt, rfl⟩).mono ?_
  rintro last ⟨inner, holdsTexts, -⟩
  obtain ⟨innerTableSpan, closedLast⟩ := holdsTexts.isAt.close_inner found missing
  rw [Table.put_last fresh ⟨key.name, keySpan⟩ rfl] at closedLast
  refine ⟨key, _, rfl, closedLast, (format.read_table ..).trans (foldlM_concat holds.taken ?_)⟩
  exact readEntry_setting distinct member rfl (read _ ((Decoder.textMap_table ..).trans holdsTexts.taken))

end SectionFormat

end TerminalAgent.Toml
