import TerminalAgent.Proofs.MessagePack.Spellings

/-! # Whatever else is there

A value of any kind is passed over, extensions and maps with any keys included, as long as it is whole
and not too deep. So the fields that a record asks for are found in a map among any others, however
often these are repeated and even if their names are no text.
-/

namespace TerminalAgent.MessagePack

/-- Bytes of some type, behind their number. -/
inductive ExtensionSpelling : Bytes → Prop
  | fixed {k : Nat} {kind : UInt8} {data : Bytes} (small : k < 5) (size : data.length = Nat.pow 2 k) :
      ExtensionSpelling (UInt8.ofNat (0xD4 + k) :: kind :: data)
  | wide {first kind : UInt8} {w : Nat} {data : Bytes}
      (listed : (first, w) ∈ [(0xC7, 1), (0xC8, 2), (0xC9, 4)]) (fits : data.length < Nat.pow 256 w) :
      ExtensionSpelling (first :: Bytes.bigEndian w data.length ++ kind :: data)

/-- A whole value of any kind. An extension is entered like a container. -/
inductive Complete : (depth : Nat) → Bytes → Prop
  | whole {depth : Nat} {bytes : Bytes} (value : Whole depth bytes) : Complete depth bytes
  | extension {depth : Nat} {bytes : Bytes} (value : ExtensionSpelling bytes) :
      Complete (depth + 1) bytes
  | array {depth : Nat} {elements : List Bytes} {front : Bytes}
      (head : Head.array.Spelling elements.length front) (all : ∀ bytes ∈ elements, Complete depth bytes) :
      Complete (depth + 1) (front ++ elements.flatten)
  | map {depth : Nat} {entries : List (Bytes × Bytes)} {front : Bytes}
      (head : Head.map.Spelling entries.length front) (keys : ∀ entry ∈ entries, Complete depth entry.1)
      (values : ∀ entry ∈ entries, Complete depth entry.2) :
      Complete (depth + 1) (front ++ entries.flatMap fun entry => entry.1 ++ entry.2)

/-- The entries of a map, so many of them: the fields in `met`, in this order, and between them others
    with strings as keys that are none of `names`. -/
inductive LooseEntries (names : List String) (depth : Nat) :
    (met : List (String × Bytes)) → (count : Nat) → Bytes → Prop
  | nil : LooseEntries names depth [] 0 []
  | field {name : String} {key value rest : Bytes} {met : List (String × Bytes)} {count : Nat}
      (named : Head.str.Counted (Utf8.encode name) key)
      (others : LooseEntries names depth met count rest) :
      LooseEntries names depth ((name, value) :: met) (count + 1) (key ++ value ++ rest)
  | other {data key value rest : Bytes} {met : List (String × Bytes)} {count : Nat}
      (named : Head.str.Counted data key) (foreign : ∀ name ∈ names, Utf8.encode name ≠ data)
      (complete : Complete depth value) (others : LooseEntries names depth met count rest) :
      LooseEntries names depth met (count + 1) (key ++ value ++ rest)

/-- A map that holds the given fields in any order, and others. -/
inductive LooseSpelling (names : List String) (depth : Nat) (given : List (String × Bytes)) : Bytes → Prop
  | mk {met : List (String × Bytes)} {count : Nat} {front back : Bytes} (order : met.Perm given)
      (head : Head.map.Spelling count front) (written : LooseEntries names depth met count back) :
      LooseSpelling names depth given (front ++ back)

/-! ## Passing over -/

theorem readUnsigned_byte (b : UInt8) : Yields (readUnsigned 1) [b] b.toNat := by
  have byte : Bytes.bigEndian 1 b.toNat = [b] := by
    have small := b.toNat_lt
    simp [Bytes.bigEndian, Bytes.littleEndian, Nat.mod_eq_of_lt small]
  have read := readUnsigned_yields (w := 1) b.toNat_lt
  rwa [byte] at read

theorem skip_extension {bytes : Bytes} (h : ExtensionSpelling bytes) (depth : Nat) :
    Yields (skip (depth + 1)) bytes () := by
  have inside (kind : UInt8) (data : Bytes) :
      Yields (skipContents (skip depth) (.ext data.length)) (kind :: data) () := by
    rw [← List.append_nil data, List.length_append, List.length_nil, Nat.add_zero]
    exact (readUnsigned_byte kind).bind ((readBytes_yields .endInBytes data).bind (.pure ()))
  cases h with
  | @fixed k kind data small size =>
      have known : ∀ k < 5, Marker.ofByte (Marker.fixExt k).toByte = .fixExt k := by decide
      have announced : Announces [(Marker.fixExt k).toByte] _ _ := .alone (known k small) rfl
      rw [← size] at announced
      exact skip_container announced (inside kind data)
  | @wide first kind w data listed fits =>
      simp only [List.mem_cons, Prod.mk.injEq, List.not_mem_nil, or_false] at listed
      rcases listed with ⟨rfl, rfl⟩ | ⟨rfl, rfl⟩ | ⟨rfl, rfl⟩
      all_goals exact skip_container (.word fits rfl) (inside kind data)

theorem skip_complete {depth : Nat} {bytes : Bytes} (h : Complete depth bytes) :
    Yields (skip depth) bytes () := by
  induction h with
  | whole value => exact skip_whole value
  | extension value => exact skip_extension value _
  | array head _ ih => exact skip_array head ih
  | map head _ _ keys values => exact skip_map head keys values

/-! ## Records -/

namespace Record.Drafts

variable {record : Record σ α} {depth : Nat} {given : List (String × Bytes)}
  {draftOf : List String → σ} {names : List String}

/-- The fields are read in the order in which they are met, and the others are passed over. -/
theorem readLooseEntries (h : record.Drafts depth given draftOf)
    (named : record.fields.map Field.name = names) {met : List (String × Bytes)} {count : Nat}
    {bytes : Bytes} (written : LooseEntries names depth met count bytes) {seen : List String}
    (known : ∀ entry ∈ met, entry ∈ given ∧ entry.1 ∉ seen) (once : (met.map Prod.fst).Nodup) :
    Yields (Format.readEntries (record.readEntry depth) count (draftOf seen)) bytes
      (draftOf ((met.map Prod.fst).reverse ++ seen)) := by
  induction written generalizing seen with
  | nil => exact .pure (draftOf seen)
  | @field name key value rest met count held others ih =>
      obtain ⟨apart, once⟩ := List.nodup_cons.mp once
      have first := h.readEntry held (.inl (known _ List.mem_cons_self))
      have later : ∀ entry ∈ met, entry ∈ given ∧ entry.1 ∉ name :: seen := by
        intro entry member
        obtain ⟨there, unseen⟩ := known entry (List.mem_cons_of_mem _ member)
        refine ⟨there, fun again => ?_⟩
        rcases List.mem_cons.mp again with same | before
        · exact apart (List.mem_map.mpr ⟨entry, member, same⟩)
        · exact unseen before
      have names : (((name, value) :: met).map Prod.fst).reverse ++ seen =
          (met.map Prod.fst).reverse ++ name :: seen := by simp
      rw [names]
      exact Format.readEntries_yields first (ih later once)
  | other held foreign complete others ih =>
      have unknown : ∀ field ∈ record.fields, Utf8.encode field.name ≠ _ := fun field member =>
        foreign field.name (named ▸ List.mem_map_of_mem member)
      exact Format.readEntries_yields
        (record.readEntry_passed held unknown (skip_complete complete) (draftOf seen)) (ih known once)

/-- A record is read from a map that holds its fields, if the draft of them can be closed. -/
theorem format_yields_loose (h : record.Drafts depth given draftOf)
    (named : record.fields.map Field.name = names) {bytes : Bytes}
    (spelled : LooseSpelling names depth given bytes) {a : α}
    (closes : record.close (draftOf (given.map Prod.fst).reverse) = .ok a) :
    Yields (record.format.read (depth + 1)) bytes a := by
  cases spelled with
  | @mk met count front back order head written =>
      obtain ⟨marker, announced⟩ := announces_map head
      have known : ∀ entry ∈ met, entry ∈ given ∧ entry.1 ∉ ([] : List String) :=
        fun entry member => ⟨order.mem_iff.mp member, List.not_mem_nil⟩
      have once : (met.map Prod.fst).Nodup := (order.map Prod.fst).nodup_iff.mpr h.given_nodup
      have same : draftOf (met.map Prod.fst).reverse = draftOf (given.map Prod.fst).reverse := by
        refine h.same fun field _ => ?_
        rw [List.mem_reverse, List.mem_reverse, (order.map Prod.fst).mem_iff]
      have drafts := h.readLooseEntries named written known once
      rw [h.start, List.append_nil, same] at drafts
      refine Format.ofToken_yields announced (enter_map_yields depth _) ?_
      rw [← List.append_nil back]
      exact drafts.bind (.lift closes)

end Record.Drafts

end TerminalAgent.MessagePack
