import TerminalAgent.Proofs.Toml.QuotedText
import TerminalAgent.Toml.Value

/-! # Keys read back

The written form of a key is read as its name, up to a character that belongs to no bare key.
-/

namespace TerminalAgent.Toml

/-- The text is read as a key of this name. -/
structure KeyText (text : List Char) (name : String) : Prop where
  nonempty : text ≠ []
  opens : ∀ c ∈ text.head?, isKeyChar c = true ∨ c = '"' ∨ c = '\''
  read : ∀ rest : Place, (∀ c ∈ rest.head?, isKeyChar c = false) →
    ∃ span, keyPart (text ++ rest) = .read ⟨name, span⟩ rest

theorem KeyText.head {text : List Char} {name : String} (key : KeyText text name) :
    ∀ c ∈ text.head?, c ∉ [' ', '\t', '#', '[', '\n', '\r'] := by
  intro c here other
  have excluded : ∀ c ∈ [' ', '\t', '#', '[', '\n', '\r'],
      ¬ (isKeyChar c = true ∨ c = '"' ∨ c = '\'') := by simp [isKeyChar]
  exact excluded c other (key.opens c here)

theorem KeyText.notBlank {text : List Char} {name : String} (key : KeyText text name) :
    ∀ c ∈ text.head?, isBlank c = false := by
  intro c here
  have := key.head c here
  simp_all [isBlank]

theorem keyText_bare {chars : List Char} (some : chars ≠ []) (all : ∀ c ∈ chars, isKeyChar c = true) :
    KeyText chars (String.ofList chars) := by
  obtain ⟨first, more, rfl⟩ := List.exists_cons_of_ne_nil some
  have bare : isKeyChar first = true := all first List.mem_cons_self
  refine ⟨some, ?_, fun rest ends => ?_⟩
  · rintro c ⟨⟩
    exact .inl bare
  · obtain ⟨taken, left⟩ := takeWhile_append_of_head
      (fun c member => all c (List.mem_cons_of_mem _ member)) ends
    unfold keyPart
    extract_lets name
    have read : ∀ reader, reader = name →
        reader (first :: more ++ rest) = .read (String.ofList (first :: more)) rest := by
      intro reader same
      unfold name at same
      split at same
      next quote =>
        obtain rfl := (List.cons.inj quote).1
        exact absurd bare (by decide)
      next quote =>
        obtain rfl := (List.cons.inj quote).1
        exact absurd bare (by decide)
      next =>
        subst same
        rw [List.cons_append, Reader.bind_read (Reader.satisfy_read bare (more ++ rest))]
        refine (Reader.bind_read (a := more) ?_ _).trans rfl
        rw [taken, left]
    rw [read name rfl]
    exact ⟨_, rfl⟩

theorem keyText_basic (chars : List Char) : KeyText (writeBasic chars) (String.ofList chars) := by
  refine ⟨by simp [writeBasic], by rintro c ⟨⟩; decide, fun rest _ => ?_⟩
  have read := Quoted.basic_read chars rest
  obtain ⟨body, quote⟩ : ∃ body, writeBasic chars ++ rest = '"' :: body := ⟨_, rfl⟩
  rw [quote] at read ⊢
  simp only [keyPart, read]
  exact ⟨_, rfl⟩

theorem keyText_literal {chars : List Char} (allowed : ∀ c ∈ chars, Quoted.isLiteralChar c = true) :
    KeyText (writeLiteral chars) (String.ofList chars) := by
  refine ⟨by simp [writeLiteral], by rintro c ⟨⟩; decide, fun rest _ => ?_⟩
  have read := Quoted.literal_read allowed rest
  obtain ⟨body, quote⟩ : ∃ body, writeLiteral chars ++ rest = '\'' :: body := ⟨_, rfl⟩
  rw [quote] at read ⊢
  simp only [keyPart, read]
  exact ⟨_, rfl⟩

theorem keyText_writeKey (s : String) : KeyText (writeKey s).toList s := by
  suffices KeyText (writeKey s).toList (String.ofList s.toList) by rwa [String.ofList_toList] at this
  unfold writeKey
  extract_lets chars controls backslash
  rw [String.toList_ofList]
  split_ifs with bare plain single
  · simp only [Bool.and_eq_true, Bool.not_eq_true', List.isEmpty_eq_false_iff, List.all_eq_true] at bare
    exact keyText_bare bare.1 bare.2
  · exact keyText_basic chars
  · simp only [controls, Bool.and_eq_true, Bool.not_eq_true', List.any_eq_false,
      List.contains_eq_mem, decide_eq_false_iff_not] at single
    refine keyText_literal fun c member => isLiteralChar_of_not_isControl ?_ ?_
    · simpa using single.1 c member
    · rintro rfl
      exact single.2 member
  · exact keyText_basic chars

/-! ## Paths of keys -/

theorem Reader.separatedFrom_stop {α : Type} {separator : Char} {text : Place}
    (h : text.head? ≠ some separator) (item : Reader α) (fuel : Nat) :
    Reader.separatedFrom separator item fuel text = .read [] text := by
  cases fuel with
  | zero => rfl
  | succ fuel =>
      cases text with
      | nil => rfl
      | cons c text => exact if_neg (by simpa using h)

variable {text : List Char} {name : String} {rest : Place}

theorem KeyText.spaced (key : KeyText text name) (rest : Place) (ends : ∀ c ∈ rest.head?, isKeyChar c = false) :
    ∃ span, spacedKeyPart (text ++ rest) = .read ⟨name, span⟩ (rest.dropWhile isBlank) := by
  have front : blanks (text ++ rest) = .read () (text ++ rest) := by
    have same : (text ++ rest).dropWhile isBlank = text ++ rest := by
      refine dropWhile_of_head ?_
      rw [List.head?_append_of_ne_nil _ key.nonempty]
      exact key.notBlank
    rw [blanks, Reader.skipWhile, same]
  obtain ⟨span, read⟩ := key.read rest ends
  rw [spacedKeyPart, Reader.bind_read front, Reader.bind_read read]
  exact ⟨span, rfl⟩

theorem KeyText.path (key : KeyText text name) (rest : Place)
    (ends : ∀ c ∈ rest.head?, isKeyChar c = false) (noPoint : (rest.dropWhile isBlank).head? ≠ some '.') :
    ∃ span, keyPath (text ++ rest) = .read ([], ⟨name, span⟩) (rest.dropWhile isBlank) := by
  obtain ⟨span, first⟩ := key.spaced rest ends
  have parts : Reader.separated '.' spacedKeyPart (text ++ rest) =
      .read [⟨name, span⟩] (rest.dropWhile isBlank) := by
    rw [Reader.separated, Reader.bind_read first]
    exact (Reader.bind_read (Reader.separatedFrom_stop noPoint _ _) _).trans rfl
  refine ⟨span, ?_⟩
  simp only [keyPath, Reader.checked, Reader.labelled_read parts]
  rfl

theorem KeyText.pairPath {inner : List Char} {innerName : String} (key : KeyText text name)
    (innerKey : KeyText inner innerName) (rest : Place) (ends : ∀ c ∈ rest.head?, isKeyChar c = false)
    (noPoint : (rest.dropWhile isBlank).head? ≠ some '.') :
    ∃ span innerSpan, keyPath (text ++ '.' :: (inner ++ rest)) =
      .read ([⟨name, span⟩], ⟨innerName, innerSpan⟩) (rest.dropWhile isBlank) := by
  obtain ⟨span, first⟩ := key.spaced ('.' :: (inner ++ rest)) (by rintro c ⟨⟩; decide)
  obtain ⟨innerSpan, last⟩ := innerKey.spaced rest ends
  have others (fuel : Nat) : Reader.separatedFrom '.' spacedKeyPart (fuel + 1) ('.' :: (inner ++ rest)) =
      .read [⟨innerName, innerSpan⟩] (rest.dropWhile isBlank) := by
    have stop := Reader.separatedFrom_stop noPoint spacedKeyPart fuel
    simp only [Reader.separatedFrom, if_true, last, stop]
    rfl
  have parts : Reader.separated '.' spacedKeyPart (text ++ '.' :: (inner ++ rest)) =
      .read [⟨name, span⟩, ⟨innerName, innerSpan⟩] (rest.dropWhile isBlank) := by
    rw [Reader.separated, Reader.bind_read first]
    exact (Reader.bind_read (others _) _).trans rfl
  refine ⟨span, innerSpan, ?_⟩
  simp only [keyPath, Reader.checked, Reader.labelled_read parts]
  rfl

end TerminalAgent.Toml
