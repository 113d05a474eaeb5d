import TerminalAgent.Proofs.Toml.Numbers
import TerminalAgent.Proofs.Toml.QuotedText

/-! # Values read back

The written form of a value without parts is read as this value, up to the end of its line.
-/

namespace TerminalAgent.Toml

/-- Before the end of a line the text is read as the scalar. -/
def Denotes (text : String) (scalar : Scalar) : Prop :=
  ∀ rest, scalarReader (text.toList ++ '\n' :: rest) = .read scalar ('\n' :: rest)

theorem scalarReader_missed {c : Char} (h : c ∈ ['[', '\x7b', ' ', '\t']) (rest : Place) :
    ∃ fault, scalarReader (c :: rest) = .missed fault := by
  simp only [List.mem_cons, List.not_mem_nil, or_false] at h
  obtain rfl | rfl | rfl | rfl := h <;> exact ⟨_, rfl⟩

theorem scalarReader_head {text left : Place} {scalar : Scalar} (read : scalarReader text = .read scalar left) :
    ∀ c ∈ text.head?, c ∉ ['[', '\x7b', ' ', '\t'] := by
  intro c here other
  obtain ⟨rest, rfl⟩ := List.head?_eq_some_iff.mp here
  obtain ⟨fault, missed⟩ := scalarReader_missed other rest
  cases missed.symm.trans read

theorem value_scalar {text left : Place} {scalar : Scalar} (read : scalarReader text = .read scalar left) :
    value text = .read (.scalar scalar ⟨text, left⟩) left := by
  have plain : ∀ c ∈ ['[', '\x7b', ' ', '\t'], ∀ rest, text ≠ c :: rest := by
    rintro c other rest rfl
    exact scalarReader_head read c rfl other
  rw [value, depthLimit, valueReader]
  · simp only [spanned, read]
  · exact plain '[' (by decide)
  · exact plain '\x7b' (by decide)

theorem Denotes.notBlank {text : String} {scalar : Scalar} (h : Denotes text scalar) (rest : Place) :
    ∀ c ∈ (text.toList ++ '\n' :: rest).head?, isBlank c = false := by
  intro c here
  have := scalarReader_head (h rest) c here
  simp_all [isBlank]

/-! ## Each kind of value -/

theorem writeText_head (s : String) : ∃ quote rest, (writeText s).toList = quote :: rest ∧
    (quote = '"' ∨ quote = '\'') := by
  unfold writeText
  extract_lets chars lines controls backslash doubles singles
  rw [String.toList_ofList]
  split_ifs
  · exact ⟨_, _, rfl, .inl rfl⟩
  · exact ⟨_, _, rfl, .inr rfl⟩
  · exact ⟨_, _, rfl, .inl rfl⟩
  · exact ⟨_, _, rfl, .inr rfl⟩
  · exact ⟨_, _, rfl, .inl rfl⟩
  · exact ⟨_, _, rfl, .inl rfl⟩

theorem denotes_text (s : String) : Denotes (writeText s) (.text s) := by
  intro rest
  obtain ⟨quote, body, head, quotes⟩ := writeText_head s
  have read : Quoted.reader ((writeText s).toList ++ '\n' :: rest) = .read s ('\n' :: rest) :=
    writeText_read s (by simp) (by simp)
  rw [head, List.cons_append] at read ⊢
  have quoted : (quote = '"' || quote = '\'') = true := by simpa using quotes
  simp only [scalarReader, if_pos quoted, read]
  rfl

/-- What begins as a number and is no date is a float or else an integer. -/
theorem scalarReader_number {c : Char} {rest : Place} (starts : c = '+' ∨ c = '-' ∨ c.isDigit = true)
    (undated : Undated (c :: rest)) :
    scalarReader (c :: rest) = Reader.orElse (fun text => (Number.floatReader text).map .float)
      (fun text => (Number.integerReader text).map .integer) (c :: rest) := by
  obtain ⟨fault, noDate⟩ := Datetime.reader_missed undated
  have unquoted : ¬ (c = '"' || c = '\'') = true := by
    intro quote
    simp only [Bool.or_eq_true, decide_eq_true_eq] at quote
    obtain rfl | rfl := quote <;> exact absurd starts (by decide)
  have number : (c = '+' || c = '-' || c.isDigit) = true := by simpa [or_assoc] using starts
  rw [scalarReader, if_neg unquoted, if_pos number]
  have noDate : (Datetime.reader (c :: rest)).map Scalar.datetime = .missed fault := by rw [noDate]; rfl
  exact Reader.orElse_missed noDate _

theorem denotes_natural {n : Nat} (small : n < 0x8000000000000000) :
    Denotes (toString n) (.integer n) := by
  intro rest
  have ends : Number.Ends ('\n' :: rest) := by
    rintro c ⟨⟩
    decide
  have all : ∀ d ∈ Nat.toDigits 10 n, d.isDigit = true := fun d member =>
    Nat.isDigit_of_mem_toDigits (by decide) (by decide) member
  have integer := Number.integerReader_natural small ends
  have undated := undated_of_digits all rest
  rw [Nat.toString_eq_repr, Nat.toList_repr]
  obtain ⟨d, digits, spelled⟩ := List.exists_cons_of_ne_nil (Nat.toDigits_ne_nil (n := n) (b := 10))
  rw [spelled] at all integer undated ⊢
  obtain ⟨_, noFloat⟩ := Number.floatReader_digits all ends
  rw [List.cons_append] at integer undated noFloat ⊢
  rw [scalarReader_number (.inr (.inr (all d List.mem_cons_self))) undated]
  simp only [Reader.orElse, noFloat, integer, Outcome.map]

theorem denotes_bool (b : Bool) : Denotes (writeBool b) (.boolean b) := by
  intro rest
  cases b
  · rfl
  · rfl

theorem floatReader_named {c : Char} {text : Place} {x : Binary64}
    (starts : ¬ (c = '+' ∨ c = '-' ∨ c.isDigit = true)) (read : Number.floatReader (c :: text) = .read x []) :
    c :: text = "inf".toList ∧ x = .infinity false ∨ c :: text = "nan".toList ∧ x = .nan := by
  push Not at starts
  obtain ⟨noPlus, noMinus, noDigit⟩ := starts
  have unsigned : ∀ d ∈ (c :: text).head?, d ≠ '+' ∧ d ≠ '-' := by
    rintro d ⟨⟩
    exact ⟨noPlus, noMinus⟩
  have noWhole : ∃ fault, Number.wholeReader (c :: text) = .missed fault := by
    have noFirst : ∀ d ∈ (c :: text).head?, d.isDigit = false := by
      rintro d ⟨⟩
      simpa using noDigit
    obtain ⟨_, noFirst⟩ := Reader.satisfy_missed noFirst
    exact Reader.labelled_missed
      ((Reader.bind_read (Number.sign_none unsigned) _).trans (Reader.bind_missed noFirst _)) _
  obtain ⟨_, noWhole⟩ := noWhole
  obtain ⟨_, noPoint⟩ := Number.pointReader_unstarted noWhole
  generalize c :: text = text at read unsigned noPoint ⊢
  have reads (outcome : Outcome Binary64) (named : Number.namedReader text = outcome) :
      outcome.labelled "floating-point number" = .read x [] := by
    rw [← named, ← read]
    exact congrArg _ (Reader.orElse_missed noPoint _).symm
  rw [Number.namedReader_unsigned unsigned] at reads
  by_cases infinite : "inf".toList <+: text
  · obtain ⟨left, rfl⟩ := infinite
    cases reads (.read (.infinity false) left)
      (Reader.orElse_read (Reader.bind_read (Reader.literal_read "inf" left) fun _ => pure _) _)
    exact .inl ⟨List.append_nil _, rfl⟩
  · obtain ⟨_, noInfinity⟩ := Reader.literal_missed infinite
    rw [Reader.orElse_missed (Reader.bind_missed noInfinity _)] at reads
    by_cases nan : "nan".toList <+: text
    · obtain ⟨left, rfl⟩ := nan
      cases reads (.read .nan left) (Reader.bind_read (Reader.literal_read "nan" left) _)
      exact .inr ⟨List.append_nil _, rfl⟩
    · obtain ⟨_, noNan⟩ := Reader.literal_missed nan
      cases reads (.missed _) (Reader.bind_missed noNan _)

theorem denotes_float {x : Binary64}
    (printed : Number.floatReader (writeFloat x).toList = .read x []) :
    Denotes (writeFloat x) (.float x) := by
  intro rest
  have goesOn : Number.floatReader ((writeFloat x).toList ++ '\n' :: rest) = .read x ('\n' :: rest) := by
    have same := Local.floatReader (writeFloat x).toList rest
    rw [printed] at same
    generalize Number.floatReader ((writeFloat x).toList ++ '\n' :: rest) = after at same ⊢
    cases same with
    | read => rfl
  have undated := Number.undated_of_floatReader goesOn
  generalize (writeFloat x).toList = text at printed goesOn undated ⊢
  cases text with
  | nil => cases printed
  | cons c text =>
      -- Before a number a date is tried, and with any other first character this is `inf` or `nan`.
      by_cases starts : c = '+' ∨ c = '-' ∨ c.isDigit = true
      · rw [List.cons_append] at goesOn undated ⊢
        rw [scalarReader_number starts undated]
        simp only [Reader.orElse, goesOn, Outcome.map]
      · obtain ⟨named, rfl⟩ | ⟨named, rfl⟩ := floatReader_named starts printed
        · rw [named]
          rfl
        · rw [named]
          rfl

end TerminalAgent.Toml
