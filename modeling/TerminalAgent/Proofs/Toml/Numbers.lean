import Mathlib.Data.List.Infix
import TerminalAgent.Proofs.Toml.Readers
import TerminalAgent.Toml.Number

/-! # Numbers read back

What is read of a number does not change when a line end follows. A natural number is read from its
decimal digits, and neither digits nor a written float are taken for a date.
-/

namespace TerminalAgent.Toml

/-! ## Line ends after a text -/

/-- What becomes of a reading when a line end and more text follow. -/
inductive Continues {α : Type} (more : Place) : Outcome α → Outcome α → Prop where
  | read {a : α} {left : Place} : Continues more (.read a left) (.read a (left ++ '\n' :: more))
  | missed {fault fault' : Fault} : Continues more (.missed fault) (.missed fault')
  /-- Nothing is said of text that is refused. -/
  | refused {fault : Fault} {after : Outcome α} : Continues more (.refused fault) after

/-- A line end after the text does not matter to the reader. -/
def Local {α : Type} (reader : Reader α) : Prop :=
  ∀ text more, Continues more (reader text) (reader (text ++ '\n' :: more))

namespace Local

variable {α β : Type} {reader : Reader α}

theorem pure (a : α) : Local (pure a : Reader α) := fun _ _ => .read

theorem bind (h : Local reader) {next : α → Reader β} (h' : ∀ a, Local (next a)) :
    Local (reader >>= next) := by
  intro text more
  have first := h text more
  simp only [Bind.bind]
  generalize reader text = before at first ⊢
  generalize reader (text ++ '\n' :: more) = after at first ⊢
  cases first with
  | read => exact h' _ _ more
  | missed => exact .missed
  | refused => exact .refused

theorem orElse (h : Local reader) {second : Reader α} (h' : Local second) :
    Local (reader.orElse second) := by
  intro text more
  have first := h text more
  simp only [Reader.orElse]
  generalize reader text = before at first ⊢
  generalize reader (text ++ '\n' :: more) = after at first ⊢
  cases first with
  | read => exact .read
  | missed => exact h' text more
  | refused => exact .refused

theorem optional (h : Local reader) : Local (Reader.optional reader) := by
  intro text more
  have first := h text more
  simp only [Reader.optional]
  generalize reader text = before at first ⊢
  generalize reader (text ++ '\n' :: more) = after at first ⊢
  cases first with
  | read => exact .read
  | missed => exact .read
  | refused => exact .refused

theorem mapFault (h : Local reader) {f : Fault → Fault} :
    Local fun text => (reader text).mapFault f := by
  intro text more
  have first := h text more
  simp only
  generalize reader text = before at first ⊢
  generalize reader (text ++ '\n' :: more) = after at first ⊢
  cases first with
  | read => exact .read
  | missed => exact .missed
  | refused => exact .refused

theorem labelled (h : Local reader) (label : String) : Local (reader.labelled label) := h.mapFault

theorem expecting (h : Local reader) (what : String) : Local (reader.expecting what) := h.mapFault

theorem final (h : Local reader) : Local reader.final := by
  intro text more
  have first := h text more
  simp only [Reader.final]
  generalize reader text = before at first ⊢
  generalize reader (text ++ '\n' :: more) = after at first ⊢
  cases first with
  | read => exact .read
  | missed => exact .refused
  | refused => exact .refused

theorem satisfy {wanted : Char → Bool} (noLine : wanted '\n' = false) :
    Local (Reader.satisfy wanted) := by
  intro text more
  cases text with
  | nil =>
      simp only [List.nil_append, Reader.satisfy, noLine]
      exact .missed
  | cons c text =>
      simp only [List.cons_append, Reader.satisfy]
      split
      next => exact .read
      next => exact .missed

theorem literal {s : String} (noLine : '\n' ∉ s.toList) : Local (Reader.literal s) := by
  intro text more
  simp only [Reader.literal, List.isPrefixOf_iff_prefix]
  split
  next front =>
    have long : s.length ≤ text.length := by
      rw [← String.length_toList]
      exact front.length_le
    rw [if_pos (front.trans (List.prefix_append ..)), List.drop_append_of_le_length long]
    exact .read
  next other =>
    rw [if_neg]
    · exact .missed
    intro front
    obtain within | beyond := List.prefix_or_prefix_of_prefix front
      (show text ++ ['\n'] <+: text ++ '\n' :: more from ⟨more, by simp⟩)
    · obtain whole | within := List.prefix_concat_iff.mp within
      · exact noLine (whole ▸ by simp)
      · exact other within
    · exact noLine (beyond.subset (by simp))

theorem map {β : Type} {more : Place} {before after : Outcome α} (h : Continues more before after)
    (f : α → β) : Continues more (before.map f) (after.map f) := by
  cases h with
  | read => exact .read
  | missed => exact .missed
  | refused => exact .refused

theorem moreDigits {isDigit : Char → Bool} (noLine : isDigit '\n' = false) :
    Local (Number.moreDigits isDigit) := by
  intro text more
  fun_induction Number.moreDigits isDigit text with
  | case1 =>
      rw [List.nil_append, Number.moreDigits]
      · rw [if_neg (by simp [noLine])]
        exact .read
      · decide
  | case2 => exact .refused
  | case3 c after digit ih =>
      simp only [List.cons_append, Number.moreDigits, if_pos digit]
      exact map ih _
  | case4 => exact .refused
  | case5 c rest other digit ih =>
      rw [List.cons_append, Number.moreDigits, if_pos digit]
      · exact map ih _
      · exact other
  | case6 c rest other digit =>
      rw [List.cons_append, Number.moreDigits, if_neg digit]
      · exact .read
      · exact other

theorem digits {isDigit : Char → Bool} (noLine : isDigit '\n' = false) :
    Local (Number.digits isDigit) :=
  (satisfy noLine).bind fun _ => (moreDigits noLine).bind fun _ => pure _

theorem sign : Local Number.sign :=
  (satisfy (by decide)).optional.bind fun _ => pure _

theorem wholeReader : Local Number.wholeReader := by
  refine labelled (sign.bind fun negative => (satisfy (by decide)).bind fun first => ?_) _
  split
  · exact pure _
  · exact (moreDigits (by decide)).bind fun _ => pure _

theorem exponentReader : Local Number.exponentReader :=
  (satisfy (by decide)).bind fun _ => sign.bind fun _ =>
    (digits (by decide)).final.bind fun _ => pure _

theorem fractionReader : Local Number.fractionReader :=
  (satisfy (by decide)).bind fun _ => (digits (by decide)).final.expecting _

theorem pointReader : Local Number.pointReader := by
  intro text more
  unfold Number.pointReader
  extract_lets bare fractional reader
  have tail : Local (bare.orElse fractional) := by
    refine orElse (exponentReader.bind fun _ => pure _) ?_
    exact fractionReader.bind fun _ => exponentReader.optional.bind fun _ => pure _
  have inner : Local reader := wholeReader.bind fun _ => tail.bind fun _ => pure _
  have first := inner text more
  generalize reader text = before at first ⊢
  generalize reader (text ++ '\n' :: more) = after at first ⊢
  cases first with
  | read =>
      dsimp only
      split
      next => exact .refused
      next => exact .read
  | missed => exact .missed
  | refused => exact .refused

theorem namedReader : Local Number.namedReader :=
  sign.bind fun _ => ((literal (by decide)).bind fun _ => pure _).orElse
    ((literal (by decide)).bind fun _ => pure _)

theorem floatReader : Local Number.floatReader :=
  (pointReader.orElse namedReader).labelled _

end Local

/-! ## No dates -/

theorem Reader.exactly_cases (n : Nat) (wanted : Char → Bool) (text : Place) :
    (∃ fault, Reader.exactly n wanted text = .missed fault) ∨
      ∃ front rest, Reader.exactly n wanted text = .read front rest ∧ text = front ++ rest ∧
        front.length = n ∧ ∀ c ∈ front, wanted c = true := by
  simp only [Reader.exactly]
  split
  next all =>
    refine .inr ⟨_, _, rfl, ?_, all, ?_⟩
    · have whole : (text.take n).takeWhile wanted = text.take n :=
        (List.takeWhile_prefix _).eq_of_length_le ((List.length_take_le n text).trans all.ge)
      rw [whole, List.take_append_drop]
    · exact List.all_eq_true.mp List.all_takeWhile
  next => exact .inl ⟨_, rfl⟩

def Undated (text : Place) : Prop :=
  ∀ digits mark after, text = digits ++ mark :: after → digits ≠ [] →
    (∀ d ∈ digits, d.isDigit = true) → mark ≠ '-' ∧ mark ≠ ':'

theorem undated_of_digits {digits : List Char} (all : ∀ d ∈ digits, d.isDigit = true) (rest : Place) :
    Undated (digits ++ '\n' :: rest) := by
  intro front mark after same some frontDigits
  have known : mark = '\n' ∨ mark.isDigit = true := by
    obtain ⟨beyond, rfl, left⟩ | ⟨within, rfl, left⟩ := List.append_eq_append_iff.mp same
    · cases beyond with
      | nil => exact .inl (List.cons.inj left).1.symm
      | cons c beyond =>
          obtain rfl := (List.cons.inj left).1
          exact absurd (frontDigits '\n' (by simp)) (by decide)
    · cases within with
      | nil => exact .inl (List.cons.inj left).1
      | cons c within =>
          obtain rfl := (List.cons.inj left).1
          exact .inr (all mark (by simp))
  constructor <;> rintro rfl <;> exact absurd known (by decide)

namespace Datetime

variable {text : Place}

theorem dateReader_missed (undated : Undated text) : ∃ fault, dateReader text = .missed fault := by
  obtain ⟨fault, missed⟩ | ⟨front, rest, read, rfl, length, digits⟩ :=
    Reader.exactly_cases 4 Char.isDigit text
  · exact ⟨fault, Reader.bind_missed missed _⟩
  · have noDash : rest.head? ≠ some '-' := by
      intro dash
      obtain ⟨after, rfl⟩ := List.head?_eq_some_iff.mp dash
      exact (undated front '-' after rfl (by rintro rfl; cases length) digits).1 rfl
    obtain ⟨fault, missed⟩ := Reader.char_missed noDash
    exact ⟨fault, (Reader.bind_read read _).trans (Reader.bind_missed missed _)⟩

theorem timeReader_missed (undated : Undated text) : ∃ fault, timeReader text = .missed fault := by
  obtain ⟨fault, missed⟩ | ⟨front, rest, read, rfl, length, digits⟩ :=
    Reader.exactly_cases 2 Char.isDigit text
  · exact ⟨fault, Reader.bind_missed (by simp only [twoDigits, Reader.checked, missed]) _⟩
  · have noColon : rest.head? ≠ some ':' := by
      intro colon
      obtain ⟨after, rfl⟩ := List.head?_eq_some_iff.mp colon
      exact (undated front ':' after rfl (by rintro rfl; cases length) digits).2 rfl
    obtain ⟨fault, missed⟩ := Reader.char_missed noColon
    by_cases inRange : 0 ≤ digitsValue front ∧ digitsValue front ≤ 23
    · have hour : twoDigits 0 23 (front ++ rest) = .read (digitsValue front) rest := by
        simp only [twoDigits, Reader.checked, read, if_pos inRange]
      exact ⟨fault, (Reader.bind_read hour _).trans (Reader.bind_missed missed _)⟩
    · have hour : ∃ fault, twoDigits 0 23 (front ++ rest) = .missed fault :=
        ⟨_, by simp only [twoDigits, Reader.checked, read, if_neg inRange]; rfl⟩
      obtain ⟨fault, missed⟩ := hour
      exact ⟨fault, Reader.bind_missed missed _⟩

theorem reader_missed (undated : Undated text) : ∃ fault, reader text = .missed fault := by
  obtain ⟨_, noDate⟩ := dateReader_missed undated
  obtain ⟨_, noTime⟩ := timeReader_missed undated
  obtain ⟨_, first⟩ := Reader.labelled_missed (Reader.bind_missed noDate _) "date-time"
  obtain ⟨_, second⟩ := Reader.labelled_missed (Reader.bind_missed noTime _) "time"
  exact ⟨_, (Reader.orElse_missed first _).trans second⟩

end Datetime

/-! ## Digits -/

namespace Number

variable {digits after : List Char}

/-- What does not go on with a number whose digits came before. -/
def Ends (after : Place) : Prop :=
  ∀ c ∈ after.head?, c.isDigit = false ∧ c ∉ ['_', '.', 'e', 'E', 'x', 'o', 'b']

theorem moreDigits_read (all : ∀ d ∈ digits, d.isDigit = true) (ends : Ends after) :
    moreDigits Char.isDigit (digits ++ after) = .read digits after := by
  induction digits with
  | nil =>
      cases after with
      | nil => rfl
      | cons c after =>
          obtain ⟨noDigit, noMark⟩ := ends c rfl
          rw [List.nil_append, moreDigits, if_neg (by simp [noDigit])]
          rintro rfl
          exact noMark (by decide)
  | cons d digits ih =>
      have digit : d.isDigit = true := all d List.mem_cons_self
      rw [List.cons_append, moreDigits, if_pos digit, ih fun d member => all d (List.mem_cons_of_mem _ member)]
      · rfl
      · rintro rfl
        exact absurd digit (by decide)

theorem sign_none {text : Place} (unsigned : ∀ c ∈ text.head?, c ≠ '+' ∧ c ≠ '-') :
    sign text = .read false text := by
  have noSign : ∀ c ∈ text.head?, (c == '+' || c == '-') = false := by simpa using unsigned
  obtain ⟨_, missed⟩ := Reader.satisfy_missed noSign
  exact Reader.bind_read (Reader.optional_missed missed) _

theorem unsigned_of_isDigit {d : Char} (h : d.isDigit = true) : d ≠ '+' ∧ d ≠ '-' := by
  constructor <;> rintro rfl <;> exact absurd h (by decide)

theorem wholeReader_digits {d : Char} (all : ∀ c ∈ d :: digits, c.isDigit = true) (ends : Ends after) :
    wholeReader (d :: digits ++ after) =
      if d = '0' then .read (false, [d]) (digits ++ after) else .read (false, d :: digits) after := by
  have digit : d.isDigit = true := all d List.mem_cons_self
  have unsigned : sign (d :: digits ++ after) = .read false (d :: digits ++ after) := by
    refine sign_none ?_
    rintro c ⟨⟩
    exact unsigned_of_isDigit digit
  unfold wholeReader
  split
  next zero =>
    refine Reader.labelled_read ?_ _
    rw [Reader.bind_read unsigned, List.cons_append, Reader.bind_read (Reader.satisfy_read digit _),
      if_pos zero]
    rfl
  next other =>
    have rest : moreDigits Char.isDigit (digits ++ after) = .read digits after :=
      moreDigits_read (fun c member => all c (List.mem_cons_of_mem _ member)) ends
    refine Reader.labelled_read ?_ _
    rw [Reader.bind_read unsigned, List.cons_append, Reader.bind_read (Reader.satisfy_read digit _),
      if_neg other, Reader.bind_read rest]
    rfl

theorem pointReader_missed {text left : Place} {whole : Bool × List Char}
    (read : wholeReader text = .read whole left) (ends : ∀ c ∈ left.head?, c ∉ ['.', 'e', 'E']) :
    ∃ fault, pointReader text = .missed fault := by
  have noExponent : ∃ fault, exponentReader left = .missed fault := by
    have none : ∀ c ∈ left.head?, (c == 'e' || c == 'E') = false := by
      intro c here
      have := ends c here
      simp_all
    obtain ⟨_, missed⟩ := Reader.satisfy_missed none
    exact ⟨_, Reader.bind_missed missed _⟩
  have noPoint : ∃ fault, fractionReader left = .missed fault := by
    have none : left.head? ≠ some '.' := fun here => ends '.' here (by decide)
    obtain ⟨_, missed⟩ := Reader.char_missed none
    exact ⟨_, Reader.bind_missed missed _⟩
  obtain ⟨_, noExponent⟩ := noExponent
  obtain ⟨_, noPoint⟩ := noPoint
  unfold pointReader
  extract_lets bare fractional reader
  have missed : (bare.orElse fractional) left = .missed _ :=
    (Reader.orElse_missed (Reader.bind_missed noExponent _) _).trans (Reader.bind_missed noPoint _)
  have none : reader text = .missed _ :=
    (Reader.bind_read read _).trans (Reader.bind_missed missed _)
  rw [none]
  exact ⟨_, rfl⟩

theorem pointReader_unstarted {text : Place} {fault : Fault} (missed : wholeReader text = .missed fault) :
    ∃ fault, pointReader text = .missed fault := by
  unfold pointReader
  extract_lets bare fractional reader
  have none : reader text = .missed fault := Reader.bind_missed missed _
  rw [none]
  exact ⟨_, rfl⟩

/-- Without a sign, a name is all that can be there. -/
theorem namedReader_unsigned {text : Place} (unsigned : ∀ c ∈ text.head?, c ≠ '+' ∧ c ≠ '-') :
    namedReader text = (((Reader.literal "inf" >>= fun _ => pure (.infinity false)).orElse
      (Reader.literal "nan" >>= fun _ => pure .nan)) : Reader Binary64) text :=
  Reader.bind_read (sign_none unsigned) _

theorem floatReader_digits {d : Char} (all : ∀ c ∈ d :: digits, c.isDigit = true) (ends : Ends after) :
    ∃ fault, floatReader (d :: digits ++ after) = .missed fault := by
  have digit : d.isDigit = true := all d List.mem_cons_self
  have noPoint : ∃ fault, pointReader (d :: digits ++ after) = .missed fault := by
    have whole := wholeReader_digits all ends
    split at whole
    next =>
      refine pointReader_missed whole fun c here => ?_
      rw [List.head?_append, Option.mem_def, Option.or_eq_some_iff] at here
      obtain here | ⟨-, here⟩ := here
      · have digit := all c (List.mem_cons_of_mem _ (List.mem_of_head? here))
        intro mark
        have noMark : ∀ c ∈ ['.', 'e', 'E'], c.isDigit = false := by simp
        exact absurd digit (by simp [noMark c mark])
      · have := (ends c here).2
        grind
    next =>
      refine pointReader_missed whole fun c here => ?_
      have := (ends c here).2
      grind
  have noName : ∃ fault, namedReader (d :: digits ++ after) = .missed fault := by
    have noLiteral : ∀ c name, d ≠ c → ¬ c :: name <+: d :: digits ++ after := by
      rintro c name other ⟨more, same⟩
      exact other (List.cons.inj same).1.symm
    obtain ⟨_, noInfinity⟩ := Reader.literal_missed (s := "inf")
      (noLiteral 'i' ['n', 'f'] (by rintro rfl; exact absurd digit (by decide)))
    obtain ⟨_, noNan⟩ := Reader.literal_missed (s := "nan")
      (noLiteral 'n' ['a', 'n'] (by rintro rfl; exact absurd digit (by decide)))
    rw [namedReader_unsigned (by rintro c ⟨⟩; exact unsigned_of_isDigit digit)]
    exact ⟨_, (Reader.orElse_missed (Reader.bind_missed noInfinity _) _).trans
      (Reader.bind_missed noNan _)⟩
  obtain ⟨_, noPoint⟩ := noPoint
  obtain ⟨_, noName⟩ := noName
  exact Reader.labelled_missed ((Reader.orElse_missed noPoint _).trans noName) _

theorem undated_of_floatReader {text left : Place} {x : Binary64} (read : floatReader text = .read x left) :
    Undated text := by
  rintro (_ | ⟨d, digits⟩) mark after rfl some all
  · exact absurd rfl some
  · -- Digits alone are no float, so the mark must have gone on with the number.
    have noEnd : ¬ Ends (mark :: after) := by
      intro ends
      obtain ⟨fault, missed⟩ := floatReader_digits all ends
      cases missed.symm.trans read
    constructor <;> rintro rfl <;> exact noEnd (by rintro c ⟨⟩; decide)

/-! ## Natural numbers -/

theorem toDigits_head_ne_zero {n : Nat} (pos : 0 < n) : (Nat.toDigits 10 n).head? ≠ some '0' := by
  induction n using Nat.strongRecOn with
  | ind n ih =>
    by_cases small : n < 10
    · have noZero : ∀ n < 10, 0 < n → [n.digitChar].head? ≠ some '0' := by decide
      rw [Nat.toDigits_of_lt_base small]
      exact noZero n small pos
    · have shorter := ih (n / 10) (by omega) (by omega)
      rw [Nat.toDigits_of_base_le (by decide) (by omega), List.head?_append_of_ne_nil _ Nat.toDigits_ne_nil]
      exact shorter

theorem wholeReader_natural (n : Nat) (ends : Ends after) :
    wholeReader (Nat.toDigits 10 n ++ after) = .read (false, Nat.toDigits 10 n) after := by
  have all : ∀ d ∈ Nat.toDigits 10 n, d.isDigit = true := fun d member =>
    Nat.isDigit_of_mem_toDigits (by decide) (by decide) member
  obtain rfl | pos := n.eq_zero_or_pos
  · rw [Nat.toDigits_zero]
    exact (wholeReader_digits (by simp) ends : wholeReader ('0' :: [] ++ after) = _)
  · have head := toDigits_head_ne_zero pos
    obtain ⟨d, digits, spelled⟩ := List.exists_cons_of_ne_nil (Nat.toDigits_ne_nil (n := n) (b := 10))
    rw [spelled] at all head ⊢
    rw [wholeReader_digits all ends, if_neg (by simpa using head)]

theorem valueIn_toDigits (n : Nat) : valueIn 10 (Nat.toDigits 10 n) = n := by
  have all : ∀ d ∈ Nat.toDigits 10 n, digitValue d = d.toNat - '0'.toNat := fun d member =>
    if_pos (Nat.isDigit_of_mem_toDigits (by decide) (by decide) member)
  have same : valueIn 10 (Nat.toDigits 10 n) = Nat.ofDigitChars 10 (Nat.toDigits 10 n) 0 :=
    List.foldl_ext _ _ _ fun value d member => by rw [all d member]
  rw [same, Nat.ofDigitChars_ten_toDigits]

theorem integerReader_natural {n : Nat} (small : n < 0x8000000000000000) (ends : Ends after) :
    integerReader (Nat.toDigits 10 n ++ after) = .read n after := by
  have decimal : decimalReader (Nat.toDigits 10 n ++ after) = .read n after := by
    simp only [decimalReader, wholeReader_natural n ends, valueIn_toDigits, checkRange, if_pos small]
    rfl
  have noBase : ∀ mark rest, Nat.toDigits 10 n ++ after = '0' :: mark :: rest →
      mark ∉ ['x', 'o', 'b'] := by
    intro mark rest same
    obtain rfl | pos := n.eq_zero_or_pos
    · rw [Nat.toDigits_zero] at same
      obtain rfl := (List.cons.inj same).2
      have := (ends mark rfl).2
      grind
    · have head := toDigits_head_ne_zero pos
      rw [← List.head?_append_of_ne_nil _ Nat.toDigits_ne_nil, same] at head
      exact absurd rfl head
  unfold integerReader
  split
  next rest same => exact absurd (by decide) (noBase _ _ same)
  next rest same => exact absurd (by decide) (noBase _ _ same)
  next rest same => exact absurd (by decide) (noBase _ _ same)
  next => exact decimal

end Number

end TerminalAgent.Toml
