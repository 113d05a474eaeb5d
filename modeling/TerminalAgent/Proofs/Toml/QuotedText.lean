import Mathlib.Data.List.Infix
import TerminalAgent.Proofs.Toml.Readers
import TerminalAgent.Toml.Value

/-! # Quoted text reads back

Whichever of its forms a text is written in, the reader of quoted text gives it back and stops behind
it. Between double quotes each character is spelled so that one step of the reader takes it; between
single quotes no run of quotes is long enough to end the text early.
-/

namespace TerminalAgent.Toml

/-! ## Characters between double quotes -/

/-- A character where no double quote may stand for itself. -/
def spelled (lines : Bool) (c : Char) : List Char :=
  if c = '"' then ['\\', '"']
  else if c = '\n' && lines then [c]
  else (escapeOf? c).getD [c]

theorem escaped_quote {quotes run : Nat} (room : run < quotes) (lines : Bool) (rest : List Char) :
    escaped quotes lines run ('"' :: rest) = '"' :: escaped quotes lines (run + 1) rest := by
  rw [escaped, if_pos rfl, if_pos room]

theorem escaped_spelled {quotes run : Nat} {c : Char} (noRoom : c = '"' → quotes ≤ run) (lines : Bool)
    (rest : List Char) :
    escaped quotes lines run (c :: rest) = spelled lines c ++ escaped quotes lines 0 rest := by
  rw [escaped, spelled]
  split
  next quote => rw [if_neg (Nat.not_lt.mpr (noRoom quote))]; rfl
  next =>
    split
    next => rfl
    next => cases escapeOf? c <;> rfl

/-- What follows the backslash of an escape for this character. -/
structure Names (letters : List Char) (c : Char) : Prop where
  read : ∀ rest, Quoted.escape (letters ++ rest) = .read c rest
  noFold : ∀ rest, Quoted.endsLine (letters ++ rest) = false

/-- The digits that a control character is named by. -/
theorem hexDigits_value : ∀ n < 0x80,
    let digit (n : Nat) : Char := Char.ofNat (if n < 10 then '0'.toNat + n else 'A'.toNat + (n - 10))
    let digits := ['0', '0', digit (n / 16), digit (n % 16)]
    digits.all Quoted.isHexDigit = true ∧
      digits.foldl (fun v c => 16 * v + Quoted.hexValue c) 0 = n := by
  decide

theorem codePoint_read {digits : List Char} {c : Char} (four : digits.length = 4)
    (hex : digits.all Quoted.isHexDigit = true)
    (value : digits.foldl (fun v c => 16 * v + Quoted.hexValue c) 0 = c.toNat) (rest : Place) :
    Quoted.codePoint 4 (digits ++ rest) = .read c rest := by
  have front : (digits ++ rest).take 4 = digits := by rw [← four, List.take_left]
  have back : (digits ++ rest).drop 4 = rest := by rw [← four, List.drop_left]
  simp only [Quoted.codePoint, front, back, value, Char.ofNat_toNat]
  rw [if_pos ⟨four, hex, c.valid⟩]

theorem escapeOf?_some {c : Char} {text : List Char} (h : escapeOf? c = some text) :
    ∃ letters, text = '\\' :: letters ∧ Names letters c := by
  unfold escapeOf? at h
  iterate 6
    split at h
    next same => subst same; cases h; exact ⟨_, rfl, fun _ => rfl, fun _ => rfl⟩
  split at h
  next control =>
    cases h
    have small : c.toNat < 0x80 := by
      simp only [isControl, Bool.or_eq_true, Bool.and_eq_true, decide_eq_true_eq] at control
      omega
    obtain ⟨hex, value⟩ := hexDigits_value c.toNat small
    refine ⟨_, rfl, fun rest => ?_, fun _ => rfl⟩
    have named := codePoint_read rfl hex value rest
    simp only [List.cons_append, List.nil_append, Quoted.escape, Reader.labelled] at named ⊢
    rw [named]
    rfl
  next => cases h

theorem isBasicChar_of_escapeOf? {c : Char} (plain : escapeOf? c = none) (noQuote : c ≠ '"') :
    Quoted.isBasicChar c = true := by
  unfold escapeOf? at plain
  iterate 5
    split at plain
    next => cases plain
  split at plain
  next => cases plain
  next noBackslash =>
    split at plain
    next => cases plain
    next harmless =>
      simp only [isControl, Bool.or_eq_true, Bool.and_eq_true, decide_eq_true_eq, not_or, not_and]
        at harmless
      simp only [Quoted.isBasicChar, Bool.and_eq_true, Bool.or_eq_true, decide_eq_true_eq]
      refine ⟨⟨⟨?_, noQuote⟩, noBackslash⟩, harmless.2⟩
      by_cases tab : c = '\t'
      · exact .inl tab
      · have high := harmless.1
        right
        by_contra low
        exact high (by omega) tab

/-- One step of a reader takes the spelling of a character: it stands for itself or is an escape. -/
theorem spelled_cases (lines : Bool) (c : Char) :
    (spelled lines c = [c] ∧ (Quoted.isBasicChar c = true ∨ c = '\n' ∧ lines = true)) ∨
      ∃ letters, spelled lines c = '\\' :: letters ∧ Names letters c := by
  unfold spelled
  split
  next quote =>
    subst quote
    exact .inr ⟨['"'], rfl, fun _ => rfl, fun _ => rfl⟩
  next noQuote =>
    split
    next lineEnd =>
      simp only [Bool.and_eq_true, decide_eq_true_eq] at lineEnd
      exact .inl ⟨rfl, .inr lineEnd⟩
    next =>
      cases escape : escapeOf? c with
      | none => exact .inl ⟨rfl, .inl (isBasicChar_of_escapeOf? escape noQuote)⟩
      | some text => exact .inr (escapeOf?_some escape)

theorem head?_spelled (lines : Bool) (c : Char) (rest : List Char) :
    (spelled lines c ++ rest).head? ≠ some '"' := by
  obtain ⟨alone, basic | ⟨rfl, -⟩⟩ | ⟨letters, escape, -⟩ := spelled_cases lines c
  · rw [alone]
    rintro ⟨⟩
    exact absurd basic (by decide)
  · rw [alone]
    exact (by decide : some '\n' ≠ some '"')
  · rw [escape]
    exact (by decide : some '\\' ≠ some '"')

/-! ## On one line -/

namespace Quoted

theorem basicFrom_spelled (fuel : Nat) (c : Char) (rest : List Char) :
    basicFrom (fuel + 1) (spelled false c ++ rest) = (basicFrom fuel rest).map (c :: ·) := by
  obtain ⟨alone, basic | ⟨-, ⟨⟩⟩⟩ | ⟨letters, escape, named⟩ := spelled_cases false c
  · have noQuote : c ≠ '"' := by rintro rfl; exact absurd basic (by decide)
    have noBackslash : c ≠ '\\' := by rintro rfl; exact absurd basic (by decide)
    rw [alone, List.singleton_append, basicFrom]
    · rw [if_pos basic]
    · exact noQuote
    · exact noBackslash
  · rw [escape, List.cons_append]
    simp only [basicFrom, named.read]

theorem basicFrom_escaped (chars : List Char) {fuel : Nat} (enough : chars.length < fuel)
    (rest : List Char) :
    basicFrom fuel (escaped 0 false 0 chars ++ '"' :: rest) = .read chars rest := by
  induction chars generalizing fuel with
  | nil =>
      obtain ⟨fuel, rfl⟩ := Nat.exists_eq_add_one_of_ne_zero (Nat.ne_of_gt enough)
      rfl
  | cons c chars ih =>
      obtain ⟨fuel, rfl⟩ := Nat.exists_eq_add_one_of_ne_zero (Nat.ne_of_gt (Nat.zero_lt_of_lt enough))
      rw [escaped_spelled (fun _ => Nat.le_refl 0), List.append_assoc, basicFrom_spelled,
        ih (by simpa using enough)]
      rfl

/-! ## On several lines -/

theorem piece_spelled (c : Char) (rest : List Char) :
    piece (spelled true c ++ rest) = .read [c] rest := by
  obtain ⟨alone, basic | ⟨rfl, -⟩⟩ | ⟨letters, escape, named⟩ := spelled_cases true c
  · have noBackslash : c ≠ '\\' := by rintro rfl; exact absurd basic (by decide)
    have noLine : c ≠ '\n' := by rintro rfl; exact absurd basic (by decide)
    have noReturn : c ≠ '\r' := by rintro rfl; exact absurd basic (by decide)
    rw [alone, List.singleton_append, piece]
    · rw [if_pos basic]
    · exact noBackslash
    · exact noLine
    · intro _ same
      exact absurd same noReturn
  · rw [alone]
    rfl
  · rw [escape, List.cons_append]
    simp only [piece, named.noFold, named.read]
    rfl

theorem multilineBasicFrom_piece {text rest : Place} {chars : List Char}
    (noQuote : text.head? ≠ some '"') (read : piece text = .read chars rest) (fuel : Nat) :
    multilineBasicFrom (fuel + 1) text = (multilineBasicFrom fuel rest).map (chars ++ ·) := by
  have differs (more : Place) : text ≠ '"' :: more := by
    rintro rfl
    exact noQuote rfl
  rw [multilineBasicFrom]
  · rw [read]
  all_goals
    intros
    exact differs _ ‹_›

/-- One or two quotes belong to the text if something else follows. -/
theorem multilineBasicFrom_quote {text rest : Place} {chars : List Char}
    (next : text.head? ≠ some '"') (read : piece text = .read chars rest) (fuel : Nat) :
    multilineBasicFrom (fuel + 1) ('"' :: text) =
        (multilineBasicFrom fuel text).map ('"' :: ·) ∧
      multilineBasicFrom (fuel + 1) ('"' :: '"' :: text) =
        (multilineBasicFrom fuel ('"' :: text)).map ('"' :: ·) := by
  have differs (more : Place) : text ≠ '"' :: more := by
    rintro rfl
    exact next rfl
  have after : afterQuotes ('"' :: text) = text := by
    rw [afterQuotes]
    exact differs
  constructor
  · rw [multilineBasicFrom, after, read]
    all_goals
      intros
      exact differs _ ‹_›
  · rw [multilineBasicFrom, afterQuotes, read]
    all_goals
      intro more same
      exact differs _ (List.cons.inj same).2

theorem piece_escaped {run : Nat} {c : Char} (noRoom : c = '"' → 2 ≤ run) (chars : List Char)
    (rest : Place) :
    (escaped 2 true run (c :: chars) ++ rest).head? ≠ some '"' ∧
      ∃ more, piece (escaped 2 true run (c :: chars) ++ rest) = .read [c] more := by
  rw [escaped_spelled noRoom, List.append_assoc]
  exact ⟨head?_spelled true c _, _, piece_spelled c _⟩

section
variable {tail : Place} (noQuote : tail.head? ≠ some '"')
include noQuote

/-- The closing quotes, with up to two of the text before them. -/
theorem multilineBasicFrom_close (fuel : Nat) {n : Nat} (few : n ≤ 2) :
    multilineBasicFrom (fuel + 1) (List.replicate n '"' ++ '"' :: '"' :: '"' :: tail) =
      .read (List.replicate n '"') tail := by
  have differs (more : Place) : tail ≠ '"' :: more := by
    rintro rfl
    exact noQuote rfl
  obtain rfl | rfl | rfl : n = 0 ∨ n = 1 ∨ n = 2 := by omega
  · simp only [List.replicate, List.nil_append]
    rw [multilineBasicFrom]
    · exact fun more => differs _
    · exact differs
  · simp only [List.replicate, List.cons_append, List.nil_append]
    rw [multilineBasicFrom]
    exact differs
  · rfl

theorem multilineBasicFrom_escaped (chars : List Char) {run fuel : Nat} (few : run ≤ 2)
    (enough : chars.length < fuel) :
    multilineBasicFrom fuel (escaped 2 true run chars ++ '"' :: '"' :: '"' :: tail) =
      .read chars tail := by
  induction chars generalizing run fuel with
  | nil =>
      obtain ⟨fuel, rfl⟩ := Nat.exists_eq_add_one_of_ne_zero (Nat.ne_of_gt enough)
      exact multilineBasicFrom_close noQuote fuel (Nat.zero_le 2)
  | cons c chars ih =>
      obtain ⟨fuel, rfl⟩ := Nat.exists_eq_add_one_of_ne_zero (Nat.ne_of_gt (Nat.zero_lt_of_lt enough))
      replace enough : chars.length < fuel := by simpa using enough
      -- At most two quotes stand for themselves in a row: the reader looks past both of them at once.
      by_cases own : c = '"' ∧ run < 2
      · obtain ⟨rfl, room⟩ := own
        rw [escaped_quote room]
        cases chars with
        | nil => exact multilineBasicFrom_close noQuote fuel (by decide : 1 ≤ 2)
        | cons d chars =>
            have later := @ih (run + 1) fuel room enough
            by_cases second : d = '"' ∧ run + 1 < 2
            · obtain ⟨rfl, room'⟩ := second
              rw [escaped_quote room'] at later ⊢
              cases chars with
              | nil => exact multilineBasicFrom_close noQuote fuel (by decide : 2 ≤ 2)
              | cons e chars =>
                  obtain ⟨next, rest, here⟩ := piece_escaped (fun _ : e = '"' => (by omega : 2 ≤ run + 1 + 1))
                    chars ('"' :: '"' :: '"' :: tail)
                  rw [List.cons_append] at later
                  rw [List.cons_append, List.cons_append, (multilineBasicFrom_quote next here fuel).2, later]
                  rfl
            · have noRoom : d = '"' → 2 ≤ run + 1 := fun quote =>
                Nat.not_lt.mp fun room' => second ⟨quote, room'⟩
              obtain ⟨next, rest, here⟩ := piece_escaped noRoom chars ('"' :: '"' :: '"' :: tail)
              rw [List.cons_append, (multilineBasicFrom_quote next here fuel).1, later]
              rfl
      · have noRoom : c = '"' → 2 ≤ run := fun quote => Nat.not_lt.mp fun room => own ⟨quote, room⟩
        rw [escaped_spelled noRoom, List.append_assoc,
          multilineBasicFrom_piece (head?_spelled true c _) (piece_spelled c _),
          ih (Nat.zero_le 2) enough]
        rfl

end

/-! ## Between single quotes -/

/-- A character that runs on between three single quotes. -/
def RunsOn (c : Char) : Prop := c = '\n' ∨ isLiteralChar c = true

theorem RunsOn.noQuote {c : Char} (h : RunsOn c) : c ≠ '\'' := by
  rintro rfl
  exact absurd h (by unfold RunsOn; decide)

theorem RunsOn.noReturn {c : Char} (h : RunsOn c) : c ≠ '\r' := by
  rintro rfl
  exact absurd h (by unfold RunsOn; decide)

theorem multilineLiteralBody_char {c : Char} (h : RunsOn c) (rest : Place) :
    multilineLiteralBody (c :: rest) = (multilineLiteralBody rest).map (c :: ·) := by
  obtain rfl | literal := h
  · rw [multilineLiteralBody]
  · have noLine : c ≠ '\n' := by rintro rfl; exact absurd literal (by decide)
    rw [multilineLiteralBody]
    · rw [if_pos literal]
    · exact RunsOn.noQuote (.inr literal)
    · exact noLine
    · exact RunsOn.noReturn (.inr literal)

theorem multilineLiteralBody_quote {c : Char} (h : RunsOn c) (rest : Place) :
    multilineLiteralBody ('\'' :: c :: rest) =
        (multilineLiteralBody (c :: rest)).map ('\'' :: ·) ∧
      multilineLiteralBody ('\'' :: '\'' :: c :: rest) =
        (multilineLiteralBody ('\'' :: c :: rest)).map ('\'' :: ·) := by
  have noQuote := h.noQuote
  have head : (c :: rest).head? ≠ some '\'' := fun same => noQuote (Option.some.inj same)
  constructor
  · rw [multilineLiteralBody, if_neg head]
    · obtain rfl | literal := h
      · rfl
      · apply if_pos
        split
        next => rfl
        next => rfl
        next same => exact (List.cons.inj same).1 ▸ literal
        next same => cases same
    all_goals
      rintro more ⟨⟩
      exact noQuote rfl
  · rw [multilineLiteralBody]
    · obtain rfl | literal := h
      · rfl
      · apply if_pos
        simp only [List.head?_cons, if_true, List.drop_succ_cons, List.drop_zero]
        split
        next => rfl
        next => rfl
        next same => exact (List.cons.inj same).1 ▸ literal
        next same => cases same
    all_goals
      rintro more ⟨⟩
      exact noQuote rfl

/-- The closing quotes, with up to two of the text before them. -/
theorem multilineLiteralBody_close {tail : Place} (noQuote : tail.head? ≠ some '\'') {n : Nat}
    (few : n ≤ 2) :
    multilineLiteralBody (List.replicate n '\'' ++ '\'' :: '\'' :: '\'' :: tail) =
      .read (List.replicate n '\'') tail := by
  have differs (more : Place) : tail ≠ '\'' :: more := by
    rintro rfl
    exact noQuote rfl
  obtain rfl | rfl | rfl : n = 0 ∨ n = 1 ∨ n = 2 := by omega
  · simp only [List.replicate, List.nil_append]
    rw [multilineLiteralBody]
    · exact fun more => differs _
    · exact fun more => differs _
  · simp only [List.replicate, List.cons_append, List.nil_append]
    rw [multilineLiteralBody]
    exact fun more => differs _
  · rfl

theorem multilineLiteralBody_append {tail : Place} (noQuote : tail.head? ≠ some '\'')
    {chars : List Char} (allowed : ∀ c ∈ chars, c = '\'' ∨ RunsOn c)
    (few : ¬ ['\'', '\'', '\''] <:+: chars) :
    multilineLiteralBody (chars ++ '\'' :: '\'' :: '\'' :: tail) = .read chars tail := by
  induction chars with
  | nil => exact multilineLiteralBody_close noQuote (Nat.zero_le 2)
  | cons c chars ih =>
      have later := ih (fun c member => allowed c (List.mem_cons_of_mem _ member))
        (fun three => few (three.trans (List.suffix_cons c chars).isInfix))
      obtain rfl | runsOn := allowed c List.mem_cons_self
      · cases chars with
        | nil => exact multilineLiteralBody_close noQuote (by decide : 1 ≤ 2)
        | cons d chars =>
            obtain rfl | runsOn := allowed d (by simp)
            · cases chars with
              | nil => exact multilineLiteralBody_close noQuote (by decide : 2 ≤ 2)
              | cons e chars =>
                  obtain rfl | runsOn := allowed e (by simp)
                  · exact absurd (List.prefix_append ['\'', '\'', '\''] chars).isInfix few
                  · rw [List.cons_append, List.cons_append] at later
                    rw [List.cons_append, List.cons_append, List.cons_append,
                      (multilineLiteralBody_quote runsOn _).2, later]
                    rfl
            · rw [List.cons_append] at later
              rw [List.cons_append, List.cons_append, (multilineLiteralBody_quote runsOn _).1, later]
              rfl
      · rw [List.cons_append, multilineLiteralBody_char runsOn, later]
        rfl

end Quoted

/-! ## Runs of quotes -/

section
variable (wanted : Char)

def countRun (counts : Nat × Nat) (c : Char) : Nat × Nat :=
  if c = wanted then (max counts.1 (counts.2 + 1), counts.2 + 1) else (counts.1, 0)

theorem longestRun_eq (chars : List Char) :
    longestRun wanted chars = (chars.foldl (countRun wanted) (0, 0)).1 := rfl

theorem le_foldl_countRun (chars : List Char) (counts : Nat × Nat) :
    counts.1 ≤ (chars.foldl (countRun wanted) counts).1 := by
  induction chars generalizing counts with
  | nil => exact Nat.le_refl _
  | cons c chars ih =>
      refine Nat.le_trans ?_ (ih _)
      unfold countRun
      split
      next => exact Nat.le_max_left ..
      next => exact Nat.le_refl _

theorem foldl_countRun_replicate (n : Nat) (counts : Nat × Nat) :
    counts.2 + n ≤ max ((List.replicate n wanted).foldl (countRun wanted) counts).1 counts.2 := by
  induction n generalizing counts with
  | zero => exact Nat.le_max_right ..
  | succ n ih =>
      have step : countRun wanted counts wanted = (max counts.1 (counts.2 + 1), counts.2 + 1) :=
        if_pos rfl
      have rest := ih (countRun wanted counts wanted)
      have grown := le_foldl_countRun wanted (List.replicate n wanted) (countRun wanted counts wanted)
      rw [List.replicate_succ, List.foldl_cons]
      rw [step] at rest grown ⊢
      simp only at rest grown
      omega

/-- Each run of a character is as long as the longest one at most. -/
theorem le_longestRun {n : Nat} {chars : List Char} (run : List.replicate n wanted <:+: chars) :
    n ≤ longestRun wanted chars := by
  obtain ⟨before, after, rfl⟩ := run
  rw [longestRun_eq, List.foldl_append, List.foldl_append]
  refine Nat.le_trans ?_ (le_foldl_countRun wanted after _)
  have counted := foldl_countRun_replicate wanted n (before.foldl (countRun wanted) (0, 0))
  omega

theorem not_mem_of_longestRun {chars : List Char} (none : longestRun wanted chars = 0) :
    wanted ∉ chars := by
  intro member
  obtain ⟨before, after, rfl⟩ := List.append_of_mem member
  have one : List.replicate 1 wanted <:+: before ++ wanted :: after := ⟨before, after, by simp⟩
  have := le_longestRun wanted one
  omega

end

/-! ## Written forms -/

theorem length_le_escaped (quotes : Nat) (lines : Bool) (chars : List Char) (run : Nat) :
    chars.length ≤ (escaped quotes lines run chars).length := by
  induction chars generalizing run with
  | nil => exact Nat.le_refl 0
  | cons c chars ih =>
      by_cases own : c = '"' ∧ run < quotes
      · obtain ⟨rfl, room⟩ := own
        rw [escaped_quote room]
        exact Nat.succ_le_succ (ih _)
      · have noRoom : c = '"' → quotes ≤ run := fun quote => Nat.not_lt.mp fun room => own ⟨quote, room⟩
        have one : 1 ≤ (spelled lines c).length := by
          obtain ⟨alone, -⟩ | ⟨letters, escape, -⟩ := spelled_cases lines c
          · rw [alone]; exact Nat.le_refl 1
          · rw [escape]; exact Nat.le_add_left 1 _
        have more := ih 0
        rw [escaped_spelled noRoom, List.length_append, List.length_cons]
        omega

namespace Quoted

variable {chars : List Char} {rest : Place}

theorem basic_read (chars : List Char) (rest : Place) :
    basic (writeBasic chars ++ rest) = .read (String.ofList chars) rest := by
  have enough := length_le_escaped 0 false chars 0
  have inside : basicFrom ((escaped 0 false 0 chars ++ '"' :: rest).length + 1)
      (escaped 0 false 0 chars ++ '"' :: rest) = .read chars rest := by
    refine basicFrom_escaped chars ?_ rest
    rw [List.length_append]
    omega
  simp only [writeBasic, List.cons_append, List.append_assoc, List.nil_append]
  simp only [basic, bind, Reader.char_read, inside]
  rfl

theorem basic_missed (h : rest.head? ≠ some '"') : ∃ fault, basic rest = .missed fault := by
  obtain ⟨fault, missed⟩ := Reader.char_missed h
  exact ⟨fault, Reader.bind_missed missed _⟩

theorem literal_read (allowed : ∀ c ∈ chars, isLiteralChar c = true) (rest : Place) :
    literal (writeLiteral chars ++ rest) = .read (String.ofList chars) rest := by
  have ends : ∀ c ∈ ('\'' :: rest).head?, isLiteralChar c = false := by rintro c ⟨⟩; decide
  obtain ⟨front, back⟩ := takeWhile_append_of_head allowed ends
  simp only [writeLiteral, List.cons_append, List.append_assoc, List.nil_append]
  refine Reader.labelled_read ?_ _
  simp only [bind, Reader.char_read, front, back, Reader.final_read (Reader.char_read '\'' rest)]
  rfl

theorem skipFirstNewline_leadIn {body : Place}
    (plain : '\n' ∉ chars → body.head? ≠ some '\n' ∧ body.head? ≠ some '\r') :
    skipFirstNewline (leadIn chars ++ body) = body := by
  unfold leadIn
  split
  next => rfl
  next noLine =>
    obtain ⟨line, return_⟩ := plain (by simpa using noLine)
    rw [List.nil_append, skipFirstNewline]
    · rintro more rfl
      exact line rfl
    · rintro more rfl
      exact return_ rfl

theorem head?_escaped (noLine : '\n' ∉ chars) (body : Place) :
    (escaped 2 true 0 chars ++ '"' :: body).head? ≠ some '\n' ∧
      (escaped 2 true 0 chars ++ '"' :: body).head? ≠ some '\r' := by
  cases chars with
  | nil => simp [escaped]
  | cons c chars =>
      by_cases quote : c = '"'
      · subst quote
        simp [escaped_quote]
      · rw [escaped_spelled fun same => absurd same quote]
        obtain ⟨alone, basic | ⟨rfl, -⟩⟩ | ⟨letters, escape, -⟩ := spelled_cases true c
        · rw [alone]
          constructor
          all_goals
            rintro ⟨⟩
            exact absurd basic (by decide)
        · exact absurd List.mem_cons_self noLine
        · simp [escape]

theorem multilineBasic_read (chars : List Char) (noQuote : rest.head? ≠ some '"') :
    multilineBasic (writeMultilineBasic chars ++ rest) = .read (String.ofList chars) rest := by
  let body : Place := escaped 2 true 0 chars ++ '"' :: '"' :: '"' :: rest
  have enough : chars.length < body.length + 1 := by
    have := length_le_escaped 2 true chars 0
    rw [List.length_append]
    omega
  have opened : Reader.literal "\"\"\"" (writeMultilineBasic chars ++ rest) =
      .read () (leadIn chars ++ body) := by
    simp only [writeMultilineBasic, List.append_assoc]
    exact Reader.literal_read "\"\"\"" _
  have skipped : skipFirstNewline (leadIn chars ++ body) = body :=
    skipFirstNewline_leadIn fun noLine => head?_escaped noLine ('"' :: '"' :: rest)
  have inside := multilineBasicFrom_escaped noQuote chars (Nat.zero_le 2) enough
  refine Reader.labelled_read ?_ _
  simp only [bind, opened, skipped, body, inside]
  rfl

theorem multilineBasic_missed (h : ¬ ['"', '"', '"'] <+: rest) :
    ∃ fault, multilineBasic rest = .missed fault := by
  obtain ⟨fault, missed⟩ := Reader.literal_missed (s := "\"\"\"") h
  exact Reader.labelled_missed (Reader.bind_missed missed _) _

theorem multilineLiteral_read (allowed : ∀ c ∈ chars, c = '\'' ∨ RunsOn c)
    (few : ¬ ['\'', '\'', '\''] <:+: chars) (noQuote : rest.head? ≠ some '\'') :
    multilineLiteral (writeMultilineLiteral chars ++ rest) = .read (String.ofList chars) rest := by
  let body : Place := chars ++ '\'' :: '\'' :: '\'' :: rest
  have opened : Reader.literal "'''" (writeMultilineLiteral chars ++ rest) =
      .read () (leadIn chars ++ body) := by
    simp only [writeMultilineLiteral, List.append_assoc]
    exact Reader.literal_read "'''" _
  have skipped : skipFirstNewline (leadIn chars ++ body) = body := by
    refine skipFirstNewline_leadIn fun noLine => ?_
    cases chars with
    | nil => simp [body]
    | cons c chars =>
        have first := allowed c List.mem_cons_self
        constructor
        · rintro ⟨⟩
          exact noLine List.mem_cons_self
        · rintro ⟨⟩
          exact absurd first (by unfold RunsOn; decide)
  have inside := multilineLiteralBody_append noQuote allowed few
  refine Reader.labelled_read ?_ _
  simp only [bind, opened, skipped, body, inside]
  rfl

theorem multilineLiteral_missed (h : ¬ ['\'', '\'', '\''] <+: rest) :
    ∃ fault, multilineLiteral rest = .missed fault := by
  obtain ⟨fault, missed⟩ := Reader.literal_missed (s := "'''") h
  exact Reader.labelled_missed (Reader.bind_missed missed _) _

/-! ## Any text -/

theorem reader_basic (noQuote : rest.head? ≠ some '"') (chars : List Char) :
    reader (writeBasic chars ++ rest) = .read (String.ofList chars) rest := by
  have single : ¬ ['"', '"', '"'] <+: writeBasic chars ++ rest := by
    rintro ⟨more, three⟩
    cases chars with
    | nil =>
        have after : '"' :: more = rest := (List.cons.inj (List.cons.inj three).2).2
        exact noQuote (after ▸ rfl)
    | cons c chars =>
        have head := head?_spelled false c (escaped 0 false 0 chars ++ ['"'] ++ rest)
        simp only [writeBasic, escaped_spelled fun _ => Nat.le_refl 0, List.cons_append,
          List.append_assoc, List.nil_append] at three head
        rw [← (List.cons.inj three).2] at head
        exact head rfl
  obtain ⟨fault, missed⟩ := multilineBasic_missed single
  rw [reader, Reader.orElse_missed missed, Reader.orElse_read (basic_read chars rest)]

theorem reader_multilineBasic (noQuote : rest.head? ≠ some '"') (chars : List Char) :
    reader (writeMultilineBasic chars ++ rest) = .read (String.ofList chars) rest :=
  Reader.orElse_read (multilineBasic_read chars noQuote) _

theorem reader_single (text : Place) :
    reader ('\'' :: text) = (multilineLiteral.orElse literal) ('\'' :: text) := by
  have three : ¬ ['"', '"', '"'] <+: '\'' :: text := by
    rintro ⟨more, same⟩
    cases same
  obtain ⟨fault, missed⟩ := multilineBasic_missed three
  obtain ⟨fault', missed'⟩ := basic_missed (show ('\'' :: text).head? ≠ some '"' by simp)
  rw [reader, Reader.orElse_missed missed, Reader.orElse_missed missed']

theorem reader_multilineLiteral (allowed : ∀ c ∈ chars, c = '\'' ∨ RunsOn c)
    (few : ¬ ['\'', '\'', '\''] <:+: chars) (noQuote : rest.head? ≠ some '\'') :
    reader (writeMultilineLiteral chars ++ rest) = .read (String.ofList chars) rest := by
  have read := multilineLiteral_read allowed few noQuote
  simp only [writeMultilineLiteral, List.cons_append] at read ⊢
  rw [reader_single, Reader.orElse_read read]

theorem reader_literal (allowed : ∀ c ∈ chars, isLiteralChar c = true) (some_ : chars ≠ []) :
    reader (writeLiteral chars ++ rest) = .read (String.ofList chars) rest := by
  have single : ¬ ['\'', '\'', '\''] <+: writeLiteral chars ++ rest := by
    rintro ⟨more, three⟩
    cases chars with
    | nil => exact some_ rfl
    | cons c chars =>
        have first := allowed c List.mem_cons_self
        rw [← (List.cons.inj (List.cons.inj three).2).1] at first
        exact absurd first (by decide)
  obtain ⟨fault, missed⟩ := multilineLiteral_missed single
  have read := literal_read allowed rest
  simp only [writeLiteral, List.cons_append] at missed read ⊢
  rw [reader_single, Reader.orElse_missed missed, read]

end Quoted

theorem isLiteralChar_of_not_isControl {c : Char} (harmless : isControl c = false)
    (noQuote : c ≠ '\'') : Quoted.isLiteralChar c = true := by
  simp only [isControl, Bool.or_eq_false_iff, Bool.and_eq_false_iff, decide_eq_false_iff_not,
    not_not] at harmless
  simp only [Quoted.isLiteralChar, Bool.and_eq_true, Bool.or_eq_true, decide_eq_true_eq]
  refine ⟨⟨?_, noQuote⟩, harmless.2⟩
  obtain high | tab := harmless.1
  · exact .inr (Nat.not_lt.mp high)
  · exact .inl tab

/-- Text in which nothing must be escaped between single quotes but these themselves. -/
def Harmless (chars : List Char) : Prop := ∀ c ∈ chars, isControl c = true → c = '\n'

theorem Harmless.runsOn {chars : List Char} (h : Harmless chars) {c : Char} (member : c ∈ chars) :
    c = '\'' ∨ Quoted.RunsOn c := by
  by_cases quote : c = '\''
  · exact .inl quote
  · right
    cases control : isControl c with
    | true => exact .inl (h c member control)
    | false => exact .inr (isLiteralChar_of_not_isControl control quote)

/-- Whatever the form, the text is read back up to the end of its written form. -/
theorem writeText_read (s : String) {rest : Place} (noDouble : rest.head? ≠ some '"')
    (noSingle : rest.head? ≠ some '\'') :
    Quoted.reader ((writeText s).toList ++ rest) = .read s rest := by
  have whole : String.ofList s.toList = s := String.ofList_toList
  unfold writeText
  simp only [String.toList_ofList]
  split
  next => rw [Quoted.reader_basic noDouble, whole]
  next notPlain =>
    split
    next single =>
      have conditions : (Harmless s.toList ∧ longestRun '\'' s.toList = 0) ∧ '\n' ∉ s.toList := by
        simpa [Harmless] using single
      obtain ⟨⟨harmless, none⟩, oneLine⟩ := conditions
      have noQuote := not_mem_of_longestRun '\'' none
      have notEmpty : s.toList ≠ [] := by
        intro empty
        rw [empty] at notPlain
        exact notPlain rfl
      have allowed : ∀ c ∈ s.toList, Quoted.isLiteralChar c = true := by
        intro c member
        obtain rfl | rfl | literal := harmless.runsOn member
        · exact absurd member noQuote
        · exact absurd member oneLine
        · exact literal
      rw [Quoted.reader_literal allowed notEmpty, whole]
    next =>
      split
      next => rw [Quoted.reader_multilineBasic noDouble, whole]
      next =>
        split
        next single =>
          have conditions : Harmless s.toList ∧ longestRun '\'' s.toList ≤ 2 := by
            simpa [Harmless] using single
          obtain ⟨harmless, few⟩ := conditions
          have noThree : ¬ ['\'', '\'', '\''] <:+: s.toList := fun three =>
            absurd (Nat.le_trans (le_longestRun '\'' (n := 3) three) few) (by decide)
          rw [Quoted.reader_multilineLiteral (fun _ => harmless.runsOn) noThree noSingle, whole]
        next =>
          split
          next => rw [Quoted.reader_multilineBasic noDouble, whole]
          next => rw [Quoted.reader_basic noDouble, whole]

end TerminalAgent.Toml
