import TerminalAgent.Playback.Target
import TerminalAgent.Proofs.Url.Lengths
import TerminalAgent.Proofs.Url.Queries
import TerminalAgent.Proofs.Url.References
import TerminalAgent.Recording.Key

/-! # What a target asks for

A target is resolved like any reference, so its text may be spelled in many ways. Whatever it is, the
session in it is one part of a path; and a target that names a key and has pairs behind it asks for this
key, with the pause of the first pair that names one.
-/

namespace TerminalAgent.PlaybackTarget

/-! ## Any target -/

theorem path_of_parse? {target : String} {asked : PlaybackTarget} (accepted : parse? target = some asked) :
    ∃ url, Url.join base target = .ok url ∧ url.path = .segments ["playback", asked.id] ∧ asked.id ≠ "" := by
  obtain ⟨id, pause⟩ := asked
  simp only [parse?, bind, Option.bind_eq_some_iff] at accepted
  obtain ⟨url, joined, segments, shown, id', session, pause', -, same⟩ := accepted
  cases same
  refine ⟨url, ?_, ?_⟩
  · cases read : Url.join base target with
    | error => rw [read] at joined; cases joined
    | ok url => rw [read] at joined; cases joined; rfl
  have path : url.path = .segments segments := by
    unfold Url.segments? at shown
    split at shown <;> cases shown
    assumption
  unfold sessionOf? at session
  split at session
  next =>
    split at session
    next => cases session
    next some_ =>
      cases session
      exact ⟨path, some_⟩
  next => cases session

/-- What holds of every part of a path holds of the session in a target. -/
theorem part_of_parse? {Text : List Char → Prop} {Part : String → Prop} (law : Url.PartLaw Text Part)
    {target : String} {asked : PlaybackTarget} (accepted : parse? target = some asked)
    (text : Text target.toList) : Part asked.id := by
  obtain ⟨url, joined, path, -⟩ := path_of_parse? accepted
  have each := Url.gives_join law (Url.each_empty law) text url joined
  rw [path] at each
  exact each asked.id (by simp)

/-- The session in a target is at most three times as long as the target. -/
theorem utf8ByteSize_id_le {target : String} {asked : PlaybackTarget}
    (accepted : parse? target = some asked) : asked.id.utf8ByteSize ≤ 3 * target.utf8ByteSize := by
  refine part_of_parse? (Url.partLaw_length _) accepted ?_
  rw [String.utf8Len_toList]

theorem noSlash_id {target : String} {asked : PlaybackTarget} (accepted : parse? target = some asked) :
    '/' ∉ asked.id.toList :=
  part_of_parse? Url.partLaw_noSlash accepted trivial

/-! ## Pauses -/

/-- The text is `n` in decimal digits, with an optional plus sign. -/
def Spells (text : String) (n : Nat) : Prop :=
  ∃ digits, (text.toList = digits ∨ text.toList = '+' :: digits) ∧ digits ≠ [] ∧
    (∀ d ∈ digits, d.isDigit = true) ∧ Nat.ofDigitChars 10 digits 0 = n

theorem spells_toString (n : Nat) : Spells (toString n) n := by
  refine ⟨Nat.toDigits 10 n, .inl ?_, Nat.toDigits_ne_nil, fun d member => ?_, Nat.ofDigitChars_ten_toDigits⟩
  · rw [Nat.toString_eq_repr, Nat.toList_repr]
  · exact Nat.isDigit_of_mem_toDigits (by decide) (by decide) member

theorem unsigned_unique {text digits digits' : List Char}
    (h : text = digits ∧ digits.head? ≠ some '+' ∨ text = '+' :: digits)
    (h' : text = digits' ∧ digits'.head? ≠ some '+' ∨ text = '+' :: digits') : digits = digits' := by
  rcases h with ⟨rfl, unsigned⟩ | rfl
  · rcases h' with ⟨same, -⟩ | rfl
    · exact same
    · exact absurd rfl unsigned
  · rcases h' with ⟨rfl, unsigned⟩ | same
    · exact absurd rfl unsigned
    · exact (List.cons.inj same).2

theorem unsigned_of_digits {text digits : List Char} (all : ∀ d ∈ digits, d.isDigit = true)
    (h : text = digits ∨ text = '+' :: digits) :
    text = digits ∧ digits.head? ≠ some '+' ∨ text = '+' :: digits := by
  refine h.imp_left fun whole => ⟨whole, fun plus => ?_⟩
  have digit := all '+' (List.mem_of_mem_head? plus)
  cases digit

theorem Spells.unique {text : String} {n n' : Nat} (h : Spells text n) (h' : Spells text n') : n = n' := by
  obtain ⟨digits, written, -, all, rfl⟩ := h
  obtain ⟨digits', written', -, all', rfl⟩ := h'
  rw [unsigned_unique (unsigned_of_digits all written) (unsigned_of_digits all' written')]

/-- The digits of a text are what follows a plus sign, or else the whole text. -/
theorem parseMillis?_eq (text : String) :
    ∃ digits, (text.toList = digits ∧ digits.head? ≠ some '+' ∨ text.toList = '+' :: digits) ∧
      parseMillis? text =
        if digits ≠ [] && digits.all Char.isDigit then
          if Nat.ofDigitChars 10 digits 0 < 0x10000000000000000 then some (Nat.ofDigitChars 10 digits 0)
          else none
        else none := by
  have number (digits : List Char) :
      digits.foldl (fun n c => 10 * n + (c.toNat - 48)) 0 = Nat.ofDigitChars 10 digits 0 := rfl
  unfold parseMillis?
  split
  next rest signed =>
    exact ⟨rest, .inr signed, by rw [← number]⟩
  next _ unsigned =>
    refine ⟨text.toList, .inl ⟨rfl, fun plus => ?_⟩, by rw [← number]⟩
    obtain ⟨rest, signed⟩ := List.head?_eq_some_iff.mp plus
    exact unsigned rest signed

/-- A pause is a number below `2 ^ 64` in digits, with an optional plus sign, and nothing else is one. -/
theorem parseMillis?_eq_some {text : String} {n : Nat} :
    parseMillis? text = some n ↔ Spells text n ∧ n < 0x10000000000000000 := by
  obtain ⟨digits, written, read⟩ := parseMillis?_eq text
  simp only [read, Bool.and_eq_true, decide_eq_true_eq, List.all_eq_true]
  constructor
  · intro found
    split at found
    next known =>
      split at found
      next small =>
        cases found
        exact ⟨⟨digits, written.imp_left And.left, known.1, known.2, rfl⟩, small⟩
      next => cases found
    next => cases found
  · rintro ⟨⟨digits', written', some_, all, value⟩, small⟩
    have same : digits' = digits := unsigned_unique (unsigned_of_digits all written') written
    rw [← same, if_pos ⟨some_, all⟩, value, if_pos small]

theorem parseMillis?_eq_none {text : String}
    (wrong : (∃ n, Spells text n ∧ 0x10000000000000000 ≤ n) ∨ ∀ n, ¬ Spells text n) :
    parseMillis? text = none := by
  rw [Option.eq_none_iff_forall_ne_some]
  intro n found
  obtain ⟨spelled, small⟩ := parseMillis?_eq_some.mp found
  rcases wrong with ⟨n', spelled', large⟩ | never
  · rw [spelled.unique spelled'] at small
    omega
  · exact never n spelled

/-! ## Targets of a key -/

/-- The text that asks for a recording, with these pairs behind it. -/
def written (key : String) (pairs : List String) : String :=
  "/playback/" ++ key ++ if pairs = [] then "" else "?" ++ "&".intercalate pairs

/-- The target asks for a key with these pairs. Blanks around it and line breaks in it do not count. -/
structure AsksFor (target key : String) (pairs : List String) : Prop where
  text : Url.clean target = (written key pairs).toList
  valid : RecordingKey.isValid key = true
  plain : ∀ pair ∈ pairs, '&' ∉ pair.toList ∧ '#' ∉ pair.toList

/-- The name and the value that the text of a pair stands for. -/
def saidBy (pair : String) : String × String := Url.decodePair (Utf8.encode pair)

theorem isPartChar_of_isKeyChar {c : Char} (keyChar : RecordingKey.isKeyChar c = true) :
    Url.isPartChar c = true := by
  have ascii : c.toNat < 0x80 := by
    simp only [RecordingKey.isKeyChar, Bool.or_eq_true, decide_eq_true_eq] at keyChar
    rcases keyChar with (known | rfl) | rfl
    · rcases Bool.or_eq_true_iff.mp known with letter | digit
      · rcases Bool.or_eq_true_iff.mp letter with upper | lower
        · exact Nat.lt_of_le_of_lt (of_decide_eq_true upper).2 (by decide)
        · exact Nat.lt_of_le_of_lt (of_decide_eq_true (Bool.and_eq_true_iff.mp lower).2) (by decide)
      · exact Nat.lt_of_le_of_lt (of_decide_eq_true (Bool.and_eq_true_iff.mp digit).2) (by decide)
    · decide
    · decide
  exact of_forall_ofNat (P := fun c => RecordingKey.isKeyChar c = true → Url.isPartChar c = true)
    (by decide +kernel) ascii keyChar

namespace AsksFor

variable {target key : String} {pairs : List String}

theorem keyChars (valid : RecordingKey.isValid key = true) : ∀ c ∈ key.toList, Url.isPartChar c = true := by
  simp only [RecordingKey.isValid, Bool.and_eq_true, List.all_eq_true] at valid
  exact fun c member => isPartChar_of_isKeyChar (valid.2 c member)

/-- Such a target leads to the path of its key, and its pairs are in the query. -/
theorem join_eq (asks : AsksFor target key pairs) :
    Url.join base target = .ok { base with
      path := .segments ["playback", key]
      query := (if pairs = [] then none else some ("&".intercalate pairs).toList).map
        (Url.encodeQuery .special)
      fragment := none } := by
  have plain : ∀ name ∈ ["playback".toList, key.toList], ∀ c ∈ name, Url.isPartChar c = true := by
    simp only [List.forall_mem_cons]
    exact ⟨List.all_eq_true.mp rfl, keyChars asks.valid, List.forall_mem_nil _⟩
  have noFragment : ∀ text ∈ if pairs = [] then none else some ("&".intercalate pairs).toList,
      '#' ∉ text := by
    split
    next => nofun
    next =>
      rintro _ ⟨⟩ mark
      rw [String.toList_intercalate] at mark
      rcases Url.mem_intercalate mark with other | ⟨_, there, among⟩
      · cases other
      · obtain ⟨pair, member, rfl⟩ := List.mem_map.mp there
        exact (asks.plain pair member).2 among
  have text : Url.clean target = '/' :: ['/'].intercalate ["playback".toList, key.toList] ++
      (if pairs = [] then none else some ("&".intercalate pairs).toList).elim [] ('?' :: ·) := by
    rw [asks.text, written]
    split <;> simp
  have joined := Url.join_rooted (show Url.kindOf base.scheme = .special from rfl)
    (show base.path = .segments [""] from rfl) rfl plain noFragment text
  simpa only [List.map_cons, List.map_nil, String.ofList_toList] using joined

/-- The pause of such a target is the first that its pairs ask for. -/
theorem parse?_eq (asks : AsksFor target key pairs) :
    parse? target = (pauseOf? ((pairs.filter (· ≠ "")).map saidBy)).map fun pause => ⟨key, pause⟩ := by
  have some_ : key ≠ "" := by
    have valid := asks.valid
    simp only [RecordingKey.isValid, Bool.and_eq_true, decide_eq_true_eq] at valid
    exact valid.1.1
  have said : Url.pairs (((if pairs = [] then none else some ("&".intercalate pairs).toList).map
      (Url.encodeQuery .special)).getD "") = (pairs.filter (· ≠ "")).map saidBy := by
    split
    next none =>
      rw [none]
      decide
    next =>
      rw [Option.map_some, Option.getD_some, Url.pairs_encodeQuery, String.ofList_toList,
        Url.pairs_intercalate fun pair member => (asks.plain pair member).1]
      rfl
  simp only [parse?, asks.join_eq, Except.toOption, bind, Option.bind_some, Url.segments?, sessionOf?,
    some_, if_false, Url.queryPairs, said]
  cases pauseOf? ((pairs.filter (· ≠ "")).map saidBy) <;> rfl

/-- The pair that asks for a pause is the first whose name says so. -/
theorem find?_said (pairs : List String) :
    ((pairs.filter (· ≠ "")).map saidBy).find? (fun pair => pair.1 = "sleep_ms") =
      (pairs.find? fun pair => (saidBy pair).1 = "sleep_ms").map saidBy := by
  have nothing : (saidBy "").1 ≠ "sleep_ms" := by decide
  have some_ (pair : String) : decide (pair ≠ "" ∧ (saidBy pair).1 = "sleep_ms") =
      decide ((saidBy pair).1 = "sleep_ms") := by
    by_cases empty : pair = ""
    · rw [empty]
      simp [nothing]
    · simp [empty]
  rw [List.find?_map, List.find?_filter]
  simp [some_]

theorem parse?_of_unnamed (asks : AsksFor target key pairs)
    (unnamed : ∀ pair ∈ pairs, (saidBy pair).1 ≠ "sleep_ms") : parse? target = some ⟨key, 0⟩ := by
  have nothing : pairs.find? (fun pair => (saidBy pair).1 = "sleep_ms") = none := by simpa using unnamed
  rw [asks.parse?_eq, pauseOf?, find?_said, nothing]
  rfl

theorem parse?_of_named {pair : String} {before after : List String}
    (asks : AsksFor target key (before ++ pair :: after))
    (first : ∀ other ∈ before, (saidBy other).1 ≠ "sleep_ms") (named : (saidBy pair).1 = "sleep_ms") :
    parse? target = (parseMillis? (saidBy pair).2).map fun pause => ⟨key, pause⟩ := by
  have nothing : before.find? (fun pair => (saidBy pair).1 = "sleep_ms") = none := by simpa using first
  have found : (before ++ pair :: after).find? (fun pair => (saidBy pair).1 = "sleep_ms") = some pair := by
    rw [List.find?_append, nothing, Option.none_or, List.find?_cons_of_pos (by simpa using named)]
  rw [asks.parse?_eq, pauseOf?, find?_said, found]
  rfl

end AsksFor

/-- The text of a pause in decimal digits says this pause. -/
theorem saidBy_pause (n : Nat) : saidBy ("sleep_ms=" ++ toString n) = ("sleep_ms", toString n) := by
  have digits : ∀ c ∈ (toString n).toList, c.isDigit = true := by
    rw [Nat.toString_eq_repr, Nat.toList_repr]
    exact fun d member => Nat.isDigit_of_mem_toDigits (by decide) (by decide) member
  have number : Url.IsPlain (toString n) := by
    refine ⟨fun c member => ?_, fun percent => ?_, fun plus => ?_⟩
    · have digit := digits c member
      simp only [Char.isDigit, Bool.and_eq_true, decide_eq_true_eq, UInt32.le_iff_toNat_le] at digit
      exact Nat.lt_of_le_of_lt digit.2 (by decide)
    · cases digits '%' percent
    · cases digits '+' plus
  have name : Url.IsPlain "sleep_ms" := ⟨by simp, by simp, by simp⟩
  have mark : "sleep_ms=" = "sleep_ms" ++ "=" := by decide
  rw [saidBy, mark]
  exact Url.decodePair_plain name number (by decide)

/-- A target of a key asks for this key, with the pause of the first pair that names one and without a
    pause if none does; it asks for nothing if that pair gives no number or one too large. Whatever a
    target asks for has a name without slashes. -/
theorem parse?_exact :
    (∀ (target key : String) (before after : List String) (n : Nat),
      AsksFor target key (before ++ ("sleep_ms=" ++ toString n) :: after) →
      (∀ other ∈ before, (saidBy other).1 ≠ "sleep_ms") → n < 0x10000000000000000 →
        parse? target = some ⟨key, n⟩) ∧
    (∀ (target key : String) (pairs : List String), AsksFor target key pairs →
      (∀ pair ∈ pairs, (saidBy pair).1 ≠ "sleep_ms") → parse? target = some ⟨key, 0⟩) ∧
    (∀ (target key pair : String) (before after : List String),
      AsksFor target key (before ++ pair :: after) →
      (∀ other ∈ before, (saidBy other).1 ≠ "sleep_ms") → (saidBy pair).1 = "sleep_ms" →
      (∃ n, Spells (saidBy pair).2 n ∧ 0x10000000000000000 ≤ n) ∨ (∀ n, ¬ Spells (saidBy pair).2 n) →
        parse? target = none) ∧
    ∀ (target : String) (asked : PlaybackTarget), parse? target = some asked →
      asked.id ≠ "" ∧ '/' ∉ asked.id.toList := by
  refine ⟨?_, fun _ _ _ asks unnamed => asks.parse?_of_unnamed unnamed, ?_, ?_⟩
  · intro target key before after n asks first small
    have said := saidBy_pause n
    have pause : parseMillis? (toString n) = some n := parseMillis?_eq_some.mpr ⟨spells_toString n, small⟩
    rw [asks.parse?_of_named first (congrArg Prod.fst said), said, pause]
    rfl
  · intro target key pair before after asks first named wrong
    rw [asks.parse?_of_named first named, parseMillis?_eq_none wrong]
    rfl
  · intro target asked accepted
    obtain ⟨_, _, _, some_⟩ := path_of_parse? accepted
    exact ⟨some_, noSlash_id accepted⟩

/-- The longest pause behind another pair and an empty one, no pause, one that is too long, and a session
    with an escaped slash. -/
theorem parse?_exact_spelled :
    parse? " /playback/rec\t-1?a=%26&&sleep_ms=18446744073709551615&sleep_ms=x\n" =
        some ⟨"rec-1", 18446744073709551615⟩ ∧
      parse? "/playback/rec-1?sleep=1" = some ⟨"rec-1", 0⟩ ∧
      parse? "/playback/rec-1?sleep%5Fms=%2B18446744073709551616" = none ∧
      parse? "\\a/../playback/%2Fx" = some ⟨"%2Fx", 0⟩ ∧ '/' ∉ "%2Fx".toList := by
  obtain ⟨paused, unpaused, refused, any⟩ := parse?_exact
  refine ⟨?_, ?_, ?_, ?_⟩
  · exact paused _ "rec-1" ["a=%26", ""] ["sleep_ms=x"] _ ⟨by decide +kernel, by decide, by decide⟩ (by decide)
      (by decide)
  · exact unpaused _ "rec-1" ["sleep=1"] ⟨by decide +kernel, by decide, by decide⟩ (by decide)
  · refine refused _ "rec-1" "sleep%5Fms=%2B18446744073709551616" [] []
      ⟨by decide +kernel, by decide, by decide⟩ (by decide) (by decide +kernel) (.inl ?_)
    refine ⟨18446744073709551616, ?_, by decide⟩
    exact ⟨"18446744073709551616".toList, .inr (by decide +kernel), by decide, List.all_eq_true.mp rfl, by decide⟩
  · have accepted : parse? "\\a/../playback/%2Fx" = some ⟨"%2Fx", 0⟩ := by decide +kernel
    exact ⟨accepted, (any _ _ accepted).2⟩

end TerminalAgent.PlaybackTarget
