import Mathlib.Data.List.Basic
import Mathlib.Tactic.ByContra
import TerminalAgent.Proofs.Text.Characters
import TerminalAgent.Url.Query

/-! # Queries are read through their escapes

The query of a URL is kept with escapes for what may not stand in it. The bytes that mean something in a
query (ampersands, equals signs, plus and percent signs, hexadecimal digits) are not among these. So the
pairs of the query are the pairs of the text as it was written.
-/

namespace TerminalAgent.Url

/-! ## The bytes of an escape -/

/-- The upper-case hexadecimal digit of a value below 16, as a byte. -/
def hexByte (n : Nat) : UInt8 := UInt8.ofNat (hexDigit n).toNat

theorem encode_escapeByte (b : UInt8) :
    Utf8.encode (String.ofList (escapeByte b)) = [0x25, hexByte (b.toNat / 16), hexByte (b.toNat % 16)] := by
  have ascii : ∀ n < 16, (hexDigit n).toNat < 0x80 := by decide
  have byte := b.toNat_lt
  rw [Utf8.encode_ascii, String.toList_ofList]
  · rfl
  · rw [String.toList_ofList]
    simp only [escapeByte, List.forall_mem_cons]
    exact ⟨by decide, ascii _ (by omega), ascii _ (by omega), List.forall_mem_nil _⟩

/-- What stands for a byte in a query. -/
def queryByte (special : Bool) (b : UInt8) : Bytes :=
  if b.toNat < 0x80 ∧ escapedInQuery special (Char.ofNat b.toNat) = false then [b]
  else [0x25, hexByte (b.toNat / 16), hexByte (b.toNat % 16)]

/-- The bytes of a character that must be escaped are escaped, and those of any other one stay. -/
theorem encode_escapeChar (special : Bool) (c : Char) :
    Utf8.encode (String.ofList (if escapedInQuery special c then
      (Utf8.encode c.toString).flatMap escapeByte else [c])) =
      (String.utf8EncodeChar c).flatMap (queryByte special) := by
  have bytes : Utf8.encode c.toString = String.utf8EncodeChar c := by
    simp [Utf8.encode_eq_flatMap, Char.toString]
  have byte (ascii : c.toNat < 0x80) : (UInt8.ofNat c.toNat).toNat = c.toNat :=
    UInt8.toNat_ofNat_of_lt' (Nat.lt_trans ascii (by decide))
  cases must : escapedInQuery special c with
  | true =>
      have escaped : ∀ b ∈ String.utf8EncodeChar c,
          queryByte special b = Utf8.encode (String.ofList (escapeByte b)) := by
        intro b member
        rw [encode_escapeByte, queryByte, if_neg]
        rintro ⟨small, free⟩
        by_cases ascii : c.toNat < 0x80
        · rw [Utf8.encodeChar_ascii ascii, List.mem_singleton] at member
          rw [member, byte ascii, Char.ofNat_toNat, must] at free
          cases free
        · have := Utf8.le_of_mem_encodeChar (Nat.le_of_not_lt ascii) member
          omega
      rw [if_pos rfl, bytes, List.flatMap_congr escaped]
      simp only [Utf8.encode_eq_flatMap, String.toList_ofList, List.flatMap_assoc]
  | false =>
      have ascii : c.toNat < 0x80 := by
        by_contra foreign
        have shown : escapedInQuery special c = true := by
          have : 0x7E < c.toNat := by omega
          simp [escapedInQuery, isControlOrForeign, this]
        rw [must] at shown
        cases shown
      have free : queryByte special (UInt8.ofNat c.toNat) = [UInt8.ofNat c.toNat] := by
        rw [queryByte, if_pos]
        rw [byte ascii, Char.ofNat_toNat]
        exact ⟨ascii, must⟩
      simp [Utf8.encode_eq_flatMap, Utf8.encodeChar_ascii ascii, free]

theorem encode_encodeQuery (kind : SchemeKind) (query : List Char) :
    Utf8.encode (encodeQuery kind query) =
      (Utf8.encode (String.ofList query)).flatMap (queryByte kind.isSpecial) := by
  have chars : ∀ c ∈ query, _ := fun c _ => encode_escapeChar kind.isSpecial c
  simp only [Utf8.encode_eq_flatMap, String.toList_ofList, List.flatMap_assoc] at chars
  simp only [encodeQuery, escape, Utf8.encode_eq_flatMap, String.toList_ofList, List.flatMap_assoc]
  exact List.flatMap_congr chars

/-- The bytes that mean something in a query. -/
def isMark (b : UInt8) : Bool :=
  b = 0x25 || b = 0x26 || b = 0x2B || b = 0x3D

/-- An escape stands only for a byte that means nothing, and the digits in it are neither marks. -/
theorem queryByte_cases (special : Bool) (b : UInt8) :
    queryByte special b = [b] ∨
      (queryByte special b = [0x25, hexByte (b.toNat / 16), hexByte (b.toNat % 16)] ∧
        isMark b = false ∧ hexValue? b = none) := by
  have harmless : ∀ special, ∀ n : Fin 256, queryByte special (UInt8.ofNat n) ≠ [UInt8.ofNat n] →
      isMark (UInt8.ofNat n) = false ∧ hexValue? (UInt8.ofNat n) = none := by decide +kernel
  have known := harmless special ⟨b.toNat, b.toNat_lt⟩
  rw [UInt8.ofNat_toNat] at known
  by_cases plain : queryByte special b = [b]
  · exact .inl plain
  · refine .inr ⟨?_, known plain⟩
    unfold queryByte at plain ⊢
    split at plain
    next => exact absurd rfl plain
    next escaped => rw [if_neg escaped]

/-! ## Escapes are undone -/

/-- The byte that two hexadecimal digits at the front spell, and the bytes after them. -/
def hexPair? : Bytes → Option (UInt8 × Bytes)
  | high :: low :: rest =>
      match hexValue? high, hexValue? low with
      | some h, some l => some (UInt8.ofNat (16 * h + l), rest)
      | _, _ => none
  | _ => none

theorem unescape_percent (rest : Bytes) :
    unescape (0x25 :: rest) =
      match hexPair? rest with
      | some (b, rest) => b :: unescape rest
      | none => 0x25 :: unescape rest := by
  match rest with
  | [] => rfl
  | [_] => rfl
  | high :: low :: rest =>
      rw [unescape, hexPair?]
      cases hexValue? high with
      | none => rfl
      | some h => cases hexValue? low <;> rfl

theorem unescape_plain {b : UInt8} (plain : b ≠ 0x25) (rest : Bytes) :
    unescape (b :: rest) = b :: unescape rest := by
  rw [unescape]
  rintro _ _ _ rfl
  exact absurd rfl plain

theorem hexPair?_hexByte (b : UInt8) (rest : Bytes) :
    hexPair? (hexByte (b.toNat / 16) :: hexByte (b.toNat % 16) :: rest) = some (b, rest) := by
  have digits : ∀ n < 16, hexValue? (hexByte n) = some n := by decide
  have byte := b.toNat_lt
  have whole : 16 * (b.toNat / 16) + b.toNat % 16 = b.toNat := Nat.div_add_mod ..
  rw [hexPair?, digits _ (by omega), digits _ (by omega)]
  simp only [whole, UInt8.ofNat_toNat]

theorem hexPair?_percent (rest : Bytes) : hexPair? (0x25 :: rest) = none := by
  cases rest <;> rfl

/-- Bytes in which some are escaped that are no hexadecimal digits, and no percent signs either. -/
inductive Escaped : Bytes → Bytes → Prop where
  | nil : Escaped [] []
  | plain {b : UInt8} {bytes text : Bytes} (rest : Escaped bytes text) : Escaped (b :: bytes) (b :: text)
  | escape {b : UInt8} {bytes text : Bytes} (noPercent : b ≠ 0x25) (noDigit : hexValue? b = none)
      (rest : Escaped bytes text) :
      Escaped (b :: bytes) (0x25 :: hexByte (b.toNat / 16) :: hexByte (b.toNat % 16) :: text)

namespace Escaped

variable {bytes text : Bytes}

/-- Two digits are at the front of both or of neither. -/
theorem hexPair? (h : Escaped bytes text) :
    (Url.hexPair? bytes = none ∧ Url.hexPair? text = none) ∨
      ∃ b rest rest', Url.hexPair? bytes = some (b, rest) ∧ Url.hexPair? text = some (b, rest') ∧
        Escaped rest rest' ∧ rest.length < bytes.length := by
  have noDigit {b : UInt8} (none : hexValue? b = none) (rest : Bytes) :
      Url.hexPair? (b :: rest) = .none := by
    cases rest <;> simp [Url.hexPair?, none]
  cases h with
  | nil => exact .inl ⟨rfl, rfl⟩
  | escape noPercent digit rest => exact .inl ⟨noDigit digit _, hexPair?_percent _⟩
  | @plain high bytes text rest =>
      cases rest with
      | nil => exact .inl ⟨rfl, rfl⟩
      | @escape low bytes text noPercent digit rest =>
          have percent : hexValue? 0x25 = none := by decide
          refine .inl ⟨?_, ?_⟩ <;> cases hexValue? high <;> simp [Url.hexPair?, digit, percent]
      | @plain low bytes text rest =>
          cases first : hexValue? high with
          | none => exact .inl ⟨noDigit first _, noDigit first _⟩
          | some h =>
              cases second : hexValue? low with
              | none => exact .inl ⟨by simp [Url.hexPair?, second], by simp [Url.hexPair?, second]⟩
              | some l =>
                  refine .inr ⟨UInt8.ofNat (16 * h + l), bytes, text, ?_, ?_, rest, ?_⟩
                  · simp [Url.hexPair?, first, second]
                  · simp [Url.hexPair?, first, second]
                  · rw [List.length_cons, List.length_cons]
                    exact Nat.lt_succ_of_lt (Nat.lt_succ_self _)

theorem unescape (h : Escaped bytes text) : Url.unescape text = Url.unescape bytes := by
  -- Undoing an escape passes over three bytes at once, so the induction is on the length.
  induction size : bytes.length using Nat.strongRecOn generalizing bytes text with
  | _ n ih =>
    cases h with
    | nil => rfl
    | @plain b bytes text rest =>
        have shorter : bytes.length < n := by
          rw [← size, List.length_cons]
          exact Nat.lt_succ_self _
        by_cases percent : b = 0x25
        · rw [percent, unescape_percent, unescape_percent]
          rcases rest.hexPair? with ⟨none, none'⟩ | ⟨c, left, left', some, some', further, less⟩
          · rw [none, none']
            exact congrArg _ (ih _ shorter rest rfl)
          · rw [some, some']
            exact congrArg _ (ih _ (Nat.lt_trans less shorter) further rfl)
        · rw [unescape_plain percent, unescape_plain percent, ih _ shorter rest rfl]
    | @escape b bytes text noPercent noDigit rest =>
        have shorter : bytes.length < n := by
          rw [← size, List.length_cons]
          exact Nat.lt_succ_self _
        rw [unescape_percent, hexPair?_hexByte, unescape_plain noPercent]
        exact congrArg _ (ih _ shorter rest rfl)

end Escaped

theorem decodePart_flatMap (special : Bool) (part : Bytes) :
    decodePart (part.flatMap (queryByte special)) = decodePart part := by
  have digits : ∀ n < 16, hexByte n ≠ 0x2B := by decide
  have escaped (part : Bytes) : Escaped (part.map fun b => if b = 0x2B then 0x20 else b)
      ((part.flatMap (queryByte special)).map fun b => if b = 0x2B then 0x20 else b) := by
    induction part with
    | nil => exact .nil
    | cons b part ih =>
        have byte := b.toNat_lt
        rw [List.flatMap_cons, List.map_append, List.map_cons]
        rcases queryByte_cases special b with plain | ⟨escape, unmarked, noDigit⟩
        · rw [plain]
          exact .plain ih
        · have noPercent : b ≠ 0x25 := by
            rintro rfl
            cases unmarked
          have noPlus : b ≠ 0x2B := by
            rintro rfl
            cases unmarked
          rw [escape, if_neg noPlus]
          simp only [List.map_cons, List.map_nil, if_neg (digits _ (show b.toNat / 16 < 16 by omega)),
            if_neg (digits _ (show b.toNat % 16 < 16 by omega))]
          exact .escape noPercent noDigit ih
  rw [decodePart, decodePart, (escaped part).unescape]

/-! ## Separators stay -/

section Separators

variable {α : Type} {f : α → List α} {p : α → Bool}

theorem splitOnP_append_of_neg {front : List α} (clear : ∀ a ∈ front, p a = false) (rest : List α) :
    (front ++ rest).splitOnP p = (rest.splitOnP p).modifyHead (front ++ ·) := by
  induction front with
  | nil =>
      rw [List.nil_append]
      cases rest.splitOnP p <;> rfl
  | cons a front ih =>
      obtain ⟨first, others⟩ := List.forall_mem_cons.mp clear
      rw [List.cons_append, List.splitOnP_cons_eq_if_modifyHead, if_neg (by simp [first]), ih others,
        List.modifyHead_modifyHead]
      rfl

variable (kept : ∀ a, p a = true → f a = [a]) (clear : ∀ a, p a = false → ∀ b ∈ f a, p b = false)
include kept clear

/-- A list in which no element gives a separator except a separator itself is split where it was. -/
theorem splitOnP_flatMap (l : List α) :
    (l.flatMap f).splitOnP p = (l.splitOnP p).map fun part => part.flatMap f := by
  induction l with
  | nil => simp
  | cons a l ih =>
      rw [List.flatMap_cons, List.splitOnP_cons_eq_if_modifyHead]
      cases separates : p a with
      | true =>
          rw [kept a separates, if_pos rfl, List.singleton_append, List.splitOnP_cons_eq_if_modifyHead,
            if_pos separates, ih]
          rfl
      | false =>
          rw [splitOnP_append_of_neg (clear a separates), ih, if_neg Bool.false_ne_true]
          cases l.splitOnP p with
          | nil => rfl
          | cons part parts => simp

theorem takeWhile_flatMap (l : List α) :
    (l.flatMap f).takeWhile (!p ·) = (l.takeWhile (!p ·)).flatMap f := by
  induction l with
  | nil => rfl
  | cons a l ih =>
      rw [List.flatMap_cons]
      cases separates : p a with
      | true => simp [kept a separates, separates]
      | false =>
          rw [List.takeWhile_append_of_pos (by simpa using clear a separates),
            List.takeWhile_cons_of_pos (by simp [separates]), List.flatMap_cons, ih]

/-- What follows the first separator. -/
theorem drop_dropWhile_flatMap (l : List α) :
    ((l.flatMap f).dropWhile (!p ·)).drop 1 = ((l.dropWhile (!p ·)).drop 1).flatMap f := by
  induction l with
  | nil => rfl
  | cons a l ih =>
      rw [List.flatMap_cons]
      cases separates : p a with
      | true => simp [kept a separates, separates]
      | false =>
          rw [List.dropWhile_append_of_pos (by simpa using clear a separates),
            List.dropWhile_cons_of_pos (by simp [separates]), ih]

end Separators

/-! ## Pairs -/

section Pairs

variable (special : Bool)

variable {mark : UInt8} (isMark_ : isMark mark = true)
include isMark_

theorem queryByte_kept (b : UInt8) (same : (b == mark) = true) : queryByte special b = [b] := by
  rcases queryByte_cases special b with plain | ⟨-, unmarked, -⟩
  · exact plain
  · rw [eq_of_beq same, isMark_] at unmarked
    cases unmarked

theorem queryByte_clear (noPercent : mark ≠ 0x25) (b : UInt8) (other : (b == mark) = false) :
    ∀ c ∈ queryByte special b, (c == mark) = false := by
  have digits : ∀ n < 16, isMark (hexByte n) = false := by decide
  have byte := b.toNat_lt
  have noDigit {n : Nat} (small : n < 16) : mark ≠ hexByte n := by
    rintro rfl
    rw [digits n small] at isMark_
    cases isMark_
  rcases queryByte_cases special b with plain | ⟨escape, -, -⟩
  · rw [plain]
    simpa using other
  · rw [escape]
    simp only [List.forall_mem_cons, beq_eq_false_iff_ne]
    exact ⟨noPercent.symm, (noDigit (by omega)).symm, (noDigit (by omega)).symm, List.forall_mem_nil _⟩

omit isMark_

theorem isEmpty_flatMap_queryByte (part : Bytes) :
    (part.flatMap (queryByte special)).isEmpty = part.isEmpty := by
  cases part with
  | nil => rfl
  | cons b part =>
      rcases queryByte_cases special b with plain | ⟨escape, -, -⟩
      · simp [plain]
      · simp [escape]

theorem splitPairs_flatMap (query : Bytes) :
    splitPairs (query.flatMap (queryByte special)) =
      (splitPairs query).map fun part => part.flatMap (queryByte special) := by
  have split := splitOnP_flatMap (queryByte_kept special (show isMark 0x26 = true from rfl))
    (queryByte_clear special rfl (by decide)) query
  simp only [splitPairs, List.splitOn, split, List.filter_map, Function.comp_def,
    isEmpty_flatMap_queryByte]

theorem decodePair_eq (pair : Bytes) :
    decodePair pair = (decodePart (pair.takeWhile (!· == 0x3D)),
      decodePart ((pair.dropWhile (!· == 0x3D)).drop 1)) := by
  have other : (fun b : UInt8 => decide (b ≠ 0x3D)) = (!· == 0x3D) := by
    funext b
    rw [decide_not]
    rfl
  have after : pair.drop ((pair.takeWhile (!· == 0x3D)).length + 1) =
      (pair.dropWhile (!· == 0x3D)).drop 1 := by
    have parts : (pair.takeWhile (!· == 0x3D) ++ pair.dropWhile (!· == 0x3D)).drop
        ((pair.takeWhile (!· == 0x3D)).length + 1) = (pair.dropWhile (!· == 0x3D)).drop 1 :=
      List.drop_length_add_append 1
    rwa [List.takeWhile_append_dropWhile] at parts
  rw [decodePair, other]
  simp only [after]

theorem decodePair_flatMap (pair : Bytes) :
    decodePair (pair.flatMap (queryByte special)) = decodePair pair := by
  have kept := queryByte_kept special (show isMark 0x3D = true from rfl)
  have clear := queryByte_clear special (show isMark 0x3D = true from rfl) (by decide)
  rw [decodePair_eq, takeWhile_flatMap kept clear, drop_dropWhile_flatMap kept clear, decodePart_flatMap,
    decodePart_flatMap, decodePair_eq]

end Pairs

/-- The pairs of a query are those of the text that it was made from. -/
theorem pairs_encodeQuery (kind : SchemeKind) (query : List Char) :
    pairs (encodeQuery kind query) = pairs (String.ofList query) := by
  rw [pairs, encode_encodeQuery, splitPairs_flatMap, List.map_map, pairs]
  exact List.map_congr_left fun pair _ => decodePair_flatMap kind.isSpecial pair

/-! ## Plain texts -/

theorem unescape_of_not_mem {bytes : Bytes} (noPercent : 0x25 ∉ bytes) : unescape bytes = bytes := by
  induction bytes with
  | nil => rfl
  | cons b bytes ih =>
      obtain ⟨first, others⟩ := List.ne_and_not_mem_of_not_mem_cons noPercent
      rw [unescape_plain first.symm, ih others]

/-- A text of ASCII without percent and plus signs. -/
structure IsPlain (s : String) : Prop where
  ascii : ∀ c ∈ s.toList, c.toNat < 0x80
  noPercent : '%' ∉ s.toList
  noPlus : '+' ∉ s.toList

theorem IsPlain.decodePart {s : String} (plain : IsPlain s) : Url.decodePart (Utf8.encode s) = s := by
  have noPercent : 0x25 ∉ Utf8.encode s := fun member =>
    plain.noPercent (Utf8.mem_of_mem_encode (by decide) member)
  have noPlus : 0x2B ∉ Utf8.encode s := fun member =>
    plain.noPlus (Utf8.mem_of_mem_encode (by decide) member)
  have same : (Utf8.encode s).map (fun b => if b = 0x2B then 0x20 else b) = Utf8.encode s := by
    refine (List.map_congr_left fun b member => ?_).trans (List.map_id _)
    rw [if_neg (ne_of_mem_of_not_mem member noPlus)]
    rfl
  rw [Url.decodePart, same, unescape_of_not_mem noPercent, Utf8.decodeLossy_ascii plain.ascii]

theorem decodePair_plain {name value : String} (plainName : IsPlain name) (plainValue : IsPlain value)
    (noEquals : '=' ∉ name.toList) :
    decodePair (Utf8.encode (name ++ "=" ++ value)) = (name, value) := by
  have equals : Utf8.encode "=" = [0x3D] := by decide
  have clear : ∀ b ∈ Utf8.encode name, (!b == 0x3D) = true := by
    intro b member
    have other : b ≠ 0x3D := by
      rintro rfl
      exact noEquals (Utf8.mem_of_mem_encode (by decide) member)
    simpa using other
  rw [decodePair_eq, Utf8.encode_append, Utf8.encode_append, equals, List.append_assoc,
    List.takeWhile_append_of_pos clear, List.dropWhile_append_of_pos clear]
  simp [plainName.decodePart, plainValue.decodePart]

/-- Texts between ampersands are read one by one, and empty ones are passed over. -/
theorem pairs_intercalate {parts : List String} (plain : ∀ part ∈ parts, '&' ∉ part.toList) :
    pairs ("&".intercalate parts) =
      (parts.filter (· ≠ "")).map fun part => decodePair (Utf8.encode part) := by
  have ampersand : Utf8.encode "&" = [0x26] := by decide
  have clear : ∀ bytes ∈ parts.map Utf8.encode, (0x26 : UInt8) ∉ bytes := by
    intro bytes member among
    obtain ⟨part, there, rfl⟩ := List.mem_map.mp member
    exact plain part there (Utf8.mem_of_mem_encode (by decide) among)
  have split : splitPairs (Utf8.encode ("&".intercalate parts)) =
      (parts.filter (· ≠ "")).map Utf8.encode := by
    rw [splitPairs, Utf8.encode_intercalate, ampersand]
    cases parts with
    | nil => rfl
    | cons part parts =>
        have some_ : (part :: parts).map Utf8.encode ≠ [] := List.cons_ne_nil _ _
        have shown (part : String) : (!(Utf8.encode part).isEmpty) = decide (part ≠ "") := by
          by_cases empty : part = ""
          · rw [empty]
            decide
          · have bytes : Utf8.encode part ≠ [] := fun none => empty (Utf8.encode_injective none)
            simp [empty, bytes]
        rw [List.splitOn_intercalate 0x26 clear some_, List.filter_map]
        exact congrArg _ (List.filter_congr fun part _ => shown part)
  rw [pairs, split, List.map_map]
  rfl

end TerminalAgent.Url
