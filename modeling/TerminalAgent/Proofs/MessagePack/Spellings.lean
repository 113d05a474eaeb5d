import TerminalAgent.Proofs.MessagePack.Reading

/-! # Every spelling is read

MessagePack leaves a choice of first bytes for most values, and records leave a choice of containers and
of the order of fields. The relations below say, byte by byte, what spells a value. Whatever spells a
value is read as the value, and a whole value that nobody asked for is passed over.
-/

namespace TerminalAgent.MessagePack

/-! ## Spellings -/

/-- How a number is written that says how much follows: added to a first byte, or in bytes of its own
    behind another one. -/
structure Head where
  /-- The first byte for zero. -/
  base : Nat
  /-- How many numbers are added to it. -/
  small : Nat
  /-- The other first bytes, each with the number of bytes that follow it. -/
  wide : List (UInt8 × Nat)

namespace Head

def str : Head := ⟨0xA0, 32, [(0xD9, 1), (0xDA, 2), (0xDB, 4)]⟩

def bin : Head := ⟨0, 0, [(0xC4, 1), (0xC5, 2), (0xC6, 4)]⟩

def array : Head := ⟨0x90, 16, [(0xDC, 2), (0xDD, 4)]⟩

def map : Head := ⟨0x80, 16, [(0xDE, 2), (0xDF, 4)]⟩

inductive Spelling (head : Head) (n : Nat) : Bytes → Prop
  | short (small : n < head.small) : Spelling head n [UInt8.ofNat (head.base + n)]
  | wide {first : UInt8} {w : Nat} (listed : (first, w) ∈ head.wide) (fits : n < Nat.pow 256 w) :
      Spelling head n (first :: Bytes.bigEndian w n)

/-- Bytes behind their number. -/
inductive Counted (head : Head) (data : Bytes) : Bytes → Prop
  | mk {front : Bytes} (number : head.Spelling data.length front) : Counted head data (front ++ data)

end Head

/-- An integer, with or without a sign and in any width that holds it. -/
inductive IntegerSpelling (i : Int) : Bytes → Prop
  | positive (least : 0 ≤ i) (most : i < 0x80) : IntegerSpelling i [UInt8.ofNat i.toNat]
  | negative (least : -0x20 ≤ i) (most : i < 0) : IntegerSpelling i [UInt8.ofNat (i + 0x100).toNat]
  | unsigned {first : UInt8} {w : Nat} (listed : (first, w) ∈ [(0xCC, 1), (0xCD, 2), (0xCE, 4), (0xCF, 8)])
      (least : 0 ≤ i) (most : i < Nat.pow 256 w) :
      IntegerSpelling i (first :: Bytes.bigEndian w i.toNat)
  | signed {first : UInt8} {w : Nat} (listed : (first, w) ∈ [(0xD0, 1), (0xD1, 2), (0xD2, 4), (0xD3, 8)])
      (least : -(Nat.pow 2 (8 * w - 1) : Int) ≤ i) (most : i < Nat.pow 2 (8 * w - 1)) :
      IntegerSpelling i (first :: Bytes.bigEndian w (i % Nat.pow 256 w).toNat)

/-- A number in double precision, or in single precision if that is exact. -/
inductive FloatSpelling (x : Binary64) : Bytes → Prop
  | double : FloatSpelling x (0xCB :: Bytes.bigEndian 8 x.bits.toNat)
  | single {bits : UInt32} (same : Binary64.ofBinary32 bits = x) :
      FloatSpelling x (0xCA :: Bytes.bigEndian 4 bits.toNat)

/-- A whole value, with so many containers inside one another at most. -/
inductive Whole : (depth : Nat) → Bytes → Prop
  | nil {depth : Nat} : Whole depth [0xC0]
  | bool {depth : Nat} (b : Bool) : Whole depth [if b then 0xC3 else 0xC2]
  | integer {depth : Nat} {i : Int} {bytes : Bytes} (value : IntegerSpelling i bytes) : Whole depth bytes
  | float {depth : Nat} {x : Binary64} {bytes : Bytes} (value : FloatSpelling x bytes) : Whole depth bytes
  | str {depth : Nat} {data bytes : Bytes} (value : Head.str.Counted data bytes) : Whole depth bytes
  | bin {depth : Nat} {data bytes : Bytes} (value : Head.bin.Counted data bytes) : Whole depth bytes
  | array {depth : Nat} {elements : List Bytes} {front : Bytes}
      (head : Head.array.Spelling elements.length front) (all : ∀ bytes ∈ elements, Whole depth bytes) :
      Whole (depth + 1) (front ++ elements.flatten)
  | map {depth : Nat} {entries : List (Bytes × Bytes)} {front : Bytes}
      (head : Head.map.Spelling entries.length front) (keys : ∀ entry ∈ entries, Whole depth entry.1)
      (values : ∀ entry ∈ entries, Whole depth entry.2) :
      Whole (depth + 1) (front ++ entries.flatMap fun entry => entry.1 ++ entry.2)

/-- The entries of a map with texts as keys. -/
inductive EntriesSpelling (spelled : α → Bytes → Prop) : List (String × α) → Bytes → Prop
  | nil : EntriesSpelling spelled [] []
  | cons {name : String} {value : α} {key bytes rest : Bytes} {entries : List (String × α)}
      (named : Head.str.Counted (Utf8.encode name) key) (held : spelled value bytes)
      (others : EntriesSpelling spelled entries rest) :
      EntriesSpelling spelled ((name, value) :: entries) (key ++ bytes ++ rest)

/-- A record with fields called `names`, of which `given` lists in order those that are there with the
    bytes of their values: a map in any order that may hold other fields too, or an array. -/
inductive RecordSpelling (names : List String) (depth : Nat) (given : List (String × Bytes)) :
    Bytes → Prop
  | map {entries others : List (String × Bytes)} {front back : Bytes}
      (order : entries.Perm (given ++ others))
      (unknown : ∀ entry ∈ others, entry.1 ∉ names ∧ Whole depth entry.2)
      (head : Head.map.Spelling entries.length front) (written : EntriesSpelling Eq entries back) :
      RecordSpelling names depth given (front ++ back)
  | array {front : Bytes} (head : Head.array.Spelling given.length front) :
      RecordSpelling names depth given (front ++ given.flatMap Prod.snd)

/-- A field that may be left out under a condition, as it is given. -/
inductive Omissible (name : String) (condition : Prop) (spelling : Bytes → Prop) :
    List (String × Bytes) → Prop
  | omitted (h : condition) : Omissible name condition spelling []
  | written {bytes : Bytes} (h : spelling bytes) : Omissible name condition spelling [(name, bytes)]

/-! ## Tokens -/

namespace Announces

/-- A marker and what it announces, by its byte. -/
theorem ofByte {b : UInt8} {tail : Bytes} {token : Token}
    (reads : Yields (readToken (Marker.ofByte b)) tail token) :
    Announces (b :: tail) (Marker.ofByte b) token :=
  ⟨by rw [Marker.toByte_ofByte], tail, by rw [Marker.toByte_ofByte], reads⟩

theorem word {b : UInt8} {w n : Nat} {token : Nat → Token} (fits : n < Nat.pow 256 w)
    (reads : readToken (Marker.ofByte b) = token <$> readUnsigned w) :
    Announces (b :: Bytes.bigEndian w n) (Marker.ofByte b) (token n) :=
  ofByte (reads ▸ (readUnsigned_yields fits).map token)

theorem measured {b : UInt8} {w : Nat} {data : Bytes} {token : Bytes → Token}
    (fits : data.length < Nat.pow 256 w)
    (reads : readToken (Marker.ofByte b) = (do token <$> readBytes .endInBytes (← readUnsigned w))) :
    Announces (b :: Bytes.bigEndian w data.length ++ data) (Marker.ofByte b) (token data) :=
  ofByte (reads ▸ (readUnsigned_yields fits).bind ((readBytes_yields .endInBytes data).map token))

end Announces

/-- What the heads announce that have the number in bytes of its own. -/
theorem readToken_wide {first : UInt8} {w : Nat} :
    ((first, w) ∈ Head.str.wide → readToken (Marker.ofByte first) =
      (do Token.str <$> readBytes .endInBytes (← readUnsigned w))) ∧
    ((first, w) ∈ Head.bin.wide → readToken (Marker.ofByte first) =
      (do Token.bin <$> readBytes .endInBytes (← readUnsigned w))) ∧
    ((first, w) ∈ Head.array.wide → readToken (Marker.ofByte first) = Token.array <$> readUnsigned w) ∧
    ((first, w) ∈ Head.map.wide → readToken (Marker.ofByte first) = Token.map <$> readUnsigned w) := by
  simp only [Head.str, Head.bin, Head.array, Head.map, List.mem_cons, Prod.mk.injEq, List.not_mem_nil,
    or_false]
  refine ⟨?_, ?_, ?_, ?_⟩
  · rintro (⟨rfl, rfl⟩ | ⟨rfl, rfl⟩ | ⟨rfl, rfl⟩) <;> rfl
  · rintro (⟨rfl, rfl⟩ | ⟨rfl, rfl⟩ | ⟨rfl, rfl⟩) <;> rfl
  · rintro (⟨rfl, rfl⟩ | ⟨rfl, rfl⟩) <;> rfl
  · rintro (⟨rfl, rfl⟩ | ⟨rfl, rfl⟩) <;> rfl

theorem announces_str {data bytes : Bytes} (h : Head.str.Counted data bytes) :
    ∃ marker, Announces bytes marker (.str data) := by
  cases h with
  | mk number =>
      cases number with
      | short small =>
          exact ⟨.fixStr data.length, ofByte_toByte_small.2.1 _ small, data, rfl,
            (readBytes_yields .endInBytes data).map Token.str⟩
      | wide listed fits => exact ⟨_, .measured fits (readToken_wide.1 listed)⟩

theorem announces_bin {data bytes : Bytes} (h : Head.bin.Counted data bytes) :
    ∃ marker, Announces bytes marker (.bin data) := by
  cases h with
  | mk number =>
      cases number with
      | short small => exact absurd small (Nat.not_lt_zero _)
      | wide listed fits => exact ⟨_, .measured fits (readToken_wide.2.1 listed)⟩

theorem announces_array {n : Nat} {bytes : Bytes} (h : Head.array.Spelling n bytes) :
    ∃ marker, Announces bytes marker (.array n) := by
  cases h with
  | short small =>
      have known : ∀ n < 16, Marker.ofByte (Marker.fixArray n).toByte = .fixArray n := by
        decide +kernel
      exact ⟨.fixArray n, .alone (known n small) rfl⟩
  | wide listed fits => exact ⟨_, .word fits (readToken_wide.2.2.1 listed)⟩

theorem announces_map {n : Nat} {bytes : Bytes} (h : Head.map.Spelling n bytes) :
    ∃ marker, Announces bytes marker (.map n) := by
  cases h with
  | short small => exact ⟨.fixMap n, .alone (ofByte_toByte_small.2.2.1 n small) rfl⟩
  | wide listed fits => exact ⟨_, .word fits (readToken_wide.2.2.2 listed)⟩

/-- A number in two's complement is the number that it was made from. -/
theorem signedOf_emod {w : Nat} {i : Int} (width : 0 < w)
    (least : -(Nat.pow 2 (8 * w - 1) : Int) ≤ i) (most : i < Nat.pow 2 (8 * w - 1)) :
    signedOf w (i % Nat.pow 2 (8 * w)).toNat = i := by
  have double := pow_width width
  rcases Int.lt_or_le i 0 with negative | nonnegative
  · have wrapped : i % (Nat.pow 2 (8 * w) : Int) = i + (Nat.pow 2 (8 * w) : Int) := by
      rw [← Int.add_emod_right, Int.emod_eq_of_lt] <;> omega
    rw [wrapped, signedOf_wrapped negative least width]
  · have small : i % (Nat.pow 2 (8 * w) : Int) = i := Int.emod_eq_of_lt nonnegative (by omega)
    rw [small, signedOf, if_pos (by omega), Int.toNat_of_nonneg nonnegative]

theorem Announces.signed {b : UInt8} {w : Nat} {i : Int} (width : 0 < w)
    (size : Nat.pow 2 (8 * w) = Nat.pow 256 w)
    (least : -(Nat.pow 2 (8 * w - 1) : Int) ≤ i) (most : i < Nat.pow 2 (8 * w - 1))
    (reads : readToken (Marker.ofByte b) = Token.signed <$> signedOf w <$> readUnsigned w) :
    Announces (b :: Bytes.bigEndian w (i % Nat.pow 256 w).toNat) (Marker.ofByte b) (.signed i) := by
  refine .ofByte ?_
  have room : 0 < Nat.pow 256 w := Nat.pow_pos (by decide)
  have word : (i % (Nat.pow 256 w : Int)).toNat < Nat.pow 256 w := by
    have := Int.emod_lt_of_pos i (Int.natCast_pos.mpr room)
    omega
  have read := ((readUnsigned_yields word).map (signedOf w)).map Token.signed
  have value := signedOf_emod width least most
  rw [size] at value
  rwa [value, ← reads] at read

/-- An integer is announced by a marker of a number, without a sign only if it is not negative. -/
theorem announces_spelling {i : Int} {bytes : Bytes} (h : IntegerSpelling i bytes) :
    ∃ marker token, Announces bytes marker token ∧ Format.isNumeric marker ∧
      (0 ≤ i ∧ token = .unsigned i.toNat ∨ token = .signed i) := by
  cases h with
  | positive least most =>
      have known := ofByte_toByte_small.1 i.toNat (by omega)
      exact ⟨.fixPos i.toNat, _, .alone known rfl, rfl, .inl ⟨least, rfl⟩⟩
  | negative least most =>
      have known := ofByte_toByte_small.2.2.2 (i + 32).toNat (by omega)
      have value : (((i + 32).toNat : Nat) : Int) - 32 = i := by omega
      have byte : 0xE0 + (i + 32).toNat = (i + 0x100).toNat := by omega
      have announced : Announces [(Marker.fixNeg (i + 32).toNat).toByte] _ _ := .alone known rfl
      rw [value, Marker.toByte, byte] at announced
      exact ⟨_, _, announced, rfl, .inr rfl⟩
  | @unsigned first w listed least most =>
      have word : i.toNat < Nat.pow 256 w := by omega
      simp only [List.mem_cons, Prod.mk.injEq, List.not_mem_nil, or_false] at listed
      rcases listed with ⟨rfl, rfl⟩ | ⟨rfl, rfl⟩ | ⟨rfl, rfl⟩ | ⟨rfl, rfl⟩
      all_goals exact ⟨_, .unsigned i.toNat, .word word rfl, rfl, .inl ⟨least, rfl⟩⟩
  | @signed first w listed least most =>
      simp only [List.mem_cons, Prod.mk.injEq, List.not_mem_nil, or_false] at listed
      rcases listed with ⟨rfl, rfl⟩ | ⟨rfl, rfl⟩ | ⟨rfl, rfl⟩ | ⟨rfl, rfl⟩
      all_goals
        exact ⟨_, .signed i, .signed (by decide) (by decide) least most rfl, rfl, .inr rfl⟩

theorem announces_boolSpelling (b : Bool) :
    ∃ marker, Announces [if b then 0xC3 else 0xC2] marker (.bool b) := by
  cases b
  · exact ⟨.false, rfl, [], rfl, .pure (Token.bool false)⟩
  · exact ⟨.true, rfl, [], rfl, .pure (Token.bool true)⟩

theorem announces_floatSpelling {x : Binary64} {bytes : Bytes} (h : FloatSpelling x bytes) :
    ∃ marker, Announces bytes marker (.float x) := by
  cases h with
  | double => exact ⟨.f64, announces_float x⟩
  | @single bits same =>
      have announced : Announces (Writer.marked .f32 4 bits.toNat) .f32
          (.float (Binary64.ofBinary32 (UInt32.ofNat bits.toNat))) :=
        .number (fun n => .float (Binary64.ofBinary32 (UInt32.ofNat n))) rfl rfl bits.toNat_lt
      rw [UInt32.ofNat_toNat, same] at announced
      exact ⟨.f32, announced⟩

/-! ## Scalars -/

namespace Format

/-- An integer of any spelling is read as a natural number that is small enough. -/
theorem natural_spelling {width n : Nat} (name : String) (fits : n < Nat.pow 2 width) {bytes : Bytes}
    (h : IntegerSpelling n bytes) (depth : Nat) : Yields ((natural width name).read depth) bytes n := by
  obtain ⟨marker, token, announced, numeric, found⟩ := announces_spelling h
  have accepts : naturalOfToken width name token = .ok n := by
    rcases found with ⟨-, rfl⟩ | rfl
    · simp only [naturalOfToken, Int.toNat_natCast, fits, if_true]
      rfl
    · have inside : (0 : Int) ≤ n ∧ (n : Int) < (Nat.pow 2 width : Nat) := by omega
      simp only [naturalOfToken, inside, Int.toNat_natCast]
      rfl
  rw [← List.append_nil bytes]
  apply announced.yields
  intro tail tokenYields
  -- The format looks at the marker first, and lets numbers pass.
  simp only [natural, numeric, if_true]
  exact tokenYields.bind (.lift accepts)

theorem uint16_spelling {n : UInt16} {bytes : Bytes} (h : IntegerSpelling n.toNat bytes) (depth : Nat) :
    Yields (uint16.read depth) bytes n := by
  have read := map_yields UInt16.ofNat (natural_spelling "u16" n.toNat_lt h depth)
  rwa [UInt16.ofNat_toNat] at read

theorem text_spelling {s : String} {bytes : Bytes} (h : Head.str.Counted (Utf8.encode s) bytes)
    (depth : Nat) : Yields (text.read depth) bytes s := by
  obtain ⟨marker, announced⟩ := announces_str h
  have accepts : textOfToken (.str (Utf8.encode s)) = .ok s := by
    simp only [textOfToken, Utf8.decode_encode]
    rfl
  exact scalar_yields announced rfl accepts depth

theorem bytes_spelling {data bytes : Bytes} (h : Head.bin.Counted data bytes) (depth : Nat) :
    Yields (Format.bytes.read depth) bytes data := by
  obtain ⟨marker, announced⟩ := announces_bin h
  rw [← List.append_nil bytes]
  exact ofToken_yields announced (enter_yields rfl) (.pure data)

end Format

/-! ## Values that are passed over -/

theorem times_yields {reader : Reader Unit} {elements : List Bytes}
    (h : ∀ bytes ∈ elements, Yields reader bytes ()) :
    Yields (times reader elements.length) elements.flatten () := by
  induction elements with
  | nil => exact .pure ()
  | cons first rest ih =>
      rw [List.flatten_cons]
      exact (h first List.mem_cons_self).bind fun more =>
        ih (fun bytes member => h bytes (List.mem_cons_of_mem _ member)) more

/-- A token that is no container is all there is to pass over. -/
theorem skip_scalar {bytes : Bytes} {marker : Marker} {token : Token}
    (announced : Announces bytes marker token) (scalar : token.isContainer = false) (depth : Nat) :
    Yields (skip depth) bytes () := by
  rw [← List.append_nil bytes]
  apply announced.yields
  intro tail tokenYields
  cases depth with
  | zero => exact tokenYields.bind ((enter_yields scalar).bind (.pure ()))
  | succ depth =>
      have nothing : skipContents (do skipFrom depth (← readMarker)) token = pure () := by
        cases token <;> first | rfl | cases scalar
      refine tokenYields.bind ?_
      rw [nothing]
      exact .pure ()

/-- A container is passed over with its contents, which may hold fewer containers. -/
theorem skip_container {front contents : Bytes} {marker : Marker} {token : Token} {depth : Nat}
    (announced : Announces front marker token)
    (inside : Yields (skipContents (skip depth) token) contents ()) :
    Yields (skip (depth + 1)) (front ++ contents) () := by
  apply announced.yields
  intro tail tokenYields
  exact tokenYields.bind inside

theorem skip_array {depth : Nat} {elements : List Bytes} {front : Bytes}
    (head : Head.array.Spelling elements.length front)
    (all : ∀ bytes ∈ elements, Yields (skip depth) bytes ()) :
    Yields (skip (depth + 1)) (front ++ elements.flatten) () := by
  obtain ⟨marker, announced⟩ := announces_array head
  exact skip_container announced (times_yields all)

theorem skip_map {depth : Nat} {entries : List (Bytes × Bytes)} {front : Bytes}
    (head : Head.map.Spelling entries.length front)
    (keys : ∀ entry ∈ entries, Yields (skip depth) entry.1 ())
    (values : ∀ entry ∈ entries, Yields (skip depth) entry.2 ()) :
    Yields (skip (depth + 1)) (front ++ entries.flatMap fun entry => entry.1 ++ entry.2) () := by
  obtain ⟨marker, announced⟩ := announces_map head
  refine skip_container announced ?_
  have each : ∀ bytes ∈ entries.flatMap fun entry => [entry.1, entry.2],
      Yields (skip depth) bytes () := by
    intro bytes member
    obtain ⟨entry, there, part⟩ := List.mem_flatMap.mp member
    simp only [List.mem_cons, List.not_mem_nil, or_false] at part
    rcases part with rfl | rfl
    · exact keys entry there
    · exact values entry there
  have all := times_yields each
  have count : (entries.flatMap fun entry => [entry.1, entry.2]).length = 2 * entries.length := by
    simp [List.length_flatMap, List.map_const', Nat.mul_comm]
  have contents : (entries.flatMap fun entry => [entry.1, entry.2]).flatten =
      entries.flatMap fun entry => entry.1 ++ entry.2 := by
    simp [List.flatten_eq_flatMap, List.flatMap_assoc]
  rwa [count, contents] at all

theorem skip_whole {depth : Nat} {bytes : Bytes} (h : Whole depth bytes) :
    Yields (skip depth) bytes () := by
  induction h with
  | nil =>
      have announced : Announces [0xC0] .null .nil := ⟨rfl, [], rfl, .pure Token.nil⟩
      exact skip_scalar announced rfl _
  | bool b =>
      obtain ⟨marker, announced⟩ := announces_boolSpelling b
      exact skip_scalar announced rfl _
  | integer value =>
      obtain ⟨marker, token, announced, -, found⟩ := announces_spelling value
      refine skip_scalar announced ?_ _
      rcases found with ⟨-, rfl⟩ | rfl <;> rfl
  | float value =>
      obtain ⟨marker, announced⟩ := announces_floatSpelling value
      exact skip_scalar announced rfl _
  | str value =>
      obtain ⟨marker, announced⟩ := announces_str value
      exact skip_scalar announced rfl _
  | bin value =>
      obtain ⟨marker, announced⟩ := announces_bin value
      exact skip_scalar announced rfl _
  | array head _ ih => exact skip_array head ih
  | map head _ _ keys values => exact skip_map head keys values

/-! ## Records -/

theorem Omissible.spelled {name other : String} {condition : Prop} {spelling : Bytes → Prop}
    {given : List (String × Bytes)} (h : Omissible name condition spelling given) {bytes : Bytes}
    (member : (other, bytes) ∈ given) : other = name ∧ spelling bytes := by
  cases h with
  | omitted => cases member
  | written spelled =>
      cases List.mem_singleton.mp member
      exact ⟨rfl, spelled⟩

/-- A field that is read into the draft of a record, whatever other fields were met before it. -/
structure Field.Drafts (field : Field σ) (depth : Nat) (given : List (String × Bytes))
    (draftOf : List String → σ) : Prop where
  fresh : ∀ {seen}, field.name ∉ seen → field.isSet (draftOf seen) = false
  reads : ∀ {bytes}, (field.name, bytes) ∈ given → ∀ {seen},
    Yields (readMarker >>= fun marker => field.fromMarker depth marker (draftOf seen)) bytes
      (draftOf (field.name :: seen))

theorem Field.Drafts.of {format : Format β} {name : String} {get : σ → Option β} {set : β → σ → σ}
    {mayEnd : Bool} {depth : Nat} {given : List (String × Bytes)} {draftOf : List String → σ} (value : β)
    (fresh : ∀ {seen}, name ∉ seen → get (draftOf seen) = none)
    (takes : ∀ {seen}, set value (draftOf seen) = draftOf (name :: seen))
    (spelled : ∀ {bytes}, (name, bytes) ∈ given → Yields (format.read depth) bytes value) :
    (Field.of name format get set mayEnd).Drafts depth given draftOf where
  fresh {seen} unseen := by
    simp only [Field.of] at unseen ⊢
    rw [fresh unseen]
    rfl
  reads {bytes} member {seen} := by
    have read := Field.of_yields name get set mayEnd (draftOf seen) (spelled member)
    rwa [takes] at read

namespace Record

variable {record : Record σ α} {depth : Nat} {given : List (String × Bytes)}
  {draftOf : List String → σ}

/-- What the draft of a record is once the fields of these names were met, for a record of which the
    fields `given` are there. Names of no field make no difference, nor does the order. -/
structure Drafts (record : Record σ α) (depth : Nat) (given : List (String × Bytes))
    (draftOf : List String → σ) : Prop where
  start : draftOf [] = record.start
  same : ∀ {seen seen'}, (∀ field ∈ record.fields, field.name ∈ seen ↔ field.name ∈ seen') →
    draftOf seen = draftOf seen'
  each : ∀ field ∈ record.fields, field.Drafts depth given draftOf
  /-- What is there comes first, and what is not may be left out. -/
  order : ∃ there omitted, record.fields = there ++ omitted ∧
    there.map Field.name = given.map Prod.fst ∧ ∀ field ∈ omitted, field.mayEnd = true
  distinct : (record.fields.map Field.name).Nodup

/-- An entry whose key names no field is passed over. -/
theorem readEntry_passed (record : Record σ α) {depth : Nat} {data key value : Bytes}
    (named : Head.str.Counted data key)
    (unknown : ∀ field ∈ record.fields, Utf8.encode field.name ≠ data)
    (passed : Yields (skip depth) value ()) (draft : σ) :
    Yields (record.readEntry depth draft) (key ++ value) draft := by
  obtain ⟨marker, announced⟩ := announces_str named
  have missing : record.fieldOfKey (.str data) = .ok none := by
    have none : record.fields.find? (fun field => Utf8.encode field.name == data) = none :=
      List.find?_eq_none.mpr fun field member same => unknown field member (beq_iff_eq.mp same)
    simp only [fieldOfKey, none]
    rfl
  have key := Format.scalar_yields announced rfl missing depth
  rw [← List.append_nil value]
  unfold Record.readEntry
  exact key.bind (passed.bind (.pure draft))

namespace Drafts

theorem given_mem (h : record.Drafts depth given draftOf) {name : String}
    (there : name ∈ given.map Prod.fst) : name ∈ record.fields.map Field.name := by
  obtain ⟨front, omitted, fields, names, -⟩ := h.order
  rw [fields, List.map_append, names]
  exact List.mem_append_left _ there

theorem given_nodup (h : record.Drafts depth given draftOf) : (given.map Prod.fst).Nodup := by
  obtain ⟨front, omitted, fields, names, -⟩ := h.order
  have distinct := h.distinct
  rw [fields, List.map_append, names] at distinct
  exact (List.nodup_append.mp distinct).1

/-- An entry of a map that is a given field is read into the draft, and another one is passed over. -/
theorem readEntry (h : record.Drafts depth given draftOf) {name : String} {key value : Bytes}
    (named : Head.str.Counted (Utf8.encode name) key) {seen : List String}
    (entry : (name, value) ∈ given ∧ name ∉ seen ∨
      name ∉ record.fields.map Field.name ∧ Whole depth value) :
    Yields (record.readEntry depth (draftOf seen)) (key ++ value) (draftOf (name :: seen)) := by
  rcases entry with ⟨there, unseen⟩ | ⟨unknown, whole⟩
  · obtain ⟨marker, announced⟩ := announces_str named
    obtain ⟨field, found⟩ : ∃ field, record.fields.find? (fun field => field.name == name) =
        some field := by
      obtain ⟨field, member, same⟩ := List.mem_map.mp (h.given_mem (List.mem_map_of_mem there))
      exact Option.isSome_iff_exists.mp (List.find?_isSome.mpr ⟨field, member, beq_iff_eq.mpr same⟩)
    have member := List.mem_of_find?_eq_some found
    obtain rfl : field.name = name := by simpa using List.find?_some found
    exact record.readEntry_announced field announced found ((h.each field member).fresh unseen)
      ((h.each field member).reads there)
  · have unchanged : draftOf seen = draftOf (name :: seen) := by
      refine h.same fun field member => ?_
      have other : field.name ≠ name := fun same =>
        unknown (List.mem_map.mpr ⟨field, member, same⟩)
      simp [other]
    have missing : ∀ field ∈ record.fields, Utf8.encode field.name ≠ Utf8.encode name := by
      intro field member same
      rw [← beq_iff_eq, encode_beq, beq_iff_eq] at same
      exact unknown (List.mem_map.mpr ⟨field, member, same⟩)
    rw [← unchanged]
    exact record.readEntry_passed named missing (skip_whole whole) (draftOf seen)

/-- Entries are read whatever their order, if no field comes twice. -/
theorem readEntries (h : record.Drafts depth given draftOf) {entries : List (String × Bytes)}
    {bytes : Bytes} (written : EntriesSpelling Eq entries bytes) {seen : List String}
    (known : ∀ entry ∈ entries, entry ∈ given ∧ entry.1 ∉ seen ∨
      entry.1 ∉ record.fields.map Field.name ∧ Whole depth entry.2)
    (once : entries.Pairwise fun a b => a.1 = b.1 → a.1 ∉ record.fields.map Field.name) :
    Yields (Format.readEntries (record.readEntry depth) entries.length (draftOf seen)) bytes
      (draftOf ((entries.map Prod.fst).reverse ++ seen)) := by
  induction written generalizing seen with
  | nil => exact .pure (draftOf seen)
  | @cons name value key bytes rest entries named held others ih =>
      subst held
      obtain ⟨apart, once⟩ := List.pairwise_cons.mp once
      have first := h.readEntry named (known _ List.mem_cons_self)
      have later : ∀ entry ∈ entries, entry ∈ given ∧ entry.1 ∉ name :: seen ∨
          entry.1 ∉ record.fields.map Field.name ∧ Whole depth entry.2 := by
        intro entry member
        rcases known entry (List.mem_cons_of_mem _ member) with ⟨there, unseen⟩ | unknown
        · refine .inl ⟨there, ?_⟩
          rw [List.mem_cons, not_or]
          refine ⟨fun same => ?_, unseen⟩
          have isField := h.given_mem (List.mem_map_of_mem (f := Prod.fst) there)
          exact apart entry member same.symm (same ▸ isField)
        · exact .inr unknown
      have names : (((name, value) :: entries).map Prod.fst).reverse ++ seen =
          (entries.map Prod.fst).reverse ++ name :: seen := by simp
      rw [names]
      exact Format.readEntries_yields first (ih later once)

/-- The elements of an array are read into the fields that come first. -/
theorem readElements (h : record.Drafts depth given draftOf) {there omitted : List (Field σ)}
    (fields : ∀ field ∈ there, field ∈ record.fields) (mayEnd : ∀ field ∈ omitted, field.mayEnd = true)
    {elements : List (String × Bytes)} (member : ∀ element ∈ elements, element ∈ given)
    (names : there.map Field.name = elements.map Prod.fst) (index : Nat) (seen : List String) :
    Yields (record.readElements depth index elements.length (there ++ omitted) (draftOf seen))
      (elements.flatMap Prod.snd) (draftOf ((elements.map Prod.fst).reverse ++ seen)) := by
  induction elements generalizing there index seen with
  | nil =>
      obtain rfl : there = [] := List.map_eq_nil_iff.mp names
      clear names fields
      induction omitted generalizing index with
      | nil => exact .pure (draftOf seen)
      | cons field rest ih =>
          have may : field.mayEnd = true := mayEnd field List.mem_cons_self
          simp only [List.nil_append, List.length_nil, Record.readElements, may, if_true]
          exact ih (fun other there => mayEnd other (List.mem_cons_of_mem _ there)) index
  | cons element rest ih =>
      obtain ⟨name, bytes⟩ := element
      cases there with
      | nil => cases names
      | cons field there =>
          obtain ⟨rfl, others⟩ := List.cons.inj names
          have value : Yields (readMarker >>= fun marker => field.fromMarker depth marker (draftOf seen))
              bytes (draftOf (field.name :: seen)) :=
            (h.each field (fields field List.mem_cons_self)).reads (member _ List.mem_cons_self)
          have later := ih (fun other there => fields other (List.mem_cons_of_mem _ there))
            (fun other there => member other (List.mem_cons_of_mem _ there)) others (index + 1)
            (field.name :: seen)
          have names : (((field.name, bytes) :: rest).map Prod.fst).reverse ++ seen =
              (rest.map Prod.fst).reverse ++ field.name :: seen := by simp
          rw [names, List.flatMap_cons]
          simp only [List.cons_append, List.length_cons, Record.readElements, ← bind_assoc]
          exact value.bind later

section
variable {entries others : List (String × Bytes)}

/-- In a map that spells a record, no field comes twice. -/
theorem once_of_perm (h : record.Drafts depth given draftOf) (order : entries.Perm (given ++ others))
    (unknown : ∀ entry ∈ others, entry.1 ∉ record.fields.map Field.name) :
    entries.Pairwise fun a b => a.1 = b.1 → a.1 ∉ record.fields.map Field.name := by
  refine (order.pairwise_iff fun {a b} differ same => ?_).mpr ?_
  · exact same ▸ differ same.symm
  refine List.pairwise_append.mpr ⟨?_, ?_, ?_⟩
  · exact (List.pairwise_map.mp h.given_nodup).imp fun differ same => absurd same differ
  · exact List.pairwise_iff_forall_sublist.mpr fun {a b} part _ =>
      unknown a (part.subset List.mem_cons_self)
  · exact fun a _ b other same => same ▸ unknown b other

/-- Whatever their order, and whatever other entries there are, the same fields make the same draft. -/
theorem draftOf_of_perm (h : record.Drafts depth given draftOf) (order : entries.Perm (given ++ others))
    (unknown : ∀ entry ∈ others, entry.1 ∉ record.fields.map Field.name) :
    draftOf (entries.map Prod.fst).reverse = draftOf (given.map Prod.fst).reverse := by
  refine h.same fun field member => ?_
  have known : field.name ∉ others.map Prod.fst := by
    intro there
    obtain ⟨entry, other, name⟩ := List.mem_map.mp there
    exact unknown entry other (name ▸ List.mem_map_of_mem member)
  rw [List.mem_reverse, List.mem_reverse, (order.map Prod.fst).mem_iff, List.map_append,
    List.mem_append, or_iff_left known]

end

/-- A record is read from whatever spells it, if the draft of its fields can be closed. -/
theorem format_yields (h : record.Drafts depth given draftOf) {names : List String}
    (named : record.fields.map Field.name = names) {bytes : Bytes}
    (spelled : RecordSpelling names depth given bytes) {a : α}
    (closes : record.close (draftOf (given.map Prod.fst).reverse) = .ok a) :
    Yields (record.format.read (depth + 1)) bytes a := by
  subst named
  cases spelled with
  | @map entries others front back order unknown head written =>
      obtain ⟨marker, announced⟩ := announces_map head
      have known : ∀ entry ∈ entries, entry ∈ given ∧ entry.1 ∉ ([] : List String) ∨
          entry.1 ∉ record.fields.map Field.name ∧ Whole depth entry.2 := by
        intro entry member
        rcases List.mem_append.mp (order.mem_iff.mp member) with there | other
        · exact .inl ⟨there, List.not_mem_nil⟩
        · exact .inr (unknown entry other)
      have foreign : ∀ entry ∈ others, entry.1 ∉ record.fields.map Field.name :=
        fun entry other => (unknown entry other).1
      have drafts := h.readEntries written known (h.once_of_perm order foreign)
      rw [h.start, List.append_nil, h.draftOf_of_perm order foreign] at drafts
      refine Format.ofToken_yields announced (enter_map_yields depth _) ?_
      rw [← List.append_nil back]
      exact drafts.bind (.lift closes)
  | array head =>
      obtain ⟨marker, announced⟩ := announces_array head
      obtain ⟨there, omitted, fields, names, mayEnd⟩ := h.order
      have member : ∀ field ∈ there, field ∈ record.fields := fun field inside =>
        fields ▸ List.mem_append_left omitted inside
      have drafts := h.readElements member mayEnd (fun _ inside => inside) names 0 []
      rw [h.start, List.append_nil, ← fields] at drafts
      refine Format.ofToken_yields announced (.pure depth) ?_
      rw [← List.append_nil (given.flatMap Prod.snd)]
      exact drafts.bind (.lift closes)

end Drafts

end Record

end TerminalAgent.MessagePack
