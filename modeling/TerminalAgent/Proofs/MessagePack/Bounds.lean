import TerminalAgent.MessagePack.Record

/-! # Lengths that are read

Every length on the wire is a word of 32 bits at most. So whatever is read as a byte string can be
written again.
-/

namespace TerminalAgent

namespace Bytes

theorem ofLittleEndian_lt (bytes : Bytes) : ofLittleEndian bytes < Nat.pow 256 bytes.length := by
  induction bytes with
  | nil => decide
  | cons b rest ih =>
      have byte := b.toNat_lt
      simp only [Nat.pow_eq] at ih
      simp only [ofLittleEndian, List.length_cons, Nat.pow_eq, Nat.pow_succ]
      omega

theorem ofBigEndian_lt (bytes : Bytes) : ofBigEndian bytes < Nat.pow 256 bytes.length := by
  simpa [ofBigEndian] using ofLittleEndian_lt bytes.reverse

end Bytes

namespace MessagePack

/-- Whatever the reader gives has the property. -/
def Gives (reader : Reader α) (P : α → Prop) : Prop :=
  ∀ input a rest, reader input = .ok (a, rest) → P a

namespace Gives

variable {P : α → Prop} {Q : β → Prop}

theorem pure {a : α} (h : P a) : Gives (Pure.pure a) P := by
  rintro input _ rest ⟨⟩
  exact h

theorem throw (e : ReadError) : Gives (MonadExcept.throw e : Reader α) P := by
  rintro input a rest ⟨⟩

theorem bind {first : Reader α} {next : α → Reader β} (h : Gives first P)
    (h' : ∀ {a}, P a → Gives (next a) Q) : Gives (first >>= next) Q := by
  intro input b rest read
  simp only [Bind.bind, StateT.bind, Except.bind] at read
  split at read
  next => cases read
  next between done => exact h' (h _ _ _ done) _ _ _ read

theorem map {reader : Reader α} {f : α → β} (h : Gives reader P) (h' : ∀ {a}, P a → Q (f a)) :
    Gives (f <$> reader) Q := by
  rw [map_eq_pure_bind]
  exact h.bind fun known => pure (h' known)

theorem any (reader : Reader α) : Gives reader fun _ => True := fun _ _ _ _ => trivial

theorem lift {outcome : Except ReadError α} (h : ∀ {a}, outcome = .ok a → P a) :
    Gives (liftM outcome : Reader α) P := by
  intro input a rest read
  cases outcome with
  | error e => cases read
  | ok b =>
      cases read
      exact h rfl

end Gives

/-! ## Tokens -/

theorem readBytes_gives (fault : ReadError) (n : Nat) :
    Gives (readBytes fault n) fun bytes => bytes.length = n := by
  intro input bytes rest read
  unfold readBytes at read
  split at read
  next parts found =>
    cases read
    exact (Bytes.split?_eq_some found).2
  next => cases read

theorem readUnsigned_gives (w : Nat) : Gives (readUnsigned w) fun n => n < Nat.pow 256 w := by
  refine (readBytes_gives .endInNumber w).map fun {bytes} length => ?_
  rw [← length]
  exact Bytes.ofBigEndian_lt bytes

/-- The length in a marker, if there is one, is below a byte. -/
def Marker.Short : Marker → Prop
  | .fixStr n | .fixArray n => n < 0x100
  | _ => True

instance : DecidablePred Marker.Short := fun marker => by
  unfold Marker.Short
  split <;> infer_instance

theorem Marker.short_ofByte (b : UInt8) : (ofByte b).Short := by
  have all : ∀ n : Fin 256, (ofByte (UInt8.ofNat n)).Short := by decide +kernel
  simpa using all ⟨b.toNat, b.toNat_lt⟩

theorem readMarker_gives : Gives readMarker Marker.Short := by
  intro input marker rest read
  unfold readMarker at read
  split at read
  next => cases read
  next b bytes =>
    cases read
    exact Marker.short_ofByte b

/-- The length of a byte string or of an array is a word of 32 bits. -/
def Token.Short : Token → Prop
  | .str bytes | .bin bytes => bytes.length < 0x100000000
  | .array n => n < 0x100000000
  | _ => True

/-- Bytes that follow a length of `w` bytes. -/
theorem counted_gives {w : Nat} (word : Nat.pow 256 w ≤ 0x100000000) :
    Gives (do readBytes .endInBytes (← readUnsigned w)) fun bytes => bytes.length < 0x100000000 :=
  (readUnsigned_gives w).bind fun {n} small input bytes rest read => by
    rw [readBytes_gives .endInBytes n input bytes rest read]
    exact Nat.lt_of_lt_of_le small word

theorem readToken_gives {marker : Marker} (short : marker.Short) :
    Gives (readToken marker) Token.Short := by
  have counted {w : Nat} (word : Nat.pow 256 w ≤ 0x100000000) {token : Bytes → Token}
      (known : ∀ {bytes : Bytes}, bytes.length < 0x100000000 → (token bytes).Short) :
      Gives (do token <$> readBytes .endInBytes (← readUnsigned w)) Token.Short := by
    have read := Gives.map (counted_gives word) known
    simpa only [map_eq_pure_bind, bind_assoc] using read
  cases marker with
  | fixStr n =>
      refine (readBytes_gives .endInBytes n).map fun {bytes} length => ?_
      have small : n < 0x100 := short
      simp only [Token.Short]
      omega
  | fixArray n =>
      have small : n < 0x100 := short
      exact .pure (show n < 0x100000000 by omega)
  | str8 | str16 | str32 | bin8 | bin16 | bin32 => exact counted (by decide) id
  | array16 | array32 =>
      exact (readUnsigned_gives _).map fun small => Nat.lt_of_lt_of_le small (by decide)
  | fixPos | fixNeg | fixMap | fixExt | null | false | true => exact .pure trivial
  | u8 | u16 | u32 | u64 | i8 | i16 | i32 | i64 | map16 | map32 | ext8 | ext16 | ext32 =>
      exact (Gives.any _).map fun _ => trivial
  | f32 | f64 => exact (Gives.any _).bind fun _ => .pure trivial
  | reserved => exact .throw _

/-! ## Byte strings -/

namespace Format

theorem readMany_gives (format : Format α) (depth n : Nat) (before : List α) :
    Gives (format.readMany depth n before) fun all => all.length = before.length + n := by
  induction n generalizing before with
  | zero => exact .pure (by simp)
  | succ n ih =>
      refine (Gives.any _).bind fun {a} _ input all rest read => ?_
      rw [ih (a :: before) input all rest read, List.length_cons]
      omega

theorem bytes_gives {marker : Marker} (short : marker.Short) (depth : Nat) :
    Gives (bytes.fromMarker depth marker) fun data => data.length < 0x100000000 := by
  refine (readToken_gives short).bind fun {token} known => (Gives.any _).bind fun {inner} _ => ?_
  cases token with
  | bin data | str data => exact .pure known
  | array n =>
      intro input data rest read
      rw [readMany_gives uint8 inner n [] input data rest read]
      have length : n < 0x100000000 := known
      simpa using length
  | nil | bool | unsigned | signed | float | map | ext => exact .throw _

theorem readEntries_gives {entry : σ → Reader σ} {P : σ → Prop}
    (keeps : ∀ {a}, P a → Gives (entry a) P) (n : Nat) {start : σ} (h : P start) :
    Gives (readEntries entry n start) P := by
  induction n generalizing start with
  | zero => exact .pure h
  | succ n ih => exact (keeps h).bind ih

end Format

/-! ## Records -/

/-- Whatever is read into the field leaves the draft with the property. -/
structure Field.Keeps (field : Field σ) (P : σ → Prop) : Prop where
  fromMarker : ∀ {marker : Marker}, marker.Short → ∀ {draft}, P draft → ∀ depth,
    Gives (field.fromMarker depth marker draft) P
  fromByte : ∀ {draft}, P draft → ∀ {b draft'}, field.fromByte b draft = .ok draft' → P draft'

theorem Field.keeps_of {format : Format β} {name : String} {get : σ → Option β} {set : β → σ → σ}
    {mayEnd : Bool} {P : σ → Prop} (Q : β → Prop)
    (reads : ∀ {marker : Marker}, marker.Short → ∀ depth, Gives (format.fromMarker depth marker) Q)
    (takes : ∀ {b a}, format.fromByte b = .ok a → Q a)
    (sets : ∀ {a draft}, Q a → P draft → P (set a draft)) :
    (Field.of name format get set mayEnd).Keeps P where
  fromMarker short _ known depth := (reads short depth).bind fun read => .pure (sets read known)
  fromByte known b draft' taken := by
    simp only [Field.of, bind, Except.bind] at taken
    split at taken
    next => cases taken
    next a found =>
      cases taken
      exact sets (takes found) known

namespace Record

/-- A key names a field of the record, or none. -/
theorem key_gives (record : Record σ α) (depth : Nat) :
    Gives ((Format.scalar record.fieldOfKey).read depth)
      fun found => ∀ field ∈ found, field ∈ record.fields := by
  refine (Gives.any _).bind fun {marker} _ => (Gives.any _).bind fun {token} _ =>
    (Gives.any _).bind fun _ => .lift fun {found} decoded => ?_
  intro field member
  obtain rfl : found = some field := member
  unfold fieldOfKey at decoded
  split at decoded
  next => exact List.mem_of_getElem? (Except.ok.inj decoded)
  next => exact List.mem_of_find?_eq_some (Except.ok.inj decoded)
  next => exact List.mem_of_find?_eq_some (Except.ok.inj decoded)
  next => cases decoded

variable {record : Record σ α} {P : σ → Prop}

/-- Reading the record leaves its draft with the property. -/
structure Keeps (record : Record σ α) (P : σ → Prop) : Prop where
  start : P record.start
  fields : ∀ field ∈ record.fields, field.Keeps P

namespace Keeps

theorem readEntry (h : record.Keeps P) (depth : Nat) {draft : σ} (known : P draft) :
    Gives (record.readEntry depth draft) P := by
  refine (key_gives record depth).bind fun {found} member => ?_
  cases found with
  | none => exact (Gives.any _).bind fun _ => .pure known
  | some field =>
      have read : Gives (do field.fromMarker depth (← readMarker) draft) P :=
        readMarker_gives.bind fun short => (h.fields field (member field rfl)).fromMarker short known depth
      dsimp only
      split
      next => exact (Gives.any _).bind fun _ => read
      next => exact read

theorem readElements (h : record.Keeps P) (depth : Nat) {fields : List (Field σ)}
    (member : ∀ field ∈ fields, field ∈ record.fields) (index left : Nat) {draft : σ}
    (known : P draft) : Gives (record.readElements depth index left fields draft) P := by
  induction fields generalizing index left draft with
  | nil =>
      cases left with
      | zero => exact .pure known
      | succ left => exact .throw _
  | cons field fields ih =>
      have others : ∀ other ∈ fields, other ∈ record.fields := fun other there =>
        member other (List.mem_cons_of_mem _ there)
      cases left with
      | zero =>
          simp only [Record.readElements]
          split
          next => exact ih others index 0 known
          next => exact .throw _
      | succ left =>
          refine readMarker_gives.bind fun {marker} short => ?_
          refine Gives.bind ?_ fun {draft'} known' => ih others (index + 1) left known'
          exact (h.fields field (member field List.mem_cons_self)).fromMarker short known depth

theorem fieldsOfBytes (h : record.Keeps P) {fields : List (Field σ)}
    (member : ∀ field ∈ fields, field ∈ record.fields) {index : Nat} {bytes : Bytes}
    {draft draft' : σ} (known : P draft)
    (done : record.fieldsOfBytes index bytes fields draft = .ok draft') : P draft' := by
  induction fields generalizing index bytes draft with
  | nil =>
      cases done
      exact known
  | cons field fields ih =>
      have others : ∀ other ∈ fields, other ∈ record.fields := fun other there =>
        member other (List.mem_cons_of_mem _ there)
      cases bytes with
      | nil =>
          simp only [Record.fieldsOfBytes] at done
          split at done
          next => exact ih others known done
          next => cases done
      | cons b bytes =>
          simp only [Record.fieldsOfBytes, bind, Except.bind] at done
          split at done
          next => cases done
          next between taken =>
            have field := h.fields field (member field List.mem_cons_self)
            exact ih others (field.fromByte known taken) done

/-- A record is closed from a draft with the property. -/
theorem decode (h : record.Keeps P) {input : Bytes} {a : α} (decoded : record.decode input = .ok a) :
    ∃ draft, P draft ∧ record.close draft = .ok a := by
  have closes {reader : Reader σ} (drafts : Gives reader P) :
      Gives (do record.close (← reader)) fun a => ∃ draft, P draft ∧ record.close draft = .ok a :=
    drafts.bind fun {draft} known => .lift fun closed => ⟨draft, known, closed⟩
  have fields (depth : Nat) (token : Token) : Gives (record.readFields depth token)
      fun a => ∃ draft, P draft ∧ record.close draft = .ok a := by
    cases token with
    | map n => exact closes (Format.readEntries_gives (h.readEntry depth) n h.start)
    | array n => exact closes (h.readElements depth (fun _ member => member) 0 n h.start)
    | bin bytes =>
        have taken : Gives (liftM (record.fieldsOfBytes 0 bytes record.fields record.start)) P :=
          .lift fun done => h.fieldsOfBytes (fun _ member => member) h.start done
        exact closes taken
    | nil | bool | unsigned | signed | float | str | ext => exact .throw _
  have read : Gives (record.format.read maxDepth)
      fun a => ∃ draft, P draft ∧ record.close draft = .ok a :=
    (Gives.any _).bind fun _ => (Gives.any _).bind fun _ => (Gives.any _).bind fun _ => fields _ _
  unfold Record.decode at decoded
  cases done : record.format.read maxDepth input with
  | error e =>
      rw [done] at decoded
      cases decoded
  | ok result =>
      rw [done] at decoded
      cases decoded
      exact read input result.1 result.2 done

end Keeps

end Record

end MessagePack

end TerminalAgent
