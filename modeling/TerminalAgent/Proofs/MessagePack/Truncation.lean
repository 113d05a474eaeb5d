import TerminalAgent.Proofs.MessagePack.Bounds
import TerminalAgent.Proofs.MessagePack.Reading

/-! # More input

A reader that is `Settled` gives the same verdict on a longer input, unless the verdict was that the
input ends too early. Every reader of values is settled, because each step takes bytes off the front and
looks no further. So a proper part of what a reader takes can only end too early for it.
-/

namespace TerminalAgent

namespace MessagePack

/-- More input changes no verdict but the one that the input ends too early. -/
structure Settled (reader : Reader α) : Prop where
  accepted : ∀ {input a rest}, reader input = .ok (a, rest) →
    ∀ more, reader (input ++ more) = .ok (a, rest ++ more)
  refused : ∀ {input e}, reader input = .error e → e.isTruncation = false →
    ∀ more, reader (input ++ more) = .error e

namespace Settled

theorem pure (a : α) : Settled (Pure.pure a : Reader α) where
  accepted := by
    rintro input _ rest ⟨⟩ more
    rfl
  refused := nofun

theorem throw (e : ReadError) : Settled (MonadExcept.throw e : Reader α) where
  accepted := nofun
  refused := by
    rintro input _ ⟨⟩ - more
    rfl

theorem lift (outcome : Except ReadError α) : Settled (liftM outcome : Reader α) := by
  cases outcome with
  | ok a => exact pure a
  | error e => exact throw e

/-- The next reader need only be settled for what the first one can give. -/
theorem bindGiven {first : Reader α} {next : α → Reader β} {P : α → Prop} (h : Settled first)
    (gives : Gives first P) (h' : ∀ {a}, P a → Settled (next a)) : Settled (first >>= next) where
  accepted := by
    intro input b rest read more
    simp only [Bind.bind, StateT.bind, Except.bind] at read ⊢
    split at read
    next => cases read
    next between taken =>
      rw [h.accepted taken more]
      exact (h' (gives _ _ _ taken)).accepted read more
  refused := by
    intro input e read whole more
    simp only [Bind.bind, StateT.bind, Except.bind] at read ⊢
    split at read
    next fault missed =>
      cases read
      rw [h.refused missed whole more]
    next between taken =>
      rw [h.accepted taken more]
      exact (h' (gives _ _ _ taken)).refused read whole more

theorem bind {first : Reader α} {next : α → Reader β} (h : Settled first)
    (h' : ∀ a, Settled (next a)) : Settled (first >>= next) :=
  h.bindGiven (.any first) fun _ => h' _

theorem map {reader : Reader α} (f : α → β) (h : Settled reader) : Settled (f <$> reader) := by
  rw [map_eq_pure_bind]
  exact h.bind fun a => pure (f a)

/-- A proper part of what a reader takes ends too early for it. -/
theorem truncated {reader : Reader α} (h : Settled reader) {bytes front : Bytes} {a : α}
    (reads : Yields reader bytes a) (part : front <+: bytes) (proper : front ≠ bytes) :
    ∃ e, reader front = .error e ∧ e.isTruncation = true := by
  obtain ⟨more, rfl⟩ := part
  have whole : reader (front ++ more) = .ok (a, []) := by
    simpa only [List.append_nil] using reads []
  cases read : reader front with
  | ok result =>
      obtain ⟨b, rest⟩ := result
      have longer := h.accepted read more
      rw [whole, Except.ok.injEq, Prod.mk.injEq] at longer
      have none : more = [] := (List.append_eq_nil_iff.mp longer.2.symm).2
      exact absurd (by rw [none, List.append_nil]) proper
  | error e =>
      refine ⟨e, rfl, ?_⟩
      cases early : e.isTruncation with
      | true => rfl
      | false =>
          rw [h.refused read early more] at whole
          cases whole

end Settled

/-! ## Tokens -/

theorem readMarker_settled : Settled readMarker where
  accepted := by
    intro input marker rest read more
    cases input with
    | nil => cases read
    | cons b bytes =>
        cases read
        rfl
  refused := by
    intro input e read whole
    cases input with
    | nil =>
        cases read
        cases whole
    | cons b bytes => cases read

theorem readBytes_settled {fault : ReadError} (early : fault.isTruncation = true) (n : Nat) :
    Settled (readBytes fault n) where
  accepted := by
    intro input bytes rest read more
    unfold readBytes at read ⊢
    split at read
    next parts found =>
      cases read
      rw [Bytes.split?_more found]
      rfl
    next => cases read
  refused := by
    intro input e read whole
    unfold readBytes at read
    split at read
    next => cases read
    next =>
      cases read
      rw [early] at whole
      cases whole

theorem readUnsigned_settled (w : Nat) : Settled (readUnsigned w) :=
  (readBytes_settled rfl w).map Bytes.ofBigEndian

theorem readToken_settled (marker : Marker) : Settled (readToken marker) := by
  have number {w : Nat} (token : Nat → Token) : Settled (token <$> readUnsigned w) :=
    (readUnsigned_settled w).map token
  have counted {w : Nat} (token : Bytes → Token) :
      Settled (do token <$> readBytes .endInBytes (← readUnsigned w)) :=
    (readUnsigned_settled w).bind fun n => (readBytes_settled rfl n).map token
  cases marker with
  | fixPos | fixNeg | fixMap | fixArray | fixExt | null | false | true => exact .pure _
  | u8 | u16 | u32 | u64 | array16 | array32 | map16 | map32 | ext8 | ext16 | ext32 => exact number _
  | i8 | i16 | i32 | i64 => exact ((readUnsigned_settled _).map (signedOf _)).map Token.signed
  | f32 | f64 => exact (readUnsigned_settled _).bind fun _ => .pure _
  | fixStr n => exact (readBytes_settled rfl n).map Token.str
  | str8 | str16 | str32 | bin8 | bin16 | bin32 => exact counted _
  | reserved => exact .throw _

theorem enter_settled (depth : Nat) (token : Token) : Settled (enter depth token) := by
  unfold enter
  split
  next =>
    cases depth with
    | zero => exact .throw _
    | succ depth => exact .pure _
  next => exact .pure _

/-! ## Passing over values -/

theorem times_settled {reader : Reader Unit} (h : Settled reader) (n : Nat) :
    Settled (times reader n) := by
  induction n with
  | zero => exact .pure _
  | succ n ih => exact h.bind fun _ => ih

theorem skipContents_settled {element : Reader Unit} (h : Settled element) (token : Token) :
    Settled (skipContents element token) := by
  cases token with
  | array n | map n => exact times_settled h _
  | ext n => exact (readUnsigned_settled 1).bind fun _ => (readBytes_settled rfl n).bind fun _ => .pure _
  | nil | bool | unsigned | signed | float | str | bin => exact .pure _

theorem skipFrom_settled (depth : Nat) (marker : Marker) : Settled (skipFrom depth marker) := by
  induction depth generalizing marker with
  | zero =>
      exact (readToken_settled marker).bind fun token => (enter_settled 0 token).bind fun _ => .pure _
  | succ depth ih =>
      exact (readToken_settled marker).bind (skipContents_settled (readMarker_settled.bind ih))

theorem skip_settled (depth : Nat) : Settled (skip depth) :=
  readMarker_settled.bind (skipFrom_settled depth)

/-! ## Formats -/

namespace Format

/-- More input changes nothing about a value that a marker begins. -/
def Settled (format : Format α) : Prop :=
  ∀ depth marker, MessagePack.Settled (format.fromMarker depth marker)

theorem Settled.read {format : Format α} (h : format.Settled) (depth : Nat) :
    MessagePack.Settled (format.read depth) :=
  readMarker_settled.bind (h depth)

theorem Settled.map {format : Format α} (h : format.Settled) (f : α → β) : (format.map f).Settled :=
  fun depth marker => (h depth marker).map f

theorem ofToken_settled {f : Nat → Token → Reader α} (h : ∀ inner token, MessagePack.Settled (f inner token))
    (scalar : Token → Except ReadError α) : (ofToken f scalar).Settled := fun depth marker =>
  (readToken_settled marker).bind fun token => (enter_settled depth token).bind fun inner => h inner token

theorem scalar_settled (f : Token → Except ReadError α) : (scalar f).Settled :=
  ofToken_settled (fun _ token => .lift (f token)) f

theorem natural_settled (width : Nat) (name : String) : (natural width name).Settled := by
  intro depth marker
  -- A marker that begins no number is refused whatever follows.
  simp only [natural]
  split
  next => exact (readToken_settled marker).bind fun token => .lift _
  next => exact .throw _

theorem text_settled : text.Settled := scalar_settled textOfToken

theorem readMany_settled {format : Format α} (h : format.Settled) (depth n : Nat) (before : List α) :
    MessagePack.Settled (format.readMany depth n before) := by
  induction n generalizing before with
  | zero => exact .pure _
  | succ n ih => exact (h.read depth).bind fun a => ih (a :: before)

theorem bytes_settled : bytes.Settled := by
  refine ofToken_settled (fun inner token => ?_) _
  cases token with
  | bin | str => exact .pure _
  | array n => exact readMany_settled ((natural_settled 8 "u8").map UInt8.ofNat) inner n []
  | nil | bool | unsigned | signed | float | map | ext => exact .throw _

theorem readEntries_settled {entry : σ → Reader σ} (h : ∀ acc, MessagePack.Settled (entry acc)) (n : Nat)
    (start : σ) : MessagePack.Settled (readEntries entry n start) := by
  induction n generalizing start with
  | zero => exact .pure _
  | succ n ih => exact (h start).bind ih

end Format

/-! ## Records -/

/-- More input changes nothing about a field that a marker begins. -/
def Field.Settled (field : Field σ) : Prop :=
  ∀ depth marker draft, MessagePack.Settled (field.fromMarker depth marker draft)

theorem Field.of_settled {format : Format α} (h : format.Settled) (name : String) (get : σ → Option α)
    (set : α → σ → σ) (mayEnd : Bool) : (Field.of name format get set mayEnd).Settled :=
  fun depth marker draft => (h depth marker).bind fun a => .pure (set a draft)

namespace Record

variable {record : Record σ α}

theorem readEntry_settled (h : ∀ field ∈ record.fields, field.Settled) (depth : Nat) (draft : σ) :
    Settled (record.readEntry depth draft) := by
  have key := (Format.scalar_settled record.fieldOfKey).read depth
  refine key.bindGiven (key_gives record depth) fun {found} member => ?_
  cases found with
  | none => exact (skip_settled depth).bind fun _ => .pure draft
  | some field =>
      have value : Settled (do field.fromMarker depth (← readMarker) draft) :=
        readMarker_settled.bind fun marker => h field (member field rfl) depth marker draft
      dsimp only
      split
      next => exact (Settled.throw _).bind fun _ => value
      next => exact value

theorem readElements_settled {fields : List (Field σ)} (h : ∀ field ∈ fields, field.Settled)
    (depth index left : Nat) (draft : σ) :
    Settled (record.readElements depth index left fields draft) := by
  induction fields generalizing index left draft with
  | nil =>
      cases left with
      | zero => exact .pure draft
      | succ left => exact .throw _
  | cons field fields ih =>
      have others : ∀ other ∈ fields, other.Settled := fun other there =>
        h other (List.mem_cons_of_mem _ there)
      cases left with
      | zero =>
          simp only [readElements]
          split
          next => exact ih others index 0 draft
          next => exact .throw _
      | succ left =>
          have value : Settled (do field.fromMarker depth (← readMarker) draft) :=
            readMarker_settled.bind fun marker => h field List.mem_cons_self depth marker draft
          simp only [readElements, ← bind_assoc]
          exact value.bind fun draft => ih others (index + 1) left draft

/-- A record is settled if its fields are. -/
theorem format_settled (h : ∀ field ∈ record.fields, field.Settled) : record.format.Settled := by
  have closes {reader : Reader σ} (drafts : Settled reader) :
      Settled (do record.close (← reader)) := drafts.bind fun draft => .lift (record.close draft)
  refine Format.ofToken_settled (fun inner token => ?_) _
  cases token with
  | map n => exact closes (Format.readEntries_settled (readEntry_settled h inner) n record.start)
  | array n => exact closes (readElements_settled h inner 0 n record.start)
  | bin bytes => exact closes (.lift (record.fieldsOfBytes 0 bytes record.fields record.start))
  | nil | bool | unsigned | signed | float | str | ext => exact .throw _

end Record

end MessagePack

end TerminalAgent
