import TerminalAgent.Message.ErrorBody
import TerminalAgent.Proofs.MessagePack.Reading

/-! # Bodies of error replies are read back

What an error body says of its request is left out where it is not known, and what is left out is read
as not known.
-/

namespace TerminalAgent

open MessagePack

namespace MessagePack

theorem Announces.notNull {bytes : Bytes} {marker : Marker} {token : Token}
    (h : Announces bytes marker token) (some_ : token ≠ .nil) : marker ≠ .null := by
  rintro rfl
  obtain ⟨tail, -, yields⟩ := h.split
  have read : Except.ok (token, []) = .ok (Token.nil, tail ++ []) := (yields []).symm.trans rfl
  exact some_ (congrArg Prod.fst (Except.ok.inj read))

/-- What is there is read as such, if it does not begin like what is not there. -/
theorem Format.optional_contents_yields {format : Format α} {depth : Nat} {front contents : Bytes} {a : α}
    {marker : Marker} {token : Token} (announced : Announces front marker token)
    (some_ : token ≠ .nil) (h : Yields (format.read depth) (front ++ contents) a) :
    Yields ((optional format).read depth) (front ++ contents) (some a) := by
  have notNull := announced.notNull some_
  obtain ⟨tail, rfl, -⟩ := announced.split
  have begins := readMarker_yields announced.known
  have behind : Yields (format.fromMarker depth marker) (tail ++ contents) a := by
    intro rest
    have marked : readMarker (marker.toByte :: (tail ++ contents ++ rest)) =
        .ok (marker, tail ++ contents ++ rest) := begins (tail ++ contents ++ rest)
    have read := h rest
    simp only [Format.read, bind, StateT.bind, Except.bind, List.cons_append, marked] at read
    exact read
  have read : Yields ((optional format).fromMarker depth marker) (tail ++ contents) (some a) := by
    simp only [optional, if_neg notNull]
    exact behind.map some
  exact begins.bind read

theorem Format.optional_yields {format : Format α} {depth : Nat} {bytes : Bytes} {a : α}
    {marker : Marker} {token : Token} (announced : Announces bytes marker token)
    (some_ : token ≠ .nil) (h : Yields (format.read depth) bytes a) :
    Yields ((optional format).read depth) bytes (some a) := by
  rw [← List.append_nil bytes] at h ⊢
  exact optional_contents_yields announced some_ h

end MessagePack

namespace ErrorBody

/-- The texts are short enough for the wire. -/
structure Fits (body : ErrorBody) : Prop where
  err : (Utf8.encode body.err).length < 0x100000000
  typ : ∀ typ ∈ body.typ, (Utf8.encode typ).length < 0x100000000

theorem proto_yields (proto : UInt16) (depth : Nat) :
    Yields ((Format.optional .uint16).read depth) (Writer.natural proto.toNat) (some proto) := by
  have small : proto.toNat < 0x10000000000000000 := Nat.lt_trans proto.toNat_lt (by decide)
  obtain ⟨marker, announced, -⟩ := announces_natural small
  exact Format.optional_yields announced nofun (Format.uint16_yields proto depth)

theorem typ_yields {typ : String} (short : (Utf8.encode typ).length < 0x100000000) (depth : Nat) :
    Yields ((Format.optional .text).read depth) (Writer.text typ) (some typ) := by
  obtain ⟨marker, announced, -⟩ := announces_text short
  exact Format.optional_yields announced nofun (Format.text_yields short depth)

theorem wire_yields {body : ErrorBody} (fits : body.Fits) :
    Yields (wire.format.read maxDepth) body.encode body := by
  obtain ⟨err, proto, typ⟩ := body
  have errEntry : Yields (wire.readEntry 1022 wire.start) (Writer.text "err" ++ Writer.text err)
      ⟨some err, none, none⟩ :=
    wire.readEntry_yields _ (by decide) rfl rfl
      (Field.of_yields _ _ _ _ _ (Format.text_yields fits.err _))
  have protoEntry (proto : UInt16) : Yields (wire.readEntry 1022 ⟨some err, none, none⟩)
      (Writer.text "msgproto" ++ Writer.natural proto.toNat) ⟨some err, some (some proto), none⟩ :=
    wire.readEntry_yields _ (by decide) rfl rfl (Field.of_yields _ _ _ _ _ (proto_yields proto _))
  have typEntry (proto : Option (Option UInt16)) {typ : String}
      (short : (Utf8.encode typ).length < 0x100000000) :
      Yields (wire.readEntry 1022 ⟨some err, proto, none⟩)
        (Writer.text "msgtype" ++ Writer.text typ) ⟨some err, proto, some (some typ)⟩ :=
    wire.readEntry_yields _ (by decide) rfl rfl (Field.of_yields _ _ _ _ _ (typ_yields short _))
  unfold encode Writer.record
  cases proto with
  | none =>
      cases typ with
      | none =>
          exact wire.format_yields (show 1 < 0x100000000 by decide)
            (Format.readEntries_yields errEntry (.pure _)) rfl
      | some typ =>
          exact wire.format_yields (show 2 < 0x100000000 by decide)
            (Format.readEntries_yields errEntry
              (Format.readEntries_yields (typEntry none (fits.typ typ rfl)) (.pure _))) rfl
  | some proto =>
      cases typ with
      | none =>
          exact wire.format_yields (show 2 < 0x100000000 by decide)
            (Format.readEntries_yields errEntry
              (Format.readEntries_yields (protoEntry proto) (.pure _))) rfl
      | some typ =>
          exact wire.format_yields (show 3 < 0x100000000 by decide)
            (Format.readEntries_yields errEntry (Format.readEntries_yields (protoEntry proto)
              (Format.readEntries_yields (typEntry _ (fits.typ typ rfl)) (.pure _)))) rfl

/-- An error body is read back from its bytes. -/
theorem decode_encode {body : ErrorBody} (fits : body.Fits) : decode body.encode = .ok body := by
  have read := Record.decode_of_yields (wire_yields fits) []
  rw [List.append_nil] at read
  simp only [decode, read]
  rfl

end ErrorBody

end TerminalAgent
