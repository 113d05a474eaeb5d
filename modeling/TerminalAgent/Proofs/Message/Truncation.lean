import TerminalAgent.Proofs.Message.RoundTrip
import TerminalAgent.Proofs.MessagePack.Truncation

/-! # Truncation is told apart from damage

Bytes that are no message are reported as cut off or as damaged. The second verdict, like a message that
was read, is final: no bytes that follow change it. And of a message that was written, every proper part
is reported as cut off.
-/

namespace TerminalAgent

open MessagePack

namespace Property

theorem format_settled : format.Settled := by
  refine Format.ofToken_settled (fun inner token => ?_) _
  cases ofToken? token with
  | some p => exact .pure p
  | none =>
      -- A value that is no scalar is passed over first, so a cut in it is seen.
      exact (skipContents_settled (skip_settled inner) token).bind fun _ => .throw noScalar

end Property

theorem propertiesFormat_settled : propertiesFormat.Settled := by
  refine Format.ofToken_settled (fun inner token => ?_) _
  cases token with
  | map n =>
      refine Format.readEntries_settled (fun props => ?_) n ∅
      exact (Format.text_settled.read inner).bind fun key =>
        (Property.format_settled.read inner).bind fun value => .pure _
  | nil | bool | unsigned | signed | float | str | bin | array | ext => exact .throw _

theorem Header.wire_settled : Header.wire.format.Settled := by
  apply Record.format_settled
  have proto : Format.uint16.Settled := (Format.natural_settled 16 "u16").map UInt16.ofNat
  simp only [wire, List.forall_mem_cons, List.not_mem_nil, false_imp_iff, implies_true, and_true]
  exact ⟨Field.of_settled proto _ _ _ _, Field.of_settled Format.text_settled _ _ _ _,
    Field.of_settled propertiesFormat_settled _ _ _ _⟩

namespace Message

theorem wire_settled : wire.format.Settled := by
  apply Record.format_settled
  simp only [wire, List.forall_mem_cons, List.not_mem_nil, false_imp_iff, implies_true, and_true]
  exact ⟨Field.of_settled Header.wire_settled _ _ _ _, Field.of_settled Format.bytes_settled _ _ _ _⟩

theorem decode_of_early {input : Bytes} {e : ReadError}
    (read : wire.format.read maxDepth input = .error e) (early : e.isTruncation = true) :
    decode input = .error (.truncated e.message) := by
  have refused : decode input = .error (ProtocolError.ofRead e) := by
    unfold decode Record.decode
    rw [read]
    rfl
  rw [refused, ProtocolError.ofRead, if_pos early]

/-- Bytes that are read, or are found to be damaged, stay so whatever follows them. -/
theorem decode_append (input more : Bytes) :
    decode (input ++ more) = decode input ∨ ∃ reason, decode input = .error (.truncated reason) := by
  have settled := wire_settled.read maxDepth
  cases read : wire.format.read maxDepth input with
  | ok result =>
      obtain ⟨m, rest⟩ := result
      refine .inl ?_
      unfold decode Record.decode
      rw [read, settled.accepted read more]
      rfl
  | error e =>
      cases early : e.isTruncation with
      | true => exact .inr ⟨e.message, decode_of_early read early⟩
      | false =>
          refine .inl ?_
          unfold decode Record.decode
          rw [read, settled.refused read early more]

theorem decode_part {m : Message} (fits : m.Fits) {front : Bytes} (part : front <+: m.encode)
    (proper : front ≠ m.encode) : ∃ reason, decode front = .error (.truncated reason) := by
  obtain ⟨e, read, early⟩ :=
    (wire_settled.read maxDepth).truncated (wire_yields fits) part proper
  exact ⟨e.message, decode_of_early read early⟩

/-- Every proper part of the front of a written message, even the empty one, is reported as truncated,
    and no other verdict is ever changed by bytes that follow. That the message fits means that its
    lengths are words of 32 bits, as every length on the wire is. -/
theorem decode_tells_truncation :
    (∀ {m : Message}, m.Fits → ∀ {front : Bytes}, front <+: m.encode → front ≠ m.encode →
      ∃ reason, decode front = .error (.truncated reason)) ∧
    ∀ input more : Bytes, decode (input ++ more) = decode input ∨
      ∃ reason, decode input = .error (.truncated reason) :=
  ⟨decode_part, decode_append⟩

/-- A message that is cut inside the number that a property holds. -/
theorem decode_tells_truncation_nested :
    let message := ((Message.new Proto.shell "shell").withProperty "ratio"
      (.float ⟨0x7FF8000000000001⟩)).withBody [0, 0xC1]
    let front := message.encode.take 40
    message.Fits ∧ front <+: message.encode ∧ front ≠ message.encode ∧
      ∃ reason, decode front = .error (.truncated reason) := by
  intro message front
  have fits : message.Fits :=
    ⟨⟨by decide, ⟨by decide, by decide, by decide⟩⟩, by decide⟩
  have part : front <+: message.encode := List.take_prefix 40 message.encode
  have proper : front ≠ message.encode := by decide
  exact ⟨fits, part, proper, decode_tells_truncation.1 fits part proper⟩

end Message

end TerminalAgent
