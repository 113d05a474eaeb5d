import TerminalAgent.Proofs.Frame.Headers
import TerminalAgent.Proofs.Frame.Portions

/-! # Every byte is accounted for

Whatever the input holds, asking for one frame after the other comes to an end: the frames are followed
by one error at most, and then by nothing. The input splits into the bytes of the frames, each of them
read alone as it is read in its place, and a rest, which is what the error is about.
-/

namespace TerminalAgent.Frame

variable {compression : Compression}

/-! ## Asking for frames -/

/-- Asks for the next frame: the answer, and what is left of the input. An error leaves nothing. -/
def next (input : Bytes) : Option (Except ProtocolError Frame) × Bytes :=
  match input with
  | [] => (none, [])
  | _ :: _ =>
      match decode input with
      | .ok (frame, size) => (some (.ok frame), input.drop size)
      | .error e => (some (.error e), [])

/-- The answers to so many calls in a row. -/
def answers : (calls : Nat) → Bytes → List (Option (Except ProtocolError Frame))
  | 0, _ => []
  | calls + 1, input => (next input).1 :: answers calls (next input).2

theorem next_of_frame {input : Bytes} {frame : Frame} {size : Nat}
    (read : decode input = .ok (frame, size)) : next input = (some (.ok frame), input.drop size) := by
  cases input with
  | nil => cases read
  | cons b input => simp only [next, read]

theorem next_of_error {input : Bytes} {e : ProtocolError} (more : input ≠ [])
    (read : decode input = .error e) : next input = (some (.error e), []) := by
  cases input with
  | nil => exact absurd rfl more
  | cons b input => simp only [next, read]

theorem answers_nil (calls : Nat) : answers calls [] = List.replicate calls none := by
  induction calls with
  | zero => rfl
  | succ calls ih =>
      rw [List.replicate_succ, ← ih]
      rfl

/-! ## One frame -/

/-- The bytes of a frame that was read are read alone, too. -/
theorem exists_part {input : Bytes} {frame : Frame} {size : Nat}
    (read : decode input = .ok (frame, size)) :
    ∃ part rest, input = part ++ rest ∧ headerSize ≤ part.length ∧
      tryDecode part = .ok (some (frame, part.length)) := by
  obtain ⟨flags, body, rest, rfl, -, fits, stands⟩ := tryDecodeWith_eq_some (tryDecode_of_decode read)
  refine ⟨frameBytes flags body, rest, rfl, ?_, ?_⟩
  · rw [length_frameBytes]
    exact Nat.le_add_right _ _
  · have alone : tryDecode (frameBytes flags body ++ []) = _ := tryDecodeWith_frameBytes fits []
    rw [List.append_nil, stands] at alone
    exact alone

theorem decode_part {part : Bytes} {frame : Frame}
    (read : tryDecode part = .ok (some (frame, part.length))) (rest : Bytes) :
    decode (part ++ rest) = .ok (frame, part.length) := by
  have told : tryDecode part ≠ .ok none := by
    rw [read]
    nofun
  have whole : tryDecode (part ++ rest) = tryDecode part := tryDecodeWith_append told rest
  simp only [decode, whole, read, bind, Except.bind]
  rfl

theorem readPrefix_error {input : Bytes} {e : ProtocolError} (refused : readPrefix input = .error e)
    (reason : String) : e ≠ .truncated reason := by
  unfold readPrefix at refused
  dsimp only at refused
  split at refused
  next => cases refused; nofun
  next =>
    split at refused
    next => cases refused
    next =>
      split at refused
      next => cases refused; nofun
      next => cases refused

/-- That the input is too short is no error of its own. -/
theorem tryDecodeWith_error {input : Bytes} {e : ProtocolError}
    (refused : tryDecodeWith compression input = .error e) (reason : String) :
    e ≠ .truncated reason := by
  unfold tryDecodeWith at refused
  cases header : readPrefix input with
  | error e =>
      rw [header] at refused
      cases refused
      exact readPrefix_error header reason
  | ok length =>
      simp only [header, bind, Except.bind] at refused
      cases length with
      | none => cases refused
      | some n =>
          dsimp only at refused
          split at refused
          next => cases refused
          next =>
            split at refused
            next => cases refused; nofun
            next flags body _ =>
              cases stands : ofBody compression flags body with
              | error e =>
                  rw [stands] at refused
                  cases refused
                  obtain ⟨reason, rfl⟩ := ofBody_error stands
                  nofun
              | ok frame =>
                  rw [stands] at refused
                  cases refused

/-- An error tells that the input is a part of a frame, or what is wrong with it. -/
theorem decode_error {input : Bytes} {e : ProtocolError} (refused : decode input = .error e) :
    ((∃ reason, e = .truncated reason) ↔ tryDecode input = .ok none) ∧
      (tryDecode input ≠ .ok none → tryDecode input = .error e) := by
  unfold decode at refused
  cases found : tryDecode input with
  | error own =>
      rw [found] at refused
      cases refused
      refine ⟨⟨?_, nofun⟩, fun _ => rfl⟩
      rintro ⟨reason, same⟩
      exact absurd same (tryDecodeWith_error found reason)
  | ok decoded =>
      rw [found] at refused
      cases decoded with
      | some decoded => cases refused
      | none =>
          cases refused
          exact ⟨⟨fun _ => rfl, fun _ => ⟨_, rfl⟩⟩, fun told => absurd rfl told⟩

/-! ## All frames -/

/-- The input consists of frames, with the bytes of each, and of a rest that is none, with the fault
    that is found with it. -/
inductive Divides : (input : Bytes) → (parts : List (Frame × Bytes)) → (rest : Bytes) →
    (fault : Option ProtocolError) → Prop
  | ended : Divides [] [] [] none
  | refused {rest : Bytes} {e : ProtocolError} (more : rest ≠ []) (fails : decode rest = .error e) :
      Divides rest [] rest (some e)
  | frame {frame : Frame} {part input rest : Bytes} {parts : List (Frame × Bytes)}
      {fault : Option ProtocolError} (long : headerSize ≤ part.length)
      (read : tryDecode part = .ok (some (frame, part.length)))
      (others : Divides input parts rest fault) :
      Divides (part ++ input) ((frame, part) :: parts) rest fault

theorem exists_divides (input : Bytes) : ∃ parts rest fault, Divides input parts rest fault := by
  -- Every frame takes its header at least.
  induction size : input.length using Nat.strongRecOn generalizing input with
  | ind n ih =>
      by_cases more : input = []
      · subst more
        exact ⟨_, _, _, .ended⟩
      · cases read : decode input with
        | error e => exact ⟨_, _, _, .refused more read⟩
        | ok decoded =>
            obtain ⟨part, others, rfl, long, read⟩ := exists_part read
            have shorter : others.length < n := by
              rw [← size, List.length_append]
              simp only [headerSize] at long
              omega
            obtain ⟨parts, rest, fault, divides⟩ := ih _ shorter others rfl
            exact ⟨_, _, _, .frame long read divides⟩

namespace Divides

variable {input rest : Bytes} {parts : List (Frame × Bytes)} {fault : Option ProtocolError}

theorem whole (divides : Divides input parts rest fault) : input = parts.flatMap Prod.snd ++ rest := by
  induction divides with
  | ended => rfl
  | refused => rfl
  | frame _ _ _ ih => rw [List.flatMap_cons, List.append_assoc, ← ih]

theorem each (divides : Divides input parts rest fault) : ∀ part ∈ parts,
    headerSize ≤ part.2.length ∧ tryDecode part.2 = .ok (some (part.1, part.2.length)) := by
  induction divides with
  | ended => exact nofun
  | refused => exact nofun
  | frame long read _ ih =>
      intro part member
      cases member with
      | head => exact ⟨long, read⟩
      | tail _ member => exact ih part member

theorem rest_cases (divides : Divides input parts rest fault) :
    rest = [] ∧ fault = none ∨ rest ≠ [] ∧ ∃ e, fault = some e ∧ decode rest = .error e := by
  induction divides with
  | ended => exact .inl ⟨rfl, rfl⟩
  | refused more fails => exact .inr ⟨more, _, rfl, fails⟩
  | frame _ _ _ ih => exact ih

theorem readAll (divides : Divides input parts rest fault) :
    readAll input = (parts.map Prod.fst, fault) := by
  induction divides with
  | ended => rfl
  | refused more fails => exact readAll_of_error more fails
  | frame long read _ ih =>
      rw [readAll_of_frame (decode_part read _), List.drop_left, ih]
      rfl

theorem answers (divides : Divides input parts rest fault) (calls : Nat) :
    answers (parts.length + fault.toList.length + calls) input =
      parts.map (fun part => some (.ok part.1)) ++ fault.toList.map (fun e => some (.error e)) ++
        List.replicate calls none := by
  induction divides with
  | ended =>
      rw [show [].length + none.toList.length + calls = calls from Nat.zero_add calls]
      exact answers_nil calls
  | @refused rest e more fails =>
      have one : ([] : List (Frame × Bytes)).length + (some e).toList.length + calls = calls + 1 :=
        Nat.add_comm ..
      rw [one, Frame.answers, next_of_error more fails, answers_nil]
      rfl
  | @frame frame part input rest parts fault long read _ ih =>
      have more : ((frame, part) :: parts).length + fault.toList.length + calls =
          parts.length + fault.toList.length + calls + 1 := by
        rw [List.length_cons]
        omega
      rw [more, Frame.answers, next_of_frame (decode_part read _), List.drop_left, ih]
      rfl

end Divides

/-- What reading frame after frame makes of the input. -/
structure Account (input : Bytes) (parts : List (Frame × Bytes)) (rest : Bytes)
    (fault : Option ProtocolError) : Prop where
  whole : input = parts.flatMap Prod.snd ++ rest
  each : ∀ part ∈ parts,
    headerSize ≤ part.2.length ∧ tryDecode part.2 = .ok (some (part.1, part.2.length))
  ended : rest = [] ↔ fault = none
  torn : ∀ e, fault = some e → ((∃ reason, e = .truncated reason) ↔ tryDecode rest = .ok none)
  damaged : ∀ e, fault = some e → tryDecode rest ≠ .ok none → tryDecode rest = .error e
  /-- The frames are answered with, then the fault, and nothing ever after. -/
  answers : ∀ calls, answers (parts.length + fault.toList.length + calls) input =
    parts.map (fun part => some (.ok part.1)) ++ fault.toList.map (fun e => some (.error e)) ++
      List.replicate calls none
  readAll : readAll input = (parts.map Prod.fst, fault)

/-- Of every input each byte is in a frame that was read or in the rest, which is empty unless there
    was an error, and the error is the one that is found with the rest. -/
theorem exists_account (input : Bytes) : ∃ parts rest fault, Account input parts rest fault := by
  obtain ⟨parts, rest, fault, divides⟩ := exists_divides input
  refine ⟨parts, rest, fault, ?_⟩
  constructor
  case whole => exact divides.whole
  case each => exact divides.each
  case answers => exact divides.answers
  case readAll => exact divides.readAll
  case ended =>
    rcases divides.rest_cases with ⟨rfl, rfl⟩ | ⟨more, e, rfl, -⟩
    · exact ⟨fun _ => rfl, fun _ => rfl⟩
    · exact ⟨fun nothing => absurd nothing more, nofun⟩
  case torn =>
    rintro e rfl
    rcases divides.rest_cases with ⟨-, ⟨⟩⟩ | ⟨-, _, ⟨⟩, fails⟩
    exact (decode_error fails).1
  case damaged =>
    rintro e rfl
    rcases divides.rest_cases with ⟨-, ⟨⟩⟩ | ⟨-, _, ⟨⟩, fails⟩
    exact (decode_error fails).2

/-- Two frames, one of them without a payload, and then the front of a third one. -/
example : (readAll (frameBytes 0 [0x61] ++ frameBytes 0xFE [] ++ [0x44, 0x54])) =
    ([⟨0, [0x61]⟩, ⟨0xFE, []⟩], some (.truncated "incomplete frame: have 2 bytes")) := by
  decide +kernel

end TerminalAgent.Frame
