import TerminalAgent.Session.Output

/-!
# Reading along

Output as somebody reads it who waits for a certain text: piece by piece up to the end of that text, the
rest being kept for later.
-/

namespace TerminalAgent.Transcript

/-- Whether bytes begin with others. -/
def startsWith : Bytes → Bytes → Bool
  | _, [] => true
  | byte :: rest, first :: front => byte = first && startsWith rest front
  | [], _ :: _ => false

/-- The bytes up to the end of the first place where `needle` is found, and what follows it. `seen` is
    what stands in front of them, backwards. -/
def splitFrom (needle : Bytes) : (seen : Bytes) → Bytes → Option (Bytes × Bytes)
  | seen, [] => if needle.isEmpty then some (seen.reverse, []) else none
  | seen, byte :: rest =>
      if startsWith (byte :: rest) needle then
        some (seen.reverse ++ needle, (byte :: rest).drop needle.length)
      else splitFrom needle (byte :: seen) rest

/-- The bytes up to the end of the first place where `needle` is found, and what follows it. -/
def splitAfter (needle bytes : Bytes) : Option (Bytes × Bytes) :=
  splitFrom needle [] bytes

/-- What was read along. -/
structure Passage where
  shown : Bytes
  /-- The echo mode of the last piece. -/
  echo : EchoMode
  rest : List Output

/-- Cuts so many bytes off the front. -/
def take : (count : Nat) → (shown : Bytes) → EchoMode → List Output → Passage
  | _, shown, echo, [] => ⟨shown, echo, []⟩
  | count, shown, echo, output :: rest =>
      if count = 0 then ⟨shown, echo, output :: rest⟩
      else if count < output.data.length then
        ⟨shown ++ output.data.take count, output.echo, { output with data := output.data.drop count } :: rest⟩
      else take (count - output.data.length) (shown ++ output.data) output.echo rest

/-- Reads up to the end of the first place where `needle` is found, or else all there is. Before the
    first piece, the echo mode was `echo`. -/
def readUntil (needle : Bytes) (echo : EchoMode) (outputs : List Output) : Passage :=
  let all := outputs.flatMap (·.data)
  match splitAfter needle all with
  | some (front, _) => take front.length [] echo outputs
  | none => take all.length [] echo outputs

end TerminalAgent.Transcript
