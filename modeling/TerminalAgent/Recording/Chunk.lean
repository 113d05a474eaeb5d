import TerminalAgent.MessagePack.Record
import TerminalAgent.MessagePack.Writer

/-!
# Recorded chunks

A recording keeps the output of a session in chunks, each with its number, its time and the echo
mode that was on. A chunk on disk is a record of these.
-/

namespace TerminalAgent

open MessagePack

/-- Whether the terminal shows what is typed. -/
inductive EchoMode where
  | enabled
  | disabled
  deriving Repr, DecidableEq

namespace EchoMode

def word : EchoMode → String
  | enabled => "enabled"
  | disabled => "disabled"

/-- The format of an echo mode. -/
def format : Format EchoMode :=
  (Format.choice "EchoMode" [enabled.word, disabled.word]).map fun i =>
    if i = 0 then enabled else disabled

end EchoMode

/-- A piece of output of a session. -/
structure Chunk where
  /-- Position in the recording, from 0. -/
  seq : UInt64
  /-- Milliseconds since the recording began. -/
  atMs : UInt64
  echo : EchoMode
  data : Bytes
  deriving Repr, DecidableEq

namespace Chunk

/-- What is known of a chunk while it is read. -/
structure Draft where
  seq : Option UInt64 := none
  atMs : Option UInt64 := none
  echo : Option EchoMode := none
  data : Option Bytes := none

/-- A chunk on disk. -/
def wire : Record Draft Chunk where
  name := "RecordedChunk"
  fields := [
    .of "seq" .uint64 Draft.seq (fun seq draft => { draft with seq }) false,
    .of "at_ms" .uint64 Draft.atMs (fun atMs draft => { draft with atMs }) false,
    .of "echo" EchoMode.format Draft.echo (fun echo draft => { draft with echo }) false,
    .of "data" .bytes Draft.data (fun data draft => { draft with data }) false]
  start := {}
  close draft :=
    match draft.seq, draft.atMs, draft.echo, draft.data with
    | none, _, _, _ => throw (.missingField "seq")
    | _, none, _, _ => throw (.missingField "at_ms")
    | _, _, none, _ => throw (.missingField "echo")
    | _, _, _, none => throw (.missingField "data")
    | some seq, some atMs, some echo, some data => pure ⟨seq, atMs, echo, data⟩

/-- The bytes of a chunk. -/
def encode (chunk : Chunk) : Bytes :=
  Writer.record [
    ("seq", Writer.natural chunk.seq.toNat),
    ("at_ms", Writer.natural chunk.atMs.toNat),
    ("echo", Writer.text chunk.echo.word),
    ("data", Writer.binary chunk.data)]

def decode (input : Bytes) : Except ReadError Chunk :=
  wire.decode input

end Chunk

end TerminalAgent
