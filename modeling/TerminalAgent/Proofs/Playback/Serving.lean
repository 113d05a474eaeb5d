import TerminalAgent.Connection.WebSocket
import TerminalAgent.Proofs.Message.ErrorBody
import TerminalAgent.Proofs.Message.RoundTrip
import TerminalAgent.Proofs.MessagePack.Bounds
import TerminalAgent.Proofs.Playback.Streaming
import TerminalAgent.Proofs.Playback.Targets
import TerminalAgent.Proofs.Recording.Interchange
import TerminalAgent.Proofs.Router.Replies

/-! # What a viewer gets

A viewer of a recording gets one message for each chunk, and reads the data of the chunk in it. A viewer
of anything else gets one message that says why there is nothing to see.
-/

namespace TerminalAgent

open MessagePack
open RecordingStore (Request askAll)

/-! ## Lengths -/

/-- The data of a chunk that is read is short enough to be sent. -/
theorem Chunk.data_short {input : Bytes} {chunk : Chunk} (decoded : decode input = .ok chunk) :
    chunk.data.length < 0x100000000 := by
  have keeps : wire.Keeps fun draft => ∀ data ∈ draft.data, data.length < 0x100000000 := by
    refine ⟨nofun, fun field member => ?_⟩
    have others {β : Type} {format : Format β} {name : String} {get : Draft → Option β}
        {set : β → Draft → Draft} (same : ∀ b draft, (set b draft).data = draft.data) :
        (Field.of name format get set false).Keeps fun draft =>
          ∀ data ∈ draft.data, data.length < 0x100000000 :=
      Field.keeps_of (fun _ => True) (fun _ _ => Gives.any _) (fun _ => trivial)
        fun {b draft} _ known => by rwa [same b draft]
    simp only [wire, List.mem_cons, List.not_mem_nil, or_false] at member
    obtain rfl | rfl | rfl | rfl := member
    · exact others fun _ _ => rfl
    · exact others fun _ _ => rfl
    · exact others fun _ _ => rfl
    · refine Field.keeps_of (fun data => data.length < 0x100000000)
        (fun short => Format.bytes_gives short) nofun ?_
      rintro data draft short - _ ⟨⟩
      exact short
  obtain ⟨draft, short, closed⟩ := keeps.decode decoded
  obtain ⟨seq, atMs, echo, data⟩ := draft
  cases seq <;> cases atMs <;> cases echo <;> cases data <;> cases closed
  exact short _ rfl

theorem Log.data_short {input : Bytes} {chunks : List Chunk} (decoded : decode input = .ok chunks) :
    ∀ chunk ∈ chunks, chunk.data.length < 0x100000000 := by
  have all {frames : List Frame} {before chunks : List Chunk}
      (known : ∀ chunk ∈ before, chunk.data.length < 0x100000000)
      (read : chunksOf frames before = .ok chunks) :
      ∀ chunk ∈ chunks, chunk.data.length < 0x100000000 := by
    induction frames generalizing before with
    | nil =>
        cases read
        simpa using known
    | cons frame frames ih =>
        simp only [chunksOf] at read
        split at read
        next chunk found =>
          refine ih (fun other member => ?_) read
          obtain rfl | there := List.mem_cons.mp member
          · exact Chunk.data_short found
          · exact known other there
        next => cases read
  simp only [decode, bind, Except.bind] at decoded
  split at decoded
  next => cases decoded
  next read =>
    have short := all (by simp) read
    split at decoded <;> cases decoded <;> exact short

/-! ## Messages -/

namespace Playback

theorem fits_chunkMessage {id : String} (idShort : id.utf8ByteSize < 0x100000000) {chunk : Chunk}
    (short : chunk.data.length < 0x100000000) : (chunkMessage id chunk).Fits :=
  Message.fits_of_entries (some id) Status.normal.word rfl
    (show (Utf8.encode Kind.shell).length < 0x100000000 by decide)
    (by simpa [Property.Fits, Utf8.length_encode] using idShort) (by decide) short

/-- What the body of an error says. -/
def errorBody (error : PlaybackError) : ErrorBody := ⟨error.message, some Proto.shell, some Kind.error⟩

theorem length_errorBody_le (error : PlaybackError) :
    (errorBody error).encode.length ≤ error.message.utf8ByteSize + 64 := by
  have head (n : Nat) : (Writer.strHead n).length ≤ 5 := by
    unfold Writer.strHead Writer.marked
    split_ifs <;> simp
  have rest : (Writer.text "err").length = 4 ∧ (Writer.text "msgproto").length = 9 ∧
      (Writer.text "msgtype").length = 8 ∧ (Writer.text Kind.error).length = 6 ∧
      (Writer.natural Proto.shell.toNat).length = 1 ∧ (Writer.mapHead 3).length = 1 := by decide
  have err : (Writer.text error.message).length ≤ error.message.utf8ByteSize + 5 := by
    have := head (Utf8.encode error.message).length
    rw [Writer.text, List.length_append, Utf8.length_encode] at *
    omega
  have shape : (errorBody error).encode = Writer.mapHead 3 ++
      (Writer.text "err" ++ Writer.text error.message ++
        (Writer.text "msgproto" ++ Writer.natural Proto.shell.toNat ++
          (Writer.text "msgtype" ++ Writer.text Kind.error ++ []))) := rfl
  simp only [shape, List.length_append, List.length_nil, rest]
  omega

theorem fits_errorMessage {id : String} (idShort : id.utf8ByteSize < 0x100000000)
    {error : PlaybackError} (short : error.message.utf8ByteSize < 0xFFFFFF00) :
    (errorMessage id error).Fits := by
  have body := length_errorBody_le error
  exact Message.fits_of_entries (some id) Status.error.word rfl
    (show (Utf8.encode Kind.error).length < 0x100000000 by decide)
    (by simpa [Property.Fits, Utf8.length_encode] using idShort) (by decide)
    (show (errorBody error).encode.length < 0x100000000 by omega)

theorem decode_errorBody {error : PlaybackError} (short : error.message.utf8ByteSize < 0xFFFFFF00) :
    ErrorBody.decode (errorBody error).encode = .ok (errorBody error) := by
  have err : (Utf8.encode error.message).length < 0x100000000 := by
    rw [Utf8.length_encode]
    omega
  refine ErrorBody.decode_encode ⟨err, ?_⟩
  rintro _ ⟨⟩
  decide

theorem utf8ByteSize_notFound (id : String) :
    (PlaybackError.notFound id).message.utf8ByteSize = 19 + id.utf8ByteSize := by
  have front : "session not found: ".utf8ByteSize = 19 := by decide
  rw [← front]
  exact String.utf8ByteSize_append

theorem utf8ByteSize_corrupt (reason : String) :
    (PlaybackError.store (.corrupt reason)).message.utf8ByteSize = 49 + reason.utf8ByteSize := by
  have front : ("recording store error: " ++ "recording log is corrupt: ").utf8ByteSize = 49 := by
    decide
  rw [← front, ← String.utf8ByteSize_append]
  exact congrArg String.utf8ByteSize String.append_assoc.symm

theorem message_ne_empty (error : PlaybackError) : error.message ≠ "" := by
  cases error with
  | notFound id => exact append_ne_empty (by decide) id
  | store error => exact append_ne_empty (by decide) error.message
  | server reason => exact append_ne_empty (by decide) reason

end Playback

/-! ## Stores in memory -/

namespace MemoryStore

/-- Nothing is kept under what is no key. -/
def Keyed (store : MemoryStore) : Prop :=
  ∀ {key recording}, store.recordings.get? key = some recording → RecordingKey.isValid key = true

theorem Keyed.update {store : MemoryStore} (h : store.Keyed) {key : String} {before : Recording}
    (there : store.recordings.get? key = some before) (after : Recording) :
    Keyed ⟨store.recordings.insert key after⟩ := by
  intro other recording found
  rw [SortedMap.get?_insert] at found
  split at found
  next same => exact same ▸ h there
  next => exact h found

theorem openRecording_eq_ok {store : MemoryStore} {key : String} {recording : Recording}
    (found : store.openRecording key = .ok recording) :
    store.recordings.get? key = some recording := by
  unfold openRecording at found
  split at found
  next => cases found
  next there =>
    split at found <;> cases found
    exact there

theorem Keyed.create {store store' : MemoryStore} (h : store.Keyed) {key : String}
    (created : store.create key = .ok store') : store'.Keyed := by
  unfold MemoryStore.create at created
  split at created
  next => cases created
  next valid =>
    split at created <;> cases created
    intro other recording found
    rw [SortedMap.get?_insert] at found
    split at found
    next same => exact same ▸ (by simpa using valid)
    next => exact h found

theorem Keyed.append {store store' : MemoryStore} (h : store.Keyed) {key : String} {bytes : Bytes}
    (appended : store.append key bytes = .ok store') : store'.Keyed := by
  simp only [MemoryStore.append, bind, Except.bind] at appended
  split at appended
  next => cases appended
  next recording found =>
    cases appended
    exact h.update (openRecording_eq_ok found) _

theorem Keyed.sealRecording {store store' : MemoryStore} (h : store.Keyed) {key : String}
    (done : store.sealRecording key = .ok store') : store'.Keyed := by
  simp only [MemoryStore.sealRecording, bind, Except.bind] at done
  split at done
  next => cases done
  next recording found =>
    cases done
    exact h.update (openRecording_eq_ok found) _

theorem Keyed.settle {store : MemoryStore} (h : store.Keyed) {outcome : Except StoreError MemoryStore}
    (next : ∀ {store'}, outcome = .ok store' → store'.Keyed) :
    (StoreError.settle store outcome).2.Keyed := by
  cases outcome with
  | error => exact h
  | ok store' => exact next rfl

theorem Keyed.ask {store : MemoryStore} (h : store.Keyed) (request : Request) :
    (MemoryStore.ask request store).2.Keyed := by
  cases request with
  | read | list => exact h
  | create key => exact h.settle h.create
  | append key bytes => exact h.settle h.append
  | sealRecording key => exact h.settle h.sealRecording

theorem Keyed.askAll {store : MemoryStore} (h : store.Keyed) (requests : List Request) :
    (askAll MemoryStore.ask requests store).Keyed := by
  induction requests generalizing store with
  | nil => exact h
  | cons request rest ih => exact ih (h.ask request)

theorem keyed_empty : empty.Keyed := by
  intro key recording found
  cases found

end MemoryStore

namespace Playback

/-- There is nothing to play back under an id. -/
inductive Unplayable (store : MemoryStore) (id : String) : Prop
  | unknown (missing : store.recordings.get? id = none)
  | unsealed {bytes : Bytes} (held : store.recordings.get? id = some ⟨bytes, false⟩)
  | invalid (noKey : RecordingKey.isValid id = false)
  | corrupt {bytes : Bytes} {reason : String} (kept : store.recordings.get? id = some ⟨bytes, true⟩)
      (damaged : Log.decode bytes = .error reason)

theorem load_sealed {store : MemoryStore} {id : String} {bytes : Bytes}
    (kept : store.recordings.get? id = some ⟨bytes, true⟩) :
    load store.archive id = (Log.decode bytes).mapError fun reason => .store (.corrupt reason) := by
  simp only [load, MemoryStore.archive, MemoryStore.read, kept]
  rfl

theorem load_missing {store : MemoryStore} {id : String}
    (missing : ∀ bytes, store.recordings.get? id ≠ some ⟨bytes, true⟩) :
    load store.archive id = .error (.notFound id) := by
  have read : store.read id = .error (.notFound id) := by
    unfold MemoryStore.read
    split
    next recording found =>
      obtain ⟨bytes, isSealed⟩ := recording
      cases isSealed with
      | false => rfl
      | true => exact absurd found (missing bytes)
    next => rfl
  simp only [load, MemoryStore.archive, read]
  rfl

/-- Why there is nothing to play back. -/
theorem load_unplayable {store : MemoryStore} (keyed : store.Keyed) {id : String}
    (nothing : Unplayable store id) :
    load store.archive id = .error (.notFound id) ∨
      ∃ bytes reason, store.recordings.get? id = some ⟨bytes, true⟩ ∧
        Log.decode bytes = .error reason ∧
          load store.archive id = .error (.store (.corrupt reason)) := by
  cases nothing with
  | unknown missing => exact .inl (load_missing (by simp [missing]))
  | unsealed held => exact .inl (load_missing (by simp [held]))
  | invalid noKey =>
      refine .inl (load_missing fun bytes found => ?_)
      rw [keyed found] at noKey
      cases noKey
  | @corrupt bytes reason kept damaged =>
      refine .inr ⟨bytes, reason, kept, damaged, ?_⟩
      rw [load_sealed kept, damaged]
      rfl

theorem serve_loaded {archive : Archive} {target : String} {asked : PlaybackTarget}
    (accepted : PlaybackTarget.parse? target = some asked) {chunks : List Chunk}
    (loaded : load archive asked.id = .ok chunks) :
    serve archive target = .recording (chunks.map (chunkMessage asked.id)) := by
  simp only [serve, accepted, loaded]

theorem serve_failed {archive : Archive} {target : String} {asked : PlaybackTarget}
    (accepted : PlaybackTarget.parse? target = some asked) {error : PlaybackError}
    (failed : load archive asked.id = .error error) :
    serve archive target = .refusal (errorMessage asked.id error) := by
  simp only [serve, accepted, failed]

/-! ## Viewers -/

/-- A binary message in which a viewer finds the data of a chunk. -/
structure Shows (id : String) (chunk : Chunk) (frame : Bytes) (message : Message) : Prop where
  decoded : Message.decode frame = .ok message
  proto : message.proto = Proto.shell
  typ : message.typ = Kind.shell
  status : message.status? = some .normal
  session : message.sessionId? = some id
  body : message.body = chunk.data

theorem shows_chunkMessage {id : String} (idShort : id.utf8ByteSize < 0x100000000) {chunk : Chunk}
    (short : chunk.data.length < 0x100000000) :
    Shows id chunk (chunkMessage id chunk).encode (chunkMessage id chunk) where
  decoded := Message.decode_encode (fits_chunkMessage idShort short)
  proto := rfl
  typ := rfl
  status := by simp [chunkMessage]
  session := by simp [chunkMessage]
  body := rfl

/-- A viewer gets the chunks of a recording, whatever the order in which the tasks of the server work
    and whenever the viewer leaves. -/
structure Played (id : String) (chunks : List Chunk) (answer : Answer) : Prop where
  sends : answer = .recording answer.messages
  shows : List.Forall₂ (fun chunk message => Shows id chunk message.encode message) chunks
    answer.messages
  whole : answer.messages.flatMap (·.body) = chunks.flatMap (·.data)
  streamed : ∀ actions, let stream := (Stream.start id chunks).run actions
    (stream.stage = .playing → ∃ more, (stream.run more).stage = .lingering) ∧
    (stream.stage = .lingering → stream.sent = answer.received none) ∧
    ∀ k, k ≤ stream.sent.length ∨ stream.stage = .lingering →
      stream.sent.take k = answer.received (some k) ∧
        (stream.sent.take k).length = min k chunks.length

/-- A viewer gets one message, which says what went wrong, and the connection is closed. -/
structure Refused (id : String) (answer : Answer) (message : Message) (said : ErrorBody) : Prop where
  sends : answer = .refusal message
  decoded : Message.decode message.encode = .ok message
  status : message.status? = some .error
  session : message.sessionId? = some id
  body : ErrorBody.decode message.body = .ok said
  reason : said.err ≠ ""

theorem played {target : String} {asked : PlaybackTarget}
    (accepted : PlaybackTarget.parse? target = some asked)
    (idShort : asked.id.utf8ByteSize < 0x100000000) {archive : Archive} {chunks : List Chunk}
    (loaded : load archive asked.id = .ok chunks)
    (short : ∀ chunk ∈ chunks, chunk.data.length < 0x100000000) :
    Played asked.id chunks (serve archive target) := by
  rw [serve_loaded accepted loaded]
  let messages := chunks.map (chunkMessage asked.id)
  constructor
  case sends => rfl
  case shows =>
    refine List.forall₂_map_right_iff.mpr (List.forall₂_same.mpr fun chunk member => ?_)
    exact shows_chunkMessage idShort (short chunk member)
  case whole => simp [Answer.messages, List.flatMap_map, chunkMessage, Message.withBody]
  case streamed =>
    intro actions stream
    have plays : stream.Plays asked.id chunks := (Stream.Plays.start asked.id chunks).run actions
    refine ⟨Stream.finishes, plays.sent_of_ended, fun k enough => ?_⟩
    have got : stream.sent.take k = messages.take k := plays.take_sent enough
    refine ⟨got, ?_⟩
    rw [got, List.length_take, List.length_map]

theorem refused {target : String} {asked : PlaybackTarget}
    (accepted : PlaybackTarget.parse? target = some asked)
    (idShort : asked.id.utf8ByteSize < 0x100000000) {archive : Archive} {error : PlaybackError}
    (failed : load archive asked.id = .error error)
    (short : error.message.utf8ByteSize < 0xFFFFFF00) :
    Refused asked.id (serve archive target) (errorMessage asked.id error) (errorBody error) where
  sends := serve_failed accepted failed
  decoded := Message.decode_encode (fits_errorMessage idShort short)
  status := by simp [errorMessage, Message.errorReply]
  session := by simp [errorMessage]
  body := decode_errorBody short
  reason := message_ne_empty error

/-- A viewer of a sealed recording gets its chunks; a viewer of anything else gets one message that says
    why not. A target is no longer than a request can carry, and so is the reason for which a log cannot be
    read. -/
theorem serve_delivers {target : String} {asked : PlaybackTarget}
    (accepted : PlaybackTarget.parse? target = some asked)
    (carried : target.utf8ByteSize ≤ WebSocket.maxTarget) (requests : List Request) :
    let store := askAll MemoryStore.ask requests .empty
    (∀ bytes chunks, store.recordings.get? asked.id = some ⟨bytes, true⟩ →
      Log.decode bytes = .ok chunks → Played asked.id chunks (serve store.archive target)) ∧
    (Unplayable store asked.id →
      (∀ bytes reason, store.recordings.get? asked.id = some ⟨bytes, true⟩ →
        Log.decode bytes = .error reason → reason.utf8ByteSize < 0x80000000) →
      ∃ message body, Refused asked.id (serve store.archive target) message body) := by
  intro store
  have keyed : store.Keyed := MemoryStore.keyed_empty.askAll requests
  have limit : WebSocket.maxTarget = 65534 := rfl
  have id := PlaybackTarget.utf8ByteSize_id_le accepted
  have idShort : asked.id.utf8ByteSize < 0x100000000 := by omega
  constructor
  · intro bytes chunks kept decoded
    have loaded : load store.archive asked.id = .ok chunks := by
      rw [load_sealed kept, decoded]
      rfl
    exact played accepted idShort loaded (Log.data_short decoded)
  · intro nothing reasons
    obtain missing | ⟨bytes, reason, kept, damaged, failed⟩ := load_unplayable keyed nothing
    · have short : (PlaybackError.notFound asked.id).message.utf8ByteSize < 0xFFFFFF00 := by
        rw [utf8ByteSize_notFound]
        omega
      exact ⟨_, _, refused accepted idShort missing short⟩
    · have known := reasons bytes reason kept damaged
      have short : (PlaybackError.store (.corrupt reason)).message.utf8ByteSize < 0xFFFFFF00 := by
        rw [utf8ByteSize_corrupt]
        omega
      exact ⟨_, _, refused accepted idShort failed short⟩

/-- A recording of two chunks, the second of them empty, with a chunk behind them that is cut short. A
    viewer of another recording is told that there is none. -/
theorem serve_delivers_torn :
    let chunks : List Chunk := [⟨0, 0, .enabled, [0x68, 0x69]⟩, ⟨1, 7, .disabled, []⟩]
    let log := chunks.flatMap fun chunk => ((Log.encodeChunk .plain chunk).toOption).getD []
    let requests : List Request := [.create "rec-1", .append "rec-1" (log ++ log.take 9), .sealRecording "rec-1"]
    let store := askAll MemoryStore.ask requests .empty
    Played "rec-1" chunks (serve store.archive "/playback/rec-1?sleep_ms=20") ∧
      ∃ message body, Refused "rec-2" (serve store.archive "/playback/rec-2") message body ∧
        body.err = "session not found: rec-2" := by
  intro chunks log requests store
  have accepted : PlaybackTarget.parse? "/playback/rec-1?sleep_ms=20" = some ⟨"rec-1", 20⟩ := by
    decide +kernel
  have kept : store.recordings.get? "rec-1" = some ⟨log ++ log.take 9, true⟩ := by decide +kernel
  have decoded : Log.decode (log ++ log.take 9) = .ok chunks := by decide +kernel
  have another : PlaybackTarget.parse? "/playback/rec-2" = some ⟨"rec-2", 0⟩ := by decide +kernel
  have missing : store.recordings.get? "rec-2" = none := by decide +kernel
  have told : (serve store.archive "/playback/rec-2").messages.map (fun message =>
      (ErrorBody.decode message.body).toOption.map (·.err)) = [some "session not found: rec-2"] := by
    decide +kernel
  refine ⟨(serve_delivers accepted (by decide) requests).1 _ chunks kept decoded, ?_⟩
  obtain ⟨message, body, refused⟩ := (serve_delivers another (by decide) requests).2 (.unknown missing)
    (fun bytes _ held => by rw [missing] at held; cases held)
  refine ⟨message, body, refused, ?_⟩
  rw [refused.sends] at told
  simpa [Answer.messages, refused.body, Except.toOption] using told

end Playback

end TerminalAgent
