import TerminalAgent.Playback.Server

/-! # A recording on its way to a viewer

One task puts the chunks of a recording into a queue with little room, another takes them out and sends
them, until the queue has ended. The viewer may leave at any point. What was sent is always a first part
of the recording, and once the queue has ended it is all of it.
-/

namespace TerminalAgent.Playback

/-- How far a connection to a viewer has come. -/
inductive Stage where
  | playing
  /-- All was sent, and the viewer may stay for a while. -/
  | lingering
  /-- The viewer has left, or the server was told to stop. -/
  | gone
  deriving Repr, DecidableEq

/-- A recording that is played back. -/
structure Stream where
  id : String
  /-- The chunks that are not in the queue yet. -/
  rest : List Chunk
  queue : List Chunk
  sent : List Message
  stage : Stage
  deriving Repr, DecidableEq

namespace Stream

/-- So many chunks wait in the queue at most. -/
def capacity : Nat := 64

def start (id : String) (chunks : List Chunk) : Stream := ⟨id, chunks, [], [], .playing⟩

/-- What the tasks and the viewer may do. -/
inductive Action where
  /-- A chunk goes into the queue, if there is room. -/
  | feed
  /-- A chunk is taken out of the queue and sent. -/
  | send
  /-- The queue is seen to have ended. -/
  | finish
  | leave
  deriving Repr, DecidableEq

/-- Does what an action says; an action that cannot be taken changes nothing. -/
def step (stream : Stream) (action : Action) : Stream :=
  match stream.stage with
  | .playing =>
      match action, stream.queue, stream.rest with
      | .feed, queue, chunk :: rest =>
          if queue.length < capacity then { stream with queue := queue ++ [chunk], rest } else stream
      | .send, chunk :: queue, _ =>
          { stream with queue, sent := stream.sent ++ [chunkMessage stream.id chunk] }
      | .finish, [], [] => { stream with stage := .lingering }
      | .leave, _, _ => { stream with stage := .gone }
      | _, _, _ => stream
  | .lingering => if action = .leave then { stream with stage := .gone } else stream
  | .gone => stream

def run (stream : Stream) (actions : List Action) : Stream := actions.foldl step stream

/-- The stream plays these chunks back in order. -/
structure Plays (id : String) (chunks : List Chunk) (stream : Stream) : Prop where
  same : stream.id = id
  inOrder : stream.sent ++ (stream.queue ++ stream.rest).map (chunkMessage id) =
    chunks.map (chunkMessage id)
  room : stream.queue.length ≤ capacity
  ended : stream.stage = .lingering → stream.queue = [] ∧ stream.rest = []

namespace Plays

variable {id : String} {chunks : List Chunk} {stream : Stream}

theorem start (id : String) (chunks : List Chunk) : Plays id chunks (start id chunks) where
  same := rfl
  inOrder := rfl
  room := Nat.zero_le _
  ended := nofun

theorem step (h : Plays id chunks stream) (action : Action) : Plays id chunks (stream.step action) := by
  obtain ⟨own, rest, queue, sent, stage⟩ := stream
  obtain ⟨rfl, inOrder, room, ended⟩ := h
  cases stage with
  | gone => exact ⟨rfl, inOrder, room, ended⟩
  | lingering =>
      simp only [Stream.step]
      split
      next => exact ⟨rfl, inOrder, room, nofun⟩
      next => exact ⟨rfl, inOrder, room, ended⟩
  | playing =>
      cases action with
      | leave => exact ⟨rfl, inOrder, room, nofun⟩
      | feed =>
          cases rest with
          | nil => exact ⟨rfl, inOrder, room, nofun⟩
          | cons chunk rest =>
              simp only [Stream.step]
              split
              next free =>
                refine ⟨rfl, ?_, ?_, nofun⟩
                · rw [← inOrder]
                  simp
                · simpa using Nat.succ_le_of_lt free
              next => exact ⟨rfl, inOrder, room, nofun⟩
      | send =>
          cases queue with
          | nil => exact ⟨rfl, inOrder, room, nofun⟩
          | cons chunk queue =>
              refine ⟨rfl, ?_, Nat.le_of_succ_le room, nofun⟩
              rw [← inOrder]
              simp [Stream.step]
      | finish =>
          cases queue with
          | cons => exact ⟨rfl, inOrder, room, nofun⟩
          | nil =>
              cases rest with
              | cons => exact ⟨rfl, inOrder, room, nofun⟩
              | nil => exact ⟨rfl, inOrder, room, fun _ => ⟨rfl, rfl⟩⟩

theorem run (h : Plays id chunks stream) (actions : List Action) :
    Plays id chunks (stream.run actions) := by
  induction actions generalizing stream with
  | nil => exact h
  | cons action rest ih => exact ih (h.step action)

/-- What was sent is the beginning of the recording. -/
theorem sent_eq_take (h : Plays id chunks stream) :
    stream.sent = (chunks.map (chunkMessage id)).take stream.sent.length := by
  rw [← h.inOrder, List.take_left]

theorem sent_of_ended (h : Plays id chunks stream) (ended : stream.stage = .lingering) :
    stream.sent = chunks.map (chunkMessage id) := by
  obtain ⟨queue, rest⟩ := h.ended ended
  have all := h.inOrder
  rwa [queue, rest, List.append_nil, List.map_nil, List.append_nil] at all

/-- What a viewer has got that takes so many messages, if so many were sent or no more come. -/
theorem take_sent (h : Plays id chunks stream) {k : Nat}
    (enough : k ≤ stream.sent.length ∨ stream.stage = .lingering) :
    stream.sent.take k = (chunks.map (chunkMessage id)).take k := by
  obtain fewer | ended := enough
  · rw [h.sent_eq_take, List.take_take, Nat.min_eq_left fewer]
  · rw [h.sent_of_ended ended]

end Plays

/-- As long as the viewer stays, the rest can be sent. -/
theorem finishes {stream : Stream} (playing : stream.stage = .playing) :
    ∃ actions, (stream.run actions).stage = .lingering := by
  obtain ⟨id, rest, queue, sent, stage⟩ := stream
  obtain rfl : stage = .playing := playing
  -- What is in the queue goes first, and then there is room for one more.
  have empty {rest : List Chunk} (next : ∀ sent, ∃ actions,
      ((⟨id, rest, [], sent, .playing⟩ : Stream).run actions).stage = .lingering)
      (queue : List Chunk) (sent : List Message) : ∃ actions,
      ((⟨id, rest, queue, sent, .playing⟩ : Stream).run actions).stage = .lingering := by
    induction queue generalizing sent with
    | nil => exact next sent
    | cons chunk queue ih =>
        obtain ⟨actions, done⟩ := ih (sent ++ [chunkMessage id chunk])
        exact ⟨.send :: actions, done⟩
  induction rest generalizing queue sent with
  | nil => exact empty (fun sent => ⟨[.finish], rfl⟩) queue sent
  | cons chunk rest ih =>
      refine empty (fun sent => ?_) queue sent
      obtain ⟨actions, done⟩ := ih [chunk] sent
      exact ⟨.feed :: actions, done⟩

end Stream

end TerminalAgent.Playback
