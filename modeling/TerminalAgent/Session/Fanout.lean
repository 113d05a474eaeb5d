import TerminalAgent.Session.Output

/-!
# Fanning output out

The output of a session goes to any number of subscribers, each with a queue of its own. A bounded
queue that is full makes the publisher wait for room, so that nothing is lost; an unbounded queue
never does. A publisher that waits holds on to the queues it waits for, also when their subscribers
leave.

Publishing is one step that serves every queue with room, and then one step for each queue that had
none; other things may happen in between.
-/

namespace TerminalAgent

/-- What lies between the publisher and one receiver. -/
structure OutputQueue where
  /-- How many items it holds at most, if it is bounded. -/
  capacity : Option Nat
  items : List Output
  hasReceiver : Bool
  deriving Repr, DecidableEq

namespace OutputQueue

def isFull (queue : OutputQueue) : Bool :=
  match queue.capacity with
  | some capacity => capacity ≤ queue.items.length
  | none => false

def push (queue : OutputQueue) (output : Output) : OutputQueue :=
  { queue with items := queue.items ++ [output] }

end OutputQueue

/-- What was delivered to a subscriber. -/
structure DeliveryStats where
  delivered : Nat := 0
  /-- How often the publisher had to wait. -/
  stalls : Nat := 0
  deriving Repr, DecidableEq

structure Subscriber where
  id : Nat
  stats : DeliveryStats
  deriving Repr, DecidableEq

/-- A publication that waits for room. -/
structure Pending where
  output : Output
  /-- The queues that are still to be served, the next one first. -/
  ids : List Nat
  deriving Repr, DecidableEq

namespace Pending

/-- What is left to wait for after the next queue was dealt with. -/
def next (pending : Pending) : Option Pending :=
  match pending.ids with
  | _ :: id :: ids => some { pending with ids := id :: ids }
  | _ => none

end Pending

structure Fanout where
  /-- Who is attached, in the order of subscription. -/
  subscribers : List Subscriber
  /-- The queue of every subscription so far, by its number. -/
  queues : List OutputQueue
  isClosed : Bool
  pending : Option Pending
  deriving Repr, DecidableEq

namespace Fanout

/-- The queue capacity for output that is watched live. -/
def liveCapacity : Nat := 256

def new : Fanout where
  subscribers := []
  queues := []
  isClosed := false
  pending := none

/-- Attaches a subscriber and tells its number. After the end, the queue has no sender. A bounded queue
    holds at least one item. -/
def subscribe (capacity : Option Nat) (fanout : Fanout) : Nat × Fanout :=
  let id := fanout.queues.length
  (id, { fanout with
    queues := fanout.queues ++ [⟨capacity.map (max 1), [], true⟩]
    subscribers :=
      if fanout.isClosed then fanout.subscribers else fanout.subscribers ++ [⟨id, {}⟩] })

/-- The counts of a subscriber that is attached. -/
def stats? (fanout : Fanout) (id : Nat) : Option DeliveryStats :=
  (fanout.subscribers.find? fun subscriber => subscriber.id = id).map (·.stats)

def isAttached (fanout : Fanout) (id : Nat) : Bool :=
  fanout.subscribers.any fun subscriber => subscriber.id = id

/-- Detaches a subscriber. What is in its queue stays there. -/
def unsubscribe (id : Nat) (fanout : Fanout) : Fanout :=
  { fanout with subscribers := fanout.subscribers.filter fun subscriber => subscriber.id ≠ id }

/-- Detaches all subscribers for good. -/
def close (fanout : Fanout) : Fanout :=
  { fanout with subscribers := [], isClosed := true }

/-- The receiver goes away with what is in its queue. -/
def dropReceiver (id : Nat) (fanout : Fanout) : Fanout :=
  { fanout with
    queues := fanout.queues.modify id fun queue => { queue with items := [], hasReceiver := false } }

/-! ## Receiving -/

/-- What a receiver finds in its queue. -/
inductive Received where
  | item (output : Output)
  /-- Nothing yet. -/
  | nothing
  /-- Nothing, and nobody is left to send. -/
  | ended
  deriving Repr, DecidableEq

/-- Whether someone may still put something into a queue. -/
def hasSender (fanout : Fanout) (id : Nat) : Bool :=
  fanout.isAttached id || (fanout.pending.any fun pending => pending.ids.contains id)

/-- Takes the first item out of a queue. -/
def receive (id : Nat) (fanout : Fanout) : Received × Fanout :=
  match fanout.queues[id]? with
  | none => (.ended, fanout)
  | some queue =>
      match queue.items with
      | output :: items =>
          (.item output, { fanout with queues := fanout.queues.set id { queue with items } })
      | [] => (if fanout.hasSender id then .nothing else .ended, fanout)

/-- Takes at most `count` items out of a queue. -/
def receiveUpTo (fanout : Fanout) (id : Nat) : (count : Nat) → List Output × Fanout
  | 0 => ([], fanout)
  | count + 1 =>
      match fanout.receive id with
      | (.item output, fanout) =>
          let (outputs, fanout) := fanout.receiveUpTo id count
          (output :: outputs, fanout)
      | (_, fanout) => ([], fanout)

/-- Takes everything out of a queue. -/
def receiveAll (id : Nat) (fanout : Fanout) : List Output × Fanout :=
  let count := ((fanout.queues[id]?).map fun queue => queue.items.length).getD 0
  fanout.receiveUpTo id count

/-! ## Publishing -/

/-- What becomes of one subscriber when something is published. -/
inductive Delivery where
  | delivered
  | full
  /-- Its receiver is gone. -/
  | gone
  deriving Repr, DecidableEq

def delivery (fanout : Fanout) (id : Nat) : Delivery :=
  match fanout.queues[id]? with
  | none => .gone
  | some queue =>
      if !queue.hasReceiver then .gone else if queue.isFull then .full else .delivered

/-- Puts something into a queue. -/
def push (id : Nat) (output : Output) (fanout : Fanout) : Fanout :=
  { fanout with queues := fanout.queues.modify id (·.push output) }

/-- Serves the subscribers whose queues have room and detaches those whose receivers are gone. The
    others are waited for. -/
def publish (output : Output) (fanout : Fanout) : Fanout :=
  let ids := fanout.subscribers.map (·.id)
  let served := ids.filter fun id => fanout.delivery id = .delivered
  let waiting := ids.filter fun id => fanout.delivery id = .full
  { fanout with
    subscribers := fanout.subscribers.filterMap fun subscriber =>
      match fanout.delivery subscriber.id with
      | .delivered =>
          some { subscriber with
            stats := { subscriber.stats with delivered := subscriber.stats.delivered + 1 } }
      | .full => some subscriber
      | .gone => none
    queues := fanout.queues.mapIdx fun id queue =>
      if served.contains id then queue.push output else queue
    pending := if waiting.isEmpty then none else some ⟨output, waiting⟩ }

/-- Lets a waiting publisher go on by one queue, if it can: when there is room, when the receiver is
    gone, or at the end. -/
def resume (fanout : Fanout) : Fanout :=
  match fanout.pending with
  | none => fanout
  | some pending =>
      match pending.ids with
      | [] => { fanout with pending := none }
      | id :: _ =>
          if fanout.isClosed then { fanout with pending := pending.next }
          else
            match fanout.delivery id with
            | .gone => { fanout.unsubscribe id with pending := pending.next }
            | .full => fanout
            | .delivered =>
                let fanout := fanout.push id pending.output
                { fanout with
                  pending := pending.next
                  subscribers := fanout.subscribers.map fun subscriber =>
                    if subscriber.id = id then
                      ⟨id, ⟨subscriber.stats.delivered + 1, subscriber.stats.stalls + 1⟩⟩
                    else subscriber }

/-- Lets a waiting publisher go on as far as it can. -/
def settle (fanout : Fanout) : Fanout :=
  let queues := (fanout.pending.map fun pending => pending.ids.length).getD 0
  Nat.repeat resume queues fanout

end Fanout

end TerminalAgent
