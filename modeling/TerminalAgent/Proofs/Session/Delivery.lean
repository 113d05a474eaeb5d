import Mathlib.Data.List.Infix
import Mathlib.Data.List.Nodup
import TerminalAgent.Session.Fanout

/-! # Delivery to one queue

A `History` is a fan-out together with an account of what was published and received. `Served` says
what one queue and its account owe each other, and it is kept by all that can happen to a queue.
-/

namespace TerminalAgent.Fanout

/-- A publisher that waits may find room before it sees the end. -/
def resumeLate (fanout : Fanout) : Fanout :=
  match fanout.pending with
  | none => fanout
  | some pending =>
      match pending.ids with
      | [] => fanout
      | id :: _ =>
          if fanout.isClosed ∧ fanout.delivery id = .delivered then
            { fanout.push id pending.output with pending := pending.next }
          else fanout

/-- The queues that had no room may be waited for in any order. -/
def reorder (ids : List Nat) (fanout : Fanout) : Fanout :=
  match fanout.pending with
  | none => fanout
  | some pending =>
      if ids.isPerm pending.ids then { fanout with pending := some { pending with ids } } else fanout

/-! ## Histories -/

/-- What may happen to a fan-out with one publisher. -/
inductive Action where
  | subscribe (capacity : Option Nat)
  | unsubscribe (id : Nat)
  | receive (id : Nat)
  | dropReceiver (id : Nat)
  | close
  /-- The publisher serves the queues with room, unless it still waits. -/
  | publish (output : Output)
  /-- The publisher that waits goes on by one queue, if it can. -/
  | resume
  | resumeLate
  | reorder (ids : List Nat)
  deriving Repr, DecidableEq

/-- What is known of a subscription. -/
structure Account where
  /-- How much was published before it. -/
  start : Nat
  received : List Output
  isUnsubscribed : Bool
  isDropped : Bool

/-- What has happened to a fan-out. -/
structure Ledger where
  accounts : Nat → Account
  /-- What the publisher was given. -/
  published : List Output
  /-- What it was given before the end. -/
  heard : List Output
  isClosed : Bool
  /-- Whether no publisher waited at the end. -/
  isClean : Bool

/-- A fan-out and what has happened to it. -/
structure History extends Ledger where
  fanout : Fanout

namespace History

def new : History where
  fanout := Fanout.new
  accounts _ := ⟨0, [], false, false⟩
  published := []
  heard := []
  isClosed := false
  isClean := false

/-- Changes what is known of one subscription. -/
def note (history : History) (id : Nat) (change : Account → Account) : Nat → Account :=
  fun other => if other = id then change (history.accounts id) else history.accounts other

def perform (history : History) : Action → History
  | .subscribe capacity =>
      let (id, fanout) := history.fanout.subscribe capacity
      { history with
        fanout
        accounts := history.note id fun _ => ⟨history.published.length, [], false, false⟩ }
  | .unsubscribe id =>
      { history with
        fanout := history.fanout.unsubscribe id
        accounts := history.note id fun account => { account with isUnsubscribed := true } }
  | .receive id =>
      match history.fanout.receive id with
      | (.item output, fanout) =>
          { history with
            fanout
            accounts := history.note id fun account =>
              { account with received := account.received ++ [output] } }
      | (_, fanout) => { history with fanout }
  | .dropReceiver id =>
      { history with
        fanout := history.fanout.dropReceiver id
        accounts := history.note id fun account => { account with isDropped := true } }
  | .close =>
      { history with
        fanout := history.fanout.close
        isClosed := true
        isClean := if history.isClosed then history.isClean else history.fanout.pending.isNone }
  | .publish output =>
      if history.fanout.pending.isSome then history
      else
        { history with
          fanout := history.fanout.publish output
          published := history.published ++ [output]
          heard := if history.isClosed then history.heard else history.heard ++ [output] }
  | .resume => { history with fanout := history.fanout.resume }
  | .resumeLate => { history with fanout := history.fanout.resumeLate }
  | .reorder ids => { history with fanout := history.fanout.reorder ids }

/-- A fan-out after these actions. -/
def run (actions : List Action) : History :=
  actions.foldl perform new

end History

/-! ## One queue -/

/-- What a publisher that waits holds for a queue. -/
def awaited (pending : Option Pending) (id : Nat) : Option Output :=
  match pending with
  | none => none
  | some pending => if id ∈ pending.ids then some pending.output else none

/-- What was received and what is in the queue is a run of what was published before the end, and the
    whole of it as long as there is someone to send and someone to receive. -/
structure Served (account : Account) (heard : List Output) (isClosed isClean isAttached : Bool)
    (awaits : Option Output) (queue : OutputQueue) : Prop where
  start_le : isClosed = false → account.start ≤ heard.length
  receiver : queue.hasReceiver = !account.isDropped
  inOrder : account.received ++ queue.items <+: heard.drop account.start
  complete : isAttached = true ∨ awaits.isSome → queue.hasReceiver = true →
    account.received ++ queue.items ++ awaits.toList = heard.drop account.start
  stays : isClosed = false → account.isUnsubscribed = false → queue.hasReceiver = true →
    isAttached = true
  bounded : awaits.isSome → queue.capacity.isSome
  unbounded : queue.capacity = none → account.isUnsubscribed = false →
    queue.hasReceiver = true → account.received ++ queue.items = heard.drop account.start
  idle : isClosed = true → isClean = true → awaits = none
  clean : isClosed = true → isClean = true → account.isUnsubscribed = false →
    queue.hasReceiver = true → account.received ++ queue.items = heard.drop account.start

namespace Served

variable {account : Account} {heard : List Output} {isClosed isClean isAttached : Bool}
  {awaits : Option Output} {queue : OutputQueue}

theorem subscribed {capacity : Option Nat} {start : Nat} (late : heard.length ≤ start)
    (now : isClosed = false → start = heard.length) :
    Served ⟨start, [], false, false⟩ heard isClosed isClean (!isClosed) none
      ⟨capacity, [], true⟩ where
  start_le isOpen := Nat.le_of_eq (now isOpen)
  receiver := rfl
  inOrder := List.nil_prefix
  complete _ _ := by simp [late]
  stays isOpen _ _ := by simp [isOpen]
  bounded h := by cases h
  unbounded _ _ _ := by simp [late]
  idle _ _ := rfl
  clean _ _ _ _ := by simp [late]

theorem unsubscribed (h : Served account heard isClosed isClean isAttached awaits queue) :
    Served { account with isUnsubscribed := true } heard isClosed isClean false awaits queue where
  start_le := h.start_le
  receiver := h.receiver
  inOrder := h.inOrder
  complete waits := h.complete (.inr (by simpa using waits))
  stays _ gone := by cases gone
  bounded := h.bounded
  unbounded _ gone := by cases gone
  idle := h.idle
  clean _ _ gone := by cases gone

theorem received {output : Output} {items : List Output}
    (h : Served account heard isClosed isClean isAttached awaits queue)
    (first : queue.items = output :: items) :
    Served { account with received := account.received ++ [output] } heard isClosed isClean
      isAttached awaits { queue with items } := by
  have same : account.received ++ [output] ++ items = account.received ++ queue.items := by
    rw [first, List.append_assoc, List.singleton_append]
  constructor
  case inOrder => simpa only [same] using h.inOrder
  case complete => simpa only [same] using h.complete
  case unbounded => simpa only [same] using h.unbounded
  case clean => simpa only [same] using h.clean
  case idle => exact h.idle
  case start_le => exact h.start_le
  case receiver => exact h.receiver
  case stays => exact h.stays
  case bounded => exact h.bounded

theorem dropped (h : Served account heard isClosed isClean isAttached awaits queue) :
    Served { account with isDropped := true } heard isClosed isClean isAttached awaits
      { queue with items := [], hasReceiver := false } where
  start_le := h.start_le
  receiver := rfl
  inOrder := by
    rw [List.append_nil]
    exact (List.prefix_append _ _).trans h.inOrder
  complete _ gone := by cases gone
  stays _ _ gone := by cases gone
  bounded := h.bounded
  unbounded _ _ gone := by cases gone
  idle := h.idle
  clean _ _ _ gone := by cases gone

theorem closed (h : Served account heard isClosed isClean isAttached awaits queue)
    {isIdle : Bool} (idle : isIdle = true → awaits = none) :
    Served account heard true (if isClosed then isClean else isIdle) false awaits queue where
  start_le isOpen := by cases isOpen
  receiver := h.receiver
  inOrder := h.inOrder
  complete waits := h.complete (.inr (by simpa using waits))
  stays isOpen := by cases isOpen
  bounded := h.bounded
  unbounded := h.unbounded
  idle _ clean := by
    cases isClosed with
    | true => exact h.idle rfl clean
    | false => exact idle clean
  clean _ clean subscribed hasReceiver := by
    cases isClosed with
    | true => exact h.clean rfl clean subscribed hasReceiver
    | false =>
        have whole := h.complete (.inl (h.stays rfl subscribed hasReceiver)) hasReceiver
        rwa [idle clean, Option.toList_none, List.append_nil] at whole

theorem drop_concat (h : Served account heard false isClean isAttached awaits queue)
    (output : Output) :
    (heard ++ [output]).drop account.start = heard.drop account.start ++ [output] :=
  List.drop_append_of_le_length (h.start_le rfl)

/-- What is published passes by a queue that has no sender or no receiver. -/
theorem passed (h : Served account heard isClosed isClean isAttached awaits queue)
    (output : Output)
    (nobody : isClosed = false → isAttached = true → queue.hasReceiver = false) :
    Served account (if isClosed then heard else heard ++ [output]) isClosed isClean false none
      queue := by
  cases isClosed with
  | true => exact { h with complete := by simp, stays := by simp, bounded := by simp, idle := by simp }
  | false =>
      have unheard : account.isUnsubscribed = false → queue.hasReceiver = false := by
        intro remains
        by_contra hasReceiver
        rw [Bool.not_eq_false] at hasReceiver
        have attached := h.stays rfl remains hasReceiver
        simp [nobody rfl attached] at hasReceiver
      constructor
      case start_le => exact fun _ => Nat.le_trans (h.start_le rfl) (by simp)
      case receiver => exact h.receiver
      case inOrder =>
        simp only [Bool.false_eq_true, if_false, h.drop_concat]
        exact h.inOrder.trans (List.prefix_append _ _)
      case complete => simp
      case stays =>
        intro _ remains hasReceiver
        simp [unheard remains] at hasReceiver
      case bounded => simp
      case unbounded =>
        intro _ remains hasReceiver
        simp [unheard remains] at hasReceiver
      case idle => simp
      case clean => simp

theorem delivered (h : Served account heard false isClean true none queue) (output : Output)
    (hasReceiver : queue.hasReceiver = true) :
    Served account (heard ++ [output]) false isClean true none (queue.push output) := by
  have run : account.received ++ (queue.push output).items =
      (heard ++ [output]).drop account.start := by
    have whole := h.complete (.inl rfl) hasReceiver
    rw [Option.toList_none, List.append_nil] at whole
    rw [h.drop_concat, ← whole, OutputQueue.push, List.append_assoc]
  constructor
  case start_le => exact fun _ => Nat.le_trans (h.start_le rfl) (by simp)
  case receiver => exact h.receiver
  case inOrder => exact run ▸ List.prefix_refl _
  case complete =>
    intro _ _
    rw [Option.toList_none, List.append_nil, run]
  case stays => exact h.stays
  case bounded => exact h.bounded
  case unbounded => exact fun _ _ _ => run
  case idle => simp
  case clean => simp

/-- A queue without room is waited for. -/
theorem stalled (h : Served account heard false isClean true none queue) (output : Output)
    (isFull : queue.isFull = true) :
    Served account (heard ++ [output]) false isClean true (some output) queue := by
  have limited : queue.capacity.isSome := by
    unfold OutputQueue.isFull at isFull
    split at isFull
    next capacity found => simp [found]
    next => cases isFull
  constructor
  case start_le => exact fun _ => Nat.le_trans (h.start_le rfl) (by simp)
  case receiver => exact h.receiver
  case inOrder =>
    rw [h.drop_concat]
    exact h.inOrder.trans (List.prefix_append _ _)
  case complete =>
    intro _ hasReceiver
    have whole := h.complete (.inl rfl) hasReceiver
    rw [Option.toList_none, List.append_nil] at whole
    rw [whole, h.drop_concat, Option.toList_some]
  case stays => exact h.stays
  case bounded => exact fun _ => limited
  case unbounded =>
    intro unlimited
    simp [unlimited] at limited
  case idle => simp
  case clean => simp

/-- There is room in the end. -/
theorem resumed {output : Output}
    (h : Served account heard isClosed isClean isAttached (some output) queue)
    (hasReceiver : queue.hasReceiver = true) :
    Served account heard isClosed isClean isAttached none (queue.push output) := by
  have run : account.received ++ (queue.push output).items = heard.drop account.start := by
    rw [← h.complete (.inr rfl) hasReceiver, OutputQueue.push, Option.toList_some,
      List.append_assoc]
  constructor
  case start_le => exact h.start_le
  case receiver => exact h.receiver
  case inOrder => exact run ▸ List.prefix_refl _
  case complete =>
    intro _ _
    rw [Option.toList_none, List.append_nil, run]
  case stays => exact h.stays
  case bounded => exact fun waits => by cases waits
  case unbounded => exact fun _ _ _ => run
  case idle => exact fun _ _ => rfl
  case clean => exact fun _ _ _ _ => run

/-- A queue is waited for no longer: it is the end, or its receiver is gone. -/
theorem released (h : Served account heard isClosed isClean isAttached awaits queue)
    (why : isClosed = true ∨ queue.hasReceiver = false) :
    Served account heard isClosed isClean false none queue where
  start_le := h.start_le
  receiver := h.receiver
  inOrder := h.inOrder
  complete attached := by simp at attached
  stays isOpen _ hasReceiver := by
    obtain isClosed | noReceiver := why
    · simp [isOpen] at isClosed
    · simp [noReceiver] at hasReceiver
  bounded waits := by cases waits
  unbounded := h.unbounded
  idle _ _ := rfl
  clean := h.clean

end Served

/-! ## What the operations do to a queue -/

section
variable {fanout : Fanout} {id other : Nat} {output : Output}

theorem isAttached_iff : fanout.isAttached id = true ↔ id ∈ fanout.subscribers.map (·.id) := by
  simp [isAttached]

theorem isAttached_unsubscribe :
    (fanout.unsubscribe id).isAttached other = (fanout.isAttached other && other != id) := by
  rw [Bool.eq_iff_iff]
  simp only [isAttached, unsubscribe, Bool.and_eq_true, List.any_eq_true, List.mem_filter,
    decide_eq_true_eq, bne_iff_ne]
  constructor
  · rintro ⟨subscriber, ⟨member, differs⟩, rfl⟩
    exact ⟨⟨subscriber, member, rfl⟩, differs⟩
  · rintro ⟨⟨subscriber, member, rfl⟩, differs⟩
    exact ⟨subscriber, ⟨member, differs⟩, rfl⟩

theorem publish_ids (fanout : Fanout) (output : Output) :
    (fanout.publish output).subscribers.map (·.id) =
      (fanout.subscribers.map (·.id)).filter fun id => fanout.delivery id ≠ .gone := by
  simp only [publish]
  generalize fanout.subscribers = subscribers
  induction subscribers with
  | nil => rfl
  | cons subscriber rest ih =>
      cases found : fanout.delivery subscriber.id <;>
        simpa [List.filterMap_cons, List.filter_cons, found] using ih

theorem isAttached_publish :
    (fanout.publish output).isAttached id =
      (fanout.isAttached id && decide (fanout.delivery id ≠ .gone)) := by
  rw [Bool.eq_iff_iff, Bool.and_eq_true, isAttached_iff, isAttached_iff, publish_ids,
    List.mem_filter]

theorem awaited_publish :
    awaited (fanout.publish output).pending id =
      if fanout.isAttached id ∧ fanout.delivery id = .full then some output else none := by
  simp only [publish, isAttached_iff]
  split
  next none_ =>
    have absent := List.isEmpty_iff.mp none_
    rw [List.filter_eq_nil_iff] at absent
    rw [if_neg]
    · rfl
    · rintro ⟨attached, full⟩
      exact absent id attached (by simpa using full)
  next => simp only [awaited, List.mem_filter, decide_eq_true_eq]

theorem queue_publish :
    (fanout.publish output).queues[id]? =
      (fanout.queues[id]?).map fun queue =>
        if fanout.isAttached id ∧ fanout.delivery id = .delivered then queue.push output
        else queue := by
  simp only [publish, List.getElem?_mapIdx, isAttached_iff, List.contains_iff_mem, List.mem_filter,
    decide_eq_true_eq]

theorem queue_push :
    (fanout.push id output).queues[other]? =
      (fanout.queues[other]?).map fun queue => if other = id then queue.push output else queue := by
  simp only [push, List.getElem?_modify]
  congr 1
  funext queue
  simp only [eq_comm]

theorem queue_dropReceiver :
    (fanout.dropReceiver id).queues[other]? =
      (fanout.queues[other]?).map fun queue =>
        if other = id then { queue with items := [], hasReceiver := false } else queue := by
  simp only [dropReceiver, List.getElem?_modify]
  congr 1
  funext queue
  simp only [eq_comm]

theorem receiveUpTo_succ {fanout' : Fanout} (taken : fanout.receive id = (.item output, fanout'))
    (count : Nat) :
    fanout.receiveUpTo id (count + 1) =
      (output :: (fanout'.receiveUpTo id count).1, (fanout'.receiveUpTo id count).2) := by
  simp only [receiveUpTo, taken]

/-- Who finds nothing changes nothing. -/
theorem receive_idle {fanout' : Fanout} {received : Received}
    (taken : fanout.receive id = (received, fanout')) (idle : ∀ output, received ≠ .item output) :
    fanout' = fanout ∧ ∀ queue, fanout.queues[id]? = some queue → queue.items = [] := by
  unfold receive at taken
  split at taken
  next missing => exact ⟨(Prod.mk.inj taken).2.symm, by simp [missing]⟩
  next queue found =>
    split at taken
    next => exact absurd (Prod.mk.inj taken).1.symm (idle _)
    next empty =>
      refine ⟨(Prod.mk.inj taken).2.symm, fun queue' found' => ?_⟩
      rw [found, Option.some.injEq] at found'
      rw [← found', empty]

/-- Who finds an item takes it out of the queue. -/
theorem receive_item {fanout' : Fanout} (taken : fanout.receive id = (.item output, fanout')) :
    ∃ queue items, fanout.queues[id]? = some queue ∧ queue.items = output :: items ∧
      fanout' = { fanout with queues := fanout.queues.set id { queue with items } } := by
  unfold receive at taken
  split at taken
  next => cases taken
  next queue found =>
    split at taken
    next first items inQueue =>
      cases taken
      exact ⟨queue, items, found, inQueue, rfl⟩
    next => split at taken <;> cases taken

/-- Taking out items changes nothing but queues. -/
theorem receiveUpTo_rest (count : Nat) :
    (fanout.receiveUpTo id count).2.pending = fanout.pending ∧
      (fanout.receiveUpTo id count).2.isClosed = fanout.isClosed ∧
      (fanout.receiveUpTo id count).2.subscribers = fanout.subscribers := by
  induction count generalizing fanout with
  | zero => exact ⟨rfl, rfl, rfl⟩
  | succ count ih =>
      cases taken : fanout.receive id with
      | mk received fanout' =>
          cases received with
          | item output =>
              rw [receiveUpTo_succ taken]
              obtain ⟨queue, items, -, -, rfl⟩ := receive_item taken
              exact ih
          | nothing | ended =>
              have same : fanout' = fanout := (receive_idle taken (by simp)).1
              simp only [receiveUpTo, taken, same, and_self]

theorem queue_receiveUpTo (count : Nat) :
    (fanout.receiveUpTo id count).2.queues[other]? =
      (fanout.queues[other]?).map fun queue =>
        if other = id then { queue with items := queue.items.drop count } else queue := by
  induction count generalizing fanout with
  | zero => simp [receiveUpTo]
  | succ count ih =>
      cases taken : fanout.receive id with
      | mk received fanout' =>
          cases received with
          | item output =>
              obtain ⟨queue, items, found, inQueue, rfl⟩ := receive_item taken
              rw [receiveUpTo_succ taken, ih, List.getElem?_set]
              by_cases same : other = id
              · subst same
                have inRange := (List.getElem?_eq_some_iff.mp found).1
                rw [if_pos rfl, if_pos inRange, found]
                simp [inQueue]
              · simp [same, Ne.symm same]
          | nothing | ended =>
              obtain ⟨unchanged, empty⟩ := receive_idle taken (by simp)
              simp only [receiveUpTo, taken, unchanged]
              by_cases same : other = id
              · subst same
                cases found : fanout.queues[other]? with
                | none => rfl
                | some queue =>
                    obtain ⟨capacity, items, hasReceiver⟩ := queue
                    cases (empty _ found : items = [])
                    simp
              · simp [same]

theorem receiveAll_rest (fanout : Fanout) (id : Nat) :
    (fanout.receiveAll id).2.pending = fanout.pending ∧
      (fanout.receiveAll id).2.isClosed = fanout.isClosed ∧
      (fanout.receiveAll id).2.subscribers = fanout.subscribers := receiveUpTo_rest _

/-- Taking out everything leaves nothing. -/
theorem queue_receiveAll :
    (fanout.receiveAll id).2.queues[other]? =
      (fanout.queues[other]?).map fun queue =>
        if other = id then { queue with items := [] } else queue := by
  rw [receiveAll, queue_receiveUpTo]
  by_cases same : other = id
  · subst same
    cases fanout.queues[other]? <;> simp
  · simp [same]

theorem awaited_next {pending : Pending} {ids : List Nat} (head : pending.ids = id :: ids) :
    awaited pending.next other = if other ∈ ids then some pending.output else none := by
  cases ids with
  | nil => simp [awaited, Pending.next, head]
  | cons next rest => simp [awaited, Pending.next, head]

theorem awaited_next_of_ne {pending : Pending} {ids : List Nat} (head : pending.ids = id :: ids)
    (differs : other ≠ id) : awaited pending.next other = awaited (some pending) other := by
  rw [awaited_next head]
  simp [awaited, head, differs]

theorem awaited_next_head {pending : Pending} {ids : List Nat} (head : pending.ids = id :: ids)
    (distinct : pending.ids.Nodup) : awaited pending.next id = none := by
  rw [head] at distinct
  rw [awaited_next head, if_neg (List.nodup_cons.mp distinct).1]

theorem ids_next {pending pending' : Pending} {ids : List Nat} (head : pending.ids = id :: ids)
    (next : pending.next = some pending') : pending'.ids = ids := by
  cases ids with
  | nil => simp [Pending.next, head] at next
  | cons =>
      simp only [Pending.next, head, Option.some.injEq] at next
      rw [← next]

theorem delivery_of_queue {queue : OutputQueue} (found : fanout.queues[id]? = some queue) :
    fanout.delivery id =
      if queue.hasReceiver = false then .gone
      else if queue.isFull then .full else .delivered := by
  simp only [delivery, found, Bool.not_eq_true']

end

end TerminalAgent.Fanout
