import TerminalAgent.Proofs.Session.Delivery

/-! # What each receiver gets

Whatever happens between the steps of a publisher, each receiver gets a gap-free run of what was
published after its subscription, and the run ends early only for a reason.
-/

namespace TerminalAgent.Fanout

namespace History

@[simp] theorem note_same (history : History) (id : Nat) (change : Account → Account) :
    history.note id change id = change (history.accounts id) := if_pos rfl

theorem note_other (history : History) {id other : Nat} (differs : other ≠ id)
    (change : Account → Account) : history.note id change other = history.accounts other :=
  if_neg differs

/-- All queues are served, and the fan-out is in order. -/
structure Fair (history : History) : Prop where
  closed : history.fanout.isClosed = history.isClosed
  nobody : history.isClosed = true → history.fanout.subscribers = []
  heardFirst : history.heard <+: history.published
  heardAll : history.isClosed = false → history.heard = history.published
  distinct : (history.fanout.subscribers.map (·.id)).Nodup
  known : ∀ id ∈ history.fanout.subscribers.map (·.id), id < history.fanout.queues.length
  waiting : ∀ {pending}, history.fanout.pending = some pending →
    pending.ids.Nodup ∧ ∀ id ∈ pending.ids, id < history.fanout.queues.length
  served : ∀ {id queue}, history.fanout.queues[id]? = some queue →
    Served (history.accounts id) history.heard history.isClosed history.isClean
      (history.fanout.isAttached id) (awaited history.fanout.pending id) queue

namespace Fair

variable {history : History}

theorem notAttached (h : Fair history) (closed : history.isClosed = true) (id : Nat) :
    history.fanout.isAttached id = false := by
  simp [isAttached, h.nobody closed]

theorem subscribe (h : Fair history) (capacity : Option Nat) :
    Fair (history.perform (.subscribe capacity)) := by
  have ids : ((history.fanout.subscribe capacity).2.subscribers.map (·.id)) =
      history.fanout.subscribers.map (·.id) ++
        if history.isClosed then [] else [history.fanout.queues.length] := by
    simp only [Fanout.subscribe, h.closed]
    split <;> simp
  constructor
  case closed => exact h.closed
  case nobody =>
    intro (closed : history.isClosed = true)
    simp only [perform, Fanout.subscribe, h.closed]
    rw [if_pos closed, h.nobody closed]
  case heardFirst => exact h.heardFirst
  case heardAll => exact h.heardAll
  case distinct =>
    simp only [perform]
    rw [ids]
    split
    next => simpa using h.distinct
    next =>
      refine List.nodup_append.mpr ⟨h.distinct, List.nodup_singleton _, ?_⟩
      intro id member other new same
      have := h.known id member
      simp only [List.mem_singleton] at new
      omega
  case known =>
    simp only [perform]
    rw [ids]
    intro id member
    simp only [Fanout.subscribe, List.length_append, List.length_singleton]
    rcases List.mem_append.mp member with member | new
    · have := h.known id member
      omega
    · split at new
      next => cases new
      next =>
        simp only [List.mem_singleton] at new
        omega
  case waiting =>
    intro pending waits
    obtain ⟨distinct, known⟩ := h.waiting waits
    refine ⟨distinct, fun id member => ?_⟩
    have := known id member
    simp only [perform, Fanout.subscribe, List.length_append, List.length_singleton]
    omega
  case served =>
    intro id queue found
    have attached : (history.fanout.subscribe capacity).2.isAttached id =
        (history.fanout.isAttached id ||
          (!history.isClosed && decide (id = history.fanout.queues.length))) := by
      rw [Bool.eq_iff_iff, isAttached_iff, ids, List.mem_append, ← isAttached_iff]
      cases history.isClosed <;> simp
    simp only [perform, attached, note]
    simp only [perform, Fanout.subscribe, List.getElem?_append] at found
    split at found
    next old =>
      have differs : id ≠ history.fanout.queues.length := Nat.ne_of_lt old
      simpa [differs, Fanout.subscribe] using h.served found
    next notOld =>
      have new : id = history.fanout.queues.length := by
        have := (List.getElem?_eq_some_iff.mp found).1
        simp only [List.length_singleton] at this
        omega
      subst new
      have unattached : history.fanout.isAttached history.fanout.queues.length = false := by
        rw [Bool.eq_false_iff, Ne, isAttached_iff]
        exact fun member => Nat.lt_irrefl _ (h.known _ member)
      have unawaited : awaited history.fanout.pending history.fanout.queues.length = none := by
        unfold awaited
        split
        next => rfl
        next pending waits =>
          rw [if_neg]
          exact fun member => Nat.lt_irrefl _ ((h.waiting waits).2 _ member)
      simp only [Nat.sub_self, List.getElem?_cons_zero, Option.some.injEq] at found
      subst found
      -- After the end there may be more than was heard, and the new queue gets none of it.
      have late : history.heard.length ≤ history.published.length := h.heardFirst.length_le
      have now (isOpen : history.isClosed = false) :
          history.published.length = history.heard.length := by rw [h.heardAll isOpen]
      simpa [unattached, Fanout.subscribe, unawaited] using Served.subscribed late now

theorem unsubscribe (h : Fair history) (id : Nat) :
    Fair (history.perform (.unsubscribe id)) where
  closed := h.closed
  nobody closed := by
    simp only [perform, Fanout.unsubscribe]
    rw [h.nobody closed, List.filter_nil]
  heardFirst := h.heardFirst
  heardAll := h.heardAll
  distinct := h.distinct.sublist (List.filter_sublist.map _)
  known other member := h.known other ((List.filter_sublist.map _).subset member)
  waiting := h.waiting
  served {other queue} found := by
    have served := h.served found
    simp only [perform, isAttached_unsubscribe]
    by_cases same : other = id
    · subst same
      rw [note_same, bne_self_eq_false, Bool.and_false]
      exact served.unsubscribed
    · rw [note_other _ same, bne_iff_ne.mpr same, Bool.and_true]
      exact served

theorem dropReceiver (h : Fair history) (id : Nat) :
    Fair (history.perform (.dropReceiver id)) where
  closed := h.closed
  nobody := h.nobody
  heardFirst := h.heardFirst
  heardAll := h.heardAll
  distinct := h.distinct
  known := by simpa [perform, Fanout.dropReceiver] using h.known
  waiting waits := by simpa [perform, Fanout.dropReceiver] using h.waiting waits
  served {other queue} found := by
    simp only [perform, queue_dropReceiver, Option.map_eq_some_iff] at found
    obtain ⟨before, found, rfl⟩ := found
    have served := h.served found
    simp only [perform]
    by_cases same : other = id
    · subst same
      rw [note_same, if_pos rfl]
      exact served.dropped
    · rw [note_other _ same, if_neg same]
      exact served

theorem close (h : Fair history) : Fair (history.perform .close) where
  closed := rfl
  nobody _ := rfl
  heardFirst := h.heardFirst
  heardAll isOpen := by cases isOpen
  distinct := List.nodup_nil
  known _ member := by cases member
  waiting := h.waiting
  served {id queue} found := by
    refine (h.served found).closed fun idle => ?_
    rw [Option.isNone_iff_eq_none] at idle
    rw [idle]
    rfl

theorem receive (h : Fair history) (id : Nat) : Fair (history.perform (.receive id)) := by
  cases found : history.fanout.queues[id]? with
  | none => simpa [perform, Fanout.receive, found] using h
  | some queue =>
      cases items : queue.items with
      | nil =>
          simp only [perform, Fanout.receive, found, items]
          cases history.fanout.hasSender id <;> exact h
      | cons output rest =>
          simp only [perform, Fanout.receive, found, items]
          constructor
          case closed => exact h.closed
          case nobody => exact h.nobody
          case heardFirst => exact h.heardFirst
          case heardAll => exact h.heardAll
          case distinct => exact h.distinct
          case known => simpa using h.known
          case waiting =>
            intro pending waits
            simpa using h.waiting waits
          case served =>
            intro other queue' found'
            simp only [List.getElem?_set] at found'
            split at found'
            next same =>
              subst same
              split at found'
              next =>
                cases found'
                simp only [note_same]
                exact (h.served found).received items
              next => cases found'
            next differs =>
              simp only [note_other _ (Ne.symm differs)]
              exact h.served found'

theorem publish (h : Fair history) (output : Output) :
    Fair (history.perform (.publish output)) := by
  simp only [perform]
  split
  next => exact h
  next idle =>
    have notPending : history.fanout.pending = none := by simpa using idle
    have ids := publish_ids history.fanout output
    constructor
    case closed => exact h.closed
    case nobody =>
      intro closed
      simp only [Fanout.publish, h.nobody closed, List.filterMap_nil]
    case heardFirst =>
      simp only
      split
      next => exact h.heardFirst.trans (List.prefix_append _ _)
      next isOpen => rw [h.heardAll (by simpa using isOpen)]
    case heardAll =>
      intro (isOpen : history.isClosed = false)
      simp [isOpen, h.heardAll isOpen]
    case distinct =>
      simp only [ids]
      exact h.distinct.filter _
    case known =>
      intro id member
      simp only [ids] at member
      simpa [Fanout.publish] using h.known id (List.mem_filter.mp member).1
    case waiting =>
      intro pending waits
      simp only [Fanout.publish] at waits
      split at waits
      next => cases waits
      next =>
        cases waits
        refine ⟨h.distinct.filter _, fun id member => ?_⟩
        simpa [Fanout.publish] using h.known id (List.mem_filter.mp member).1
    case served =>
      intro id queue' found'
      simp only [queue_publish, Option.map_eq_some_iff] at found'
      obtain ⟨queue, found, rfl⟩ := found'
      have served := h.served found
      rw [notPending] at served
      have delivery := delivery_of_queue found
      simp only [isAttached_publish, awaited_publish]
      cases attached : history.fanout.isAttached id with
      | false =>
          simp only [Bool.false_and, Bool.false_eq_true, false_and, if_false]
          exact served.passed output (by simp [attached])
      | true =>
          have isOpen : history.isClosed = false := by
            by_contra closed
            rw [h.notAttached (by simpa using closed) id] at attached
            cases attached
          rw [attached, isOpen] at served
          simp only [isOpen, Bool.true_and, true_and, Bool.false_eq_true, if_false]
          cases hasReceiver : queue.hasReceiver with
          | false =>
              rw [if_pos hasReceiver] at delivery
              simpa [delivery] using served.passed output (fun _ _ => hasReceiver)
          | true =>
              rw [if_neg (by simp [hasReceiver])] at delivery
              cases isFull : queue.isFull with
              | true =>
                  rw [isFull, if_pos rfl] at delivery
                  simpa [delivery] using served.stalled output isFull
              | false =>
                  rw [isFull, if_neg (by simp)] at delivery
                  simpa [delivery] using
                    served.delivered output hasReceiver

/-- The publisher has dealt with the queue it waited for. -/
theorem advance (h : Fair history) (fanout : Fanout) {pending : Pending} {id : Nat}
    {ids : List Nat} (waits : history.fanout.pending = some pending)
    (head : pending.ids = id :: ids) (next : fanout.pending = pending.next)
    (closed : fanout.isClosed = history.fanout.isClosed)
    (kept : List.Sublist (fanout.subscribers.map (·.id))
      (history.fanout.subscribers.map (·.id)))
    (length : fanout.queues.length = history.fanout.queues.length)
    (others : ∀ other, other ≠ id → fanout.isAttached other = history.fanout.isAttached other ∧
      fanout.queues[other]? = history.fanout.queues[other]?)
    (served : ∀ {queue}, fanout.queues[id]? = some queue →
      Served (history.accounts id) history.heard history.isClosed history.isClean
        (fanout.isAttached id) none queue) :
    Fair { history with fanout } where
  closed := closed.trans h.closed
  nobody isClosed := by
    rw [h.nobody isClosed, List.map_nil, List.sublist_nil, List.map_eq_nil_iff] at kept
    exact kept
  heardFirst := h.heardFirst
  heardAll := h.heardAll
  distinct := h.distinct.sublist kept
  known other member := by
    simp only [length]
    exact h.known other (kept.subset member)
  waiting {pending'} waits' := by
    obtain ⟨distinct, known⟩ := h.waiting waits
    rw [head] at distinct known
    simp only [length, ids_next head (next.symm.trans waits')]
    exact ⟨(List.nodup_cons.mp distinct).2, fun other member =>
      known other (List.mem_cons_of_mem _ member)⟩
  served {other queue} found := by
    by_cases same : other = id
    · subst same
      simp only [next, awaited_next_head head (h.waiting waits).1]
      exact served found
    · obtain ⟨attached, queues⟩ := others other same
      have before := h.served (queues ▸ found)
      simp only [next, attached, awaited_next_of_ne head same]
      rwa [waits] at before

/-- There was room, before or after the end. -/
theorem pushed (h : Fair history) (fanout : Fanout) {pending : Pending} {id : Nat}
    {ids : List Nat} (waits : history.fanout.pending = some pending)
    (head : pending.ids = id :: ids) (room : history.fanout.delivery id = .delivered)
    (next : fanout.pending = pending.next)
    (closed : fanout.isClosed = history.fanout.isClosed)
    (kept : fanout.subscribers.map (·.id) = history.fanout.subscribers.map (·.id))
    (queues : fanout.queues = (history.fanout.push id pending.output).queues) :
    Fair { history with fanout } := by
  have attached (other : Nat) : fanout.isAttached other = history.fanout.isAttached other := by
    rw [Bool.eq_iff_iff, isAttached_iff, isAttached_iff, kept]
  have length : fanout.queues.length = history.fanout.queues.length := by
    simp [queues, Fanout.push]
  refine h.advance fanout waits head next closed (kept ▸ List.Sublist.refl _) length ?_ ?_
  · intro other differs
    refine ⟨attached other, ?_⟩
    simp [queues, queue_push, differs]
  · intro queue' found'
    simp only [queues, queue_push, Option.map_eq_some_iff, if_true] at found'
    obtain ⟨queue, found, rfl⟩ := found'
    have served := h.served found
    have awaits : awaited history.fanout.pending id = some pending.output := by
      simp [awaited, waits, head]
    have hasReceiver : queue.hasReceiver = true := by
      rw [delivery_of_queue found] at room
      cases hasReceiver : queue.hasReceiver with
      | true => rfl
      | false => simp [hasReceiver] at room
    rw [awaits] at served
    rw [attached]
    exact served.resumed hasReceiver

theorem resume (h : Fair history) : Fair (history.perform .resume) := by
  simp only [perform, Fanout.resume]
  split
  next => exact h
  next pending waits =>
    split
    next empty =>
      refine ⟨h.closed, h.nobody, h.heardFirst, h.heardAll, h.distinct, h.known, ?_, ?_⟩
      · intro pending' waits'
        cases waits'
      · intro id queue found
        have served := h.served found
        simp only [awaited, waits, empty, List.not_mem_nil, if_false] at served
        exact served
    next id ids head =>
      split
      next closed =>
        -- The end releases the publisher, and what it holds is for nobody any more.
        have closed : history.isClosed = true := h.closed ▸ closed
        refine h.advance { history.fanout with pending := pending.next } waits head rfl rfl
          (List.Sublist.refl _) rfl (fun _ _ => ⟨rfl, rfl⟩) ?_
        intro queue found
        have released := (h.served found).released (.inl closed)
        rw [← h.notAttached closed id] at released
        exact released
      next =>
        split
        next gone =>
          refine h.advance { history.fanout.unsubscribe id with pending := pending.next } waits head
            rfl rfl (List.filter_sublist.map _) rfl ?_ ?_
          · intro other differs
            refine ⟨?_, rfl⟩
            have attached : (history.fanout.unsubscribe id).isAttached other =
                (history.fanout.isAttached other && other != id) := isAttached_unsubscribe
            rwa [bne_iff_ne.mpr differs, Bool.and_true] at attached
          · intro queue (found : history.fanout.queues[id]? = some queue)
            have noReceiver : queue.hasReceiver = false := by
              rw [delivery_of_queue found] at gone
              by_contra hasReceiver
              rw [if_neg hasReceiver] at gone
              split at gone <;> cases gone
            have detached : (history.fanout.unsubscribe id).isAttached id = false := by
              rw [isAttached_unsubscribe, bne_self_eq_false, Bool.and_false]
            have released := (h.served found).released (.inr noReceiver)
            rw [← detached] at released
            exact released
        next => exact h
        next room =>
          refine h.pushed _ waits head room rfl rfl ?_ rfl
          simp only [Fanout.push, List.map_map]
          refine List.map_congr_left fun subscriber _ => ?_
          simp only [Function.comp_apply]
          split
          next same => exact same.symm
          next => rfl

theorem resumeLate (h : Fair history) : Fair (history.perform .resumeLate) := by
  simp only [perform, Fanout.resumeLate]
  split
  next => exact h
  next pending waits =>
    split
    next => exact h
    next id ids head =>
      split
      next room => exact h.pushed _ waits head room.2 rfl rfl rfl rfl
      next => exact h

theorem reorder (h : Fair history) (ids : List Nat) : Fair (history.perform (.reorder ids)) := by
  simp only [perform, Fanout.reorder]
  split
  next => exact h
  next pending waits =>
    split
    next isPerm =>
      have perm : ids.Perm pending.ids := List.isPerm_iff.mp isPerm
      obtain ⟨distinct, known⟩ := h.waiting waits
      refine ⟨h.closed, h.nobody, h.heardFirst, h.heardAll, h.distinct, h.known, ?_, ?_⟩
      · rintro _ ⟨⟩
        exact ⟨perm.nodup_iff.mpr distinct, fun id member => known id (perm.subset member)⟩
      · intro id queue found
        have served := h.served found
        simp only [awaited, waits, ← perm.mem_iff] at served
        exact served
    next => exact h

theorem perform (h : Fair history) (action : Action) : Fair (history.perform action) := by
  cases action with
  | subscribe capacity => exact h.subscribe capacity
  | unsubscribe id => exact h.unsubscribe id
  | receive id => exact h.receive id
  | dropReceiver id => exact h.dropReceiver id
  | close => exact h.close
  | publish output => exact h.publish output
  | resume => exact h.resume
  | resumeLate => exact h.resumeLate
  | reorder ids => exact h.reorder ids

end Fair

theorem new_fair : Fair new where
  closed := rfl
  nobody closed := by cases closed
  heardFirst := List.nil_prefix
  heardAll _ := rfl
  distinct := List.nodup_nil
  known _ member := by cases member
  waiting waits := by cases waits
  served found := by cases found

/-- Every history of actions is fair. -/
theorem run_fair (actions : List Action) : Fair (run actions) := by
  unfold run
  -- From any fair history, since the first action leads away from the new one.
  suffices every : ∀ history, Fair history → Fair (actions.foldl History.perform history) from
    every new new_fair
  induction actions with
  | nil => exact fun _ h => h
  | cons action rest ih => exact fun history h => ih _ (h.perform action)

theorem accounts_publish (history : History) (output : Output) :
    (history.perform (.publish output)).accounts = history.accounts := by
  simp only [perform]
  split <;> rfl

theorem perform_receive_item {history : History} {id : Nat} {output : Output} {fanout : Fanout}
    (taken : history.fanout.receive id = (.item output, fanout)) :
    history.perform (.receive id) =
      { history with
        fanout
        accounts := history.note id fun account =>
          { account with received := account.received ++ [output] } } := by
  simp only [perform, taken]

theorem accounts_receive {history : History} {id : Nat} {output : Output}
    (item : (history.fanout.receive id).1 = .item output) :
    (history.perform (.receive id)).accounts =
      history.note id fun account => { account with received := account.received ++ [output] } := by
  rw [perform_receive_item (Prod.ext item rfl)]

/-- The capacity of a queue stays as it was when it was made. -/
theorem capacity_perform {history : History} {action : Action}
    (notNew : ∀ capacity, action ≠ .subscribe capacity) (id : Nat) :
    ((history.perform action).fanout.queues[id]?).map (·.capacity) =
      (history.fanout.queues[id]?).map (·.capacity) := by
  have pushed (other : Nat) (output : Output) :
      ((history.fanout.push other output).queues[id]?).map (·.capacity) =
        (history.fanout.queues[id]?).map (·.capacity) := by
    rw [queue_push, Option.map_map]
    congr 1
    funext queue
    simp only [Function.comp_apply]
    split <;> rfl
  cases action with
  | subscribe capacity => exact absurd rfl (notNew capacity)
  | unsubscribe | close => rfl
  | receive other =>
      cases found : history.fanout.queues[other]? with
      | none => simp [perform, Fanout.receive, found]
      | some queue =>
          cases items : queue.items with
          | nil =>
              simp only [perform, Fanout.receive, found, items]
              cases history.fanout.hasSender other <;> rfl
          | cons output rest =>
              simp only [perform, Fanout.receive, found, items, List.getElem?_set]
              split
              next same =>
                subst same
                rw [if_pos (List.getElem?_eq_some_iff.mp found).1, found]
                rfl
              next => rfl
  | dropReceiver other =>
      simp only [perform, queue_dropReceiver, Option.map_map]
      congr 1
      funext queue
      simp only [Function.comp_apply]
      split <;> rfl
  | publish output =>
      simp only [perform]
      split
      next => rfl
      next =>
        rw [queue_publish, Option.map_map]
        congr 1
        funext queue
        simp only [Function.comp_apply]
        split <;> rfl
  | resume =>
      simp only [perform, Fanout.resume]
      split
      next => rfl
      next pending _ =>
        split
        next => rfl
        next other _ _ =>
          split
          next => rfl
          next =>
            split
            next => rfl
            next => rfl
            next => exact pushed other pending.output
  | resumeLate =>
      simp only [perform, Fanout.resumeLate]
      split
      next => rfl
      next pending _ =>
        split
        next => rfl
        next other _ _ =>
          split
          next => exact pushed other pending.output
          next => rfl
  | reorder ids =>
      simp only [perform, Fanout.reorder]
      split
      next => rfl
      next => split <;> rfl

/-- Whoever sees the end has taken everything, and if they stayed, it is the end for all. -/
theorem Fair.ended {history : History} (h : Fair history) {id : Nat} {queue : OutputQueue}
    (found : history.fanout.queues[id]? = some queue)
    (ended : (history.fanout.receive id).1 = .ended) :
    queue.items = [] ∧
      ((history.accounts id).isUnsubscribed = false → (history.accounts id).isDropped = false →
        history.isClosed = true) := by
  cases items : queue.items with
  | cons output rest => simp [Fanout.receive, found, items] at ended
  | nil =>
      refine ⟨rfl, fun subscribed receives => ?_⟩
      have served := h.served found
      have hasReceiver : queue.hasReceiver = true := by rw [served.receiver, receives]; rfl
      by_contra isOpen
      rw [Bool.not_eq_true] at isOpen
      have attached := served.stays isOpen subscribed hasReceiver
      simp [Fanout.receive, found, items, hasSender, attached] at ended

/-- What a receiver gets is a gap-free run of what was published after its subscription. While it is
    subscribed, receives and nothing is closed, only what the publisher holds for it is missing. An
    unbounded queue gets all that was published before the end, and whoever sees its end has it. -/
theorem run_gap_free (actions : List Action) {id : Nat} {queue : OutputQueue}
    (found : (run actions).fanout.queues[id]? = some queue) :
    let history := run actions
    let account := history.accounts id
    account.received ++ queue.items <+: history.published.drop account.start ∧
      (account.isUnsubscribed = false → account.isDropped = false → history.isClosed = false →
        account.received ++ queue.items ++ (awaited history.fanout.pending id).toList =
          history.published.drop account.start) ∧
      (queue.capacity = none → account.isUnsubscribed = false → account.isDropped = false →
        account.received ++ queue.items = history.heard.drop account.start ∧
        ((history.fanout.receive id).1 = .ended →
          account.received = history.heard.drop account.start)) := by
  intro history account
  have served := (run_fair actions).served found
  have heard : history.heard.drop account.start <+: history.published.drop account.start :=
    List.IsPrefix.drop (run_fair actions).heardFirst _
  refine ⟨served.inOrder.trans heard, ?_, ?_⟩
  · intro subscribed receives isOpen
    have hasReceiver : queue.hasReceiver = true := by rw [served.receiver, receives]; rfl
    rw [← (run_fair actions).heardAll isOpen]
    exact served.complete (.inl (served.stays isOpen subscribed hasReceiver)) hasReceiver
  · intro unlimited subscribed receives
    have hasReceiver : queue.hasReceiver = true := by rw [served.receiver, receives]; rfl
    have all := served.unbounded unlimited subscribed hasReceiver
    refine ⟨all, fun ended => ?_⟩
    obtain ⟨empty, -⟩ := (run_fair actions).ended found ended
    rwa [empty, List.append_nil] at all

/-- The second queue holds one item and makes the publisher wait, and the end comes meanwhile. -/
theorem run_gap_free_stalled :
    let first : Output := ⟨[104, 105], .enabled⟩
    let second : Output := ⟨[33], .disabled⟩
    let history := run
      [.subscribe none, .subscribe (some 1), .publish first, .publish second, .close, .receive 1,
        .resume]
    history.fanout.queues[0]? = some ⟨none, [first, second], true⟩ ∧
      (history.accounts 0).received ++ [first, second] = history.heard.drop 0 ∧
      (history.accounts 1).received ++ [] <+: history.published.drop 0 := by
  intro first second history
  obtain ⟨-, -, all⟩ := run_gap_free
    [.subscribe none, .subscribe (some 1), .publish first, .publish second, .close, .receive 1,
      .resume] (show history.fanout.queues[0]? = some ⟨none, [first, second], true⟩ from rfl)
  obtain ⟨inOrder, -, -⟩ := run_gap_free
    [.subscribe none, .subscribe (some 1), .publish first, .publish second, .close, .receive 1,
      .resume] (show history.fanout.queues[1]? = some ⟨some 1, [], true⟩ from rfl)
  exact ⟨rfl, (all rfl rfl rfl).1, inOrder⟩

end History

end TerminalAgent.Fanout
