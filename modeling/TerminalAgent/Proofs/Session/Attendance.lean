import TerminalAgent.Proofs.Session.Fanout

/-! # A fan-out with a recorder and a watcher

The first queue of a session is that of its recorder, which has no bound, and the second is that of
whoever watches. The recorder that sees the end has got everything, and so has the watcher unless the
reader had to wait for room at the end.
-/

namespace TerminalAgent.Fanout.History

/-- The fan-out of a recorded session: the recorder has a queue without a bound and never leaves. -/
structure Attended (history : History) : Prop where
  fair : Fair history
  lossless : (history.fanout.queues[0]?).map (·.capacity) = some none
  live : ((history.fanout.queues[1]?).map (·.capacity)).isSome
  recorder : (history.accounts 0).start = 0 ∧ (history.accounts 0).isUnsubscribed = false ∧
    (history.accounts 0).isDropped = false
  watcher : (history.accounts 1).start = 0 ∧ (history.accounts 1).isUnsubscribed = false
  short : ∀ output ∈ history.heard, output.data.length ≤ 4096

/-- What a session does with its fan-out. -/
def IsOfSession : Action → Prop
  | .subscribe _ | .unsubscribe _ => False
  | .dropReceiver id => id ≠ 0
  | .publish output => output.data.length ≤ 4096
  | _ => True

variable {history : History} {action : Action}

theorem heard_perform (history : History) (action : Action) :
    (history.perform action).heard = history.heard ∨
      ∃ output, action = .publish output ∧ history.isClosed = false ∧
        (history.perform action).heard = history.heard ++ [output] := by
  cases action with
  | publish output =>
      simp only [perform]
      split
      next => exact .inl rfl
      next =>
        cases closed : history.isClosed with
        | true => exact .inl (by simp)
        | false => exact .inr ⟨output, rfl, rfl, by simp⟩
  | receive id =>
      simp only [perform]
      split <;> exact .inl rfl
  | subscribe | unsubscribe | dropReceiver | close | resume | resumeLate | reorder => exact .inl rfl

theorem isClosed_perform (history : History) (differs : action ≠ .close) :
    (history.perform action).isClosed = history.isClosed ∧
      (history.perform action).isClean = history.isClean := by
  cases action with
  | close => exact absurd rfl differs
  | publish output =>
      simp only [perform]
      split <;> exact ⟨rfl, rfl⟩
  | receive id =>
      simp only [perform]
      split <;> exact ⟨rfl, rfl⟩
  | subscribe | unsubscribe | dropReceiver | resume | resumeLate | reorder => exact ⟨rfl, rfl⟩

/-- What was heard before the end stays so. -/
theorem perform_of_closed (closed : history.isClosed = true) (action : Action) :
    (history.perform action).isClosed = true ∧
      (history.perform action).heard = history.heard ∧
      (history.perform action).isClean = history.isClean := by
  have heard : (history.perform action).heard = history.heard := by
    rcases heard_perform history action with same | ⟨-, -, isOpen, -⟩
    · exact same
    · simp [closed] at isOpen
  by_cases end_ : action = .close
  · subst end_
    exact ⟨rfl, heard, if_pos closed⟩
  · obtain ⟨isClosed, isClean⟩ := isClosed_perform history end_
    exact ⟨isClosed.trans closed, heard, isClean⟩

/-- Only what is received and whether someone receives may change. -/
theorem accounts_perform (history : History) (ofSession : IsOfSession action) (id : Nat) :
    history.accounts id = (history.perform action).accounts id ∨
      (∃ output, action = .receive id ∧ (history.fanout.receive id).1 = .item output ∧
        (history.perform action).accounts id =
          { history.accounts id with received := (history.accounts id).received ++ [output] }) ∨
      (action = .dropReceiver id ∧
        (history.perform action).accounts id = { history.accounts id with isDropped := true }) := by
  cases action with
  | subscribe | unsubscribe => cases ofSession
  | publish output => exact .inl (by rw [accounts_publish])
  | close | resume | resumeLate | reorder => exact .inl rfl
  | dropReceiver other =>
      by_cases same : id = other
      · subst same
        exact .inr (.inr ⟨rfl, by simp only [perform, note_same]⟩)
      · exact .inl (by simp only [perform, note_other _ same])
  | receive other =>
      cases taken : history.fanout.receive other with
      | mk received fanout =>
          cases received with
          | nothing | ended => exact .inl (by simp only [perform, taken])
          | item output =>
              rw [perform_receive_item taken]
              by_cases same : id = other
              · subst same
                exact .inr (.inl ⟨output, rfl, by rw [taken], by simp only [note_same]⟩)
              · exact .inl (by simp only [note_other _ same])

namespace Attended

theorem perform (h : Attended history) (ofSession : IsOfSession action) :
    Attended (history.perform action) := by
  have notNew : ∀ capacity, action ≠ .subscribe capacity := by
    rintro capacity rfl
    cases ofSession
  refine ⟨h.fair.perform action, ?_, ?_, ?_, ?_, ?_⟩
  · rw [capacity_perform notNew, h.lossless]
  · rw [capacity_perform notNew]
    exact h.live
  · rcases accounts_perform history ofSession 0 with same | ⟨_, -, -, after⟩ | ⟨drop, -⟩
    · rw [← same]
      exact h.recorder
    · rw [after]
      exact h.recorder
    · subst drop
      exact absurd rfl ofSession
  · rcases accounts_perform history ofSession 1 with same | ⟨_, -, -, after⟩ | ⟨-, after⟩
    · rw [← same]
      exact h.watcher
    · rw [after]
      exact h.watcher
    · rw [after]
      exact h.watcher
  · rcases heard_perform history action with same | ⟨output, rfl, -, after⟩
    · rw [same]
      exact h.short
    · rw [after]
      intro other member
      rcases List.mem_append.mp member with member | new
      · exact h.short other member
      · rw [List.mem_singleton.mp new]
        exact ofSession

/-- The recorder that sees the end has got all that was published before it. -/
theorem recorded_of_ended (h : Attended history)
    (ended : (history.fanout.receive 0).1 = .ended) :
    history.isClosed = true ∧ (history.accounts 0).received = history.heard := by
  obtain ⟨queue, found, unlimited⟩ := Option.map_eq_some_iff.mp h.lossless
  obtain ⟨start, subscribed, receives⟩ := h.recorder
  obtain ⟨empty, closed⟩ := h.fair.ended found ended
  have served := h.fair.served found
  have hasReceiver : queue.hasReceiver = true := by rw [served.receiver, receives]; rfl
  have all := served.unbounded unlimited subscribed hasReceiver
  rw [empty, List.append_nil, start, List.drop_zero] at all
  exact ⟨closed subscribed receives, all⟩

/-- What is received was published before the end. -/
theorem heard_of_item (h : Attended history) {id : Nat} {output : Output}
    (item : (history.fanout.receive id).1 = .item output) : output ∈ history.heard := by
  cases found : history.fanout.queues[id]? with
  | none => simp [Fanout.receive, found] at item
  | some queue =>
      cases items : queue.items with
      | nil =>
          simp only [Fanout.receive, found, items] at item
          split at item <;> cases item
      | cons first rest =>
          simp only [Fanout.receive, found, items, Received.item.injEq] at item
          have inQueue : output ∈ (history.accounts id).received ++ queue.items := by
            simp [items, item]
          exact List.mem_of_mem_drop ((h.fair.served found).inOrder.subset inQueue)

/-- The pump takes a first part of what was published. -/
theorem watched_prefix (h : Attended history) :
    (history.accounts 1).received <+: history.heard := by
  obtain ⟨queue, found⟩ := Option.isSome_iff_exists.mp h.live
  obtain ⟨queue, found, -⟩ := Option.map_eq_some_iff.mp found
  have inOrder := (h.fair.served found).inOrder
  rw [h.watcher.1, List.drop_zero] at inOrder
  exact (List.prefix_append _ _).trans inOrder

/-- The pump that sees the end has got everything, unless the reader had to wait at the end. -/
theorem watched_of_ended (h : Attended history) (receives : (history.accounts 1).isDropped = false)
    (ended : (history.fanout.receive 1).1 = .ended) :
    history.isClosed = true ∧
      (history.isClean = true → (history.accounts 1).received = history.heard) := by
  obtain ⟨queue, found⟩ := Option.isSome_iff_exists.mp h.live
  obtain ⟨queue, found, -⟩ := Option.map_eq_some_iff.mp found
  obtain ⟨start, subscribed⟩ := h.watcher
  obtain ⟨empty, closed⟩ := h.fair.ended found ended
  have isClosed := closed subscribed receives
  refine ⟨isClosed, fun isClean => ?_⟩
  have served := h.fair.served found
  have hasReceiver : queue.hasReceiver = true := by rw [served.receiver, receives]; rfl
  have all := served.clean isClosed isClean subscribed hasReceiver
  rwa [empty, List.append_nil, start, List.drop_zero] at all

end Attended

/-- Both are attached before anything is published. -/
theorem attended_of_attached : Attended (run [.subscribe none, .subscribe (some liveCapacity)]) where
  fair := run_fair _
  lossless := rfl
  live := rfl
  recorder := ⟨rfl, rfl, rfl⟩
  watcher := ⟨rfl, rfl⟩
  short output member := by cases member

end TerminalAgent.Fanout.History
