import TerminalAgent.Proofs.Config.Checks
import TerminalAgent.Proofs.Recording.FileNames
import TerminalAgent.Proofs.Router.Sequence

/-! # The size of the terminal

A terminal gets its size from the configuration or from the request that starts its shell, and later
from requests to change it. A size to start with has no dimension that is zero, but nothing checks the
size that a later request asks for.
-/

namespace TerminalAgent

/-- Whether a terminal of this size, in columns and rows, has room for a character. -/
def HasArea (size : UInt16 × UInt16) : Prop := size.1 ≠ 0 ∧ size.2 ≠ 0

/-! ## What is started -/

theorem Config.hasArea_of_check {env : Environment} {config : Config}
    (checked : config.check env = .ok ()) : HasArea (config.shell.cols, config.shell.rows) :=
  (check_eq_ok.mp checked).size

theorem Connection.hasArea_of_sizeOf {message : Message} {size : UInt16 × UInt16}
    (asked : sizeOf? message = some size) : HasArea size := by
  unfold sizeOf? at asked
  split at asked
  next =>
    split at asked
    next positive =>
      cases asked
      obtain ⟨cols, rows⟩ := by simpa using positive
      exact ⟨UInt16.pos_iff_ne_zero.mp cols, UInt16.pos_iff_ne_zero.mp rows⟩
    next => cases asked
  next => cases asked

/-! ## Sessions -/

namespace RunningSession

variable {π σ : Type} {session session' : RunningSession π}

/-- The size of the terminal in columns and rows. -/
def size (session : RunningSession π) : UInt16 × UInt16 := (session.pty.cols, session.pty.rows)

theorem Further.size (h : Further session session') : session'.size = session.size := by
  obtain ⟨_, _, rfl⟩ := h
  rfl

theorem size_unwatch (session : RunningSession π) : session.unwatch.size = session.size := by
  unfold unwatch
  split <;> rfl

theorem size_start (store : RecordingStore σ) (settings : Option RecorderSettings)
    (pty : PtySession π) (s : σ) :
    (start store settings pty s).1.size = (pty.cols, pty.rows) := by
  cases settings <;> rfl

theorem size_advance (host : Host π) (store : RecordingStore σ) (session : RunningSession π) (s : σ) :
    (session.advance host store s).2.1.size = session.size := by
  let pulled := { session with pty := (session.pty.pull host).2 }
  have same : pulled.size = session.size := by
    simp only [pulled, size, PtySession.pull]
    split <;> rfl
  have delivered := (deliverAll_further store pulled (session.pty.pull host).1 s).size.trans same
  simp only [advance]
  split
  next => exact (finishRecording_further store _ _).size.trans delivered
  next => exact delivered

end RunningSession

/-! ## Requests -/

namespace Registry

variable {π σ : Type} {host : Host π} {store : RecordingStore σ} {registry : Registry π}
  {size : UInt16 × UInt16}

/-- The size of the terminal of the session that runs. -/
def size? (registry : Registry π) : Option (UInt16 × UInt16) :=
  registry.slot.running?.map RunningSession.size

theorem size?_running {session : RunningSession π} (slot : registry.slot = .running session) :
    registry.size? = some session.size := by
  rw [size?, slot]
  rfl

/-- Where the size of the terminal comes from after a request. -/
inductive Sized (host : Host π) (registry : Registry π) (size : UInt16 × UInt16) : Request → Prop
  | kept {request : Request} (before : registry.size? = some size) : Sized host registry size request
  | started {id : String} {asked : Option (UInt16 × UInt16)}
      (spec : size = ((registry.specOf asked).cols, (registry.specOf asked).rows)) :
      Sized host registry size (.spawn id asked)
  | resized {id : String} (accepted : (registry.resize host id size.1 size.2).1 = .ok ()) :
      Sized host registry size (.resize id size.1 size.2)

theorem spec_claim {claimed : Registry π} (claim : registry.claim = .ok claimed) :
    claimed.spec = registry.spec := by
  unfold Registry.claim at claim
  split at claim <;> cases claim <;> rfl

theorem spec_abandon (registry : Registry π) : registry.abandon.spec = registry.spec := by
  unfold abandon
  split <;> rfl

theorem spec_spawn (id : String) (asked : Option (UInt16 × UInt16)) (s : σ) :
    (registry.spawn host store id asked s).2.1.spec = registry.spec := by
  unfold spawn
  cases claim : registry.claim with
  | error error => rfl
  | ok claimed =>
      have same : claimed.spec = registry.spec := spec_claim claim
      cases PtySession.start host id (registry.specOf asked) with
      | error error => exact (spec_abandon claimed).trans same
      | ok pty => exact same

theorem spec_use (id : String) (operation : PtySession π → Except SessionError Unit × PtySession π) :
    (registry.use id operation).2.spec = registry.spec := by
  unfold use
  split <;> rfl

/-- The settings of a registry are those that it was made with. -/
theorem spec_serve (registry : Registry π) (s : σ) (request : Request) :
    (registry.serve host store s request).2.1.spec = registry.spec := by
  cases taken : registry.taken? request with
  | some session =>
      rw [serve_of_taken taken]
      rfl
  | none =>
      cases request with
      | spawn id asked => exact spec_spawn id asked s
      | write id data => exact spec_use id fun pty => pty.write host data
      | resize id cols rows => exact spec_use id fun pty => pty.resize host cols rows
      | stop | reap | shutdown => rw [serve_of_missing rfl taken]

theorem sized_of_spawn {id : String} {asked : Option (UInt16 × UInt16)} {s : σ}
    (after : (registry.spawn host store id asked s).2.1.size? = some size) :
    registry.Sized host size (.spawn id asked) := by
  unfold spawn at after
  cases claim : registry.claim with
  | error error =>
      rw [claim] at after
      exact .kept after
  | ok claimed =>
      simp only [claim] at after
      cases started : PtySession.start host id (registry.specOf asked) with
      | error error =>
          have vacant : claimed.abandon.size? = none := by
            rw [size?, running?_abandon claim, Option.map_none]
          simp only [started] at after
          rw [vacant] at after
          cases after
      | ok pty =>
          have filled : (claimed.fill store pty s).1.size? = some (pty.cols, pty.rows) :=
            congrArg some (RunningSession.size_start store claimed.recording pty s)
          simp only [started] at after
          rw [filled] at after
          cases after
          unfold PtySession.start at started
          split at started <;> cases started
          exact .started rfl

/-- What is typed at a terminal leaves its size alone. -/
theorem sized_of_write {id : String} {data : Bytes}
    (after : (registry.write host id data).2.size? = some size) :
    registry.Sized host size (.write id data) := by
  unfold write use at after
  cases found : registry.lookup id with
  | error error =>
      rw [found] at after
      exact .kept after
  | ok session =>
      rw [found] at after
      refine .kept ?_
      rw [size?_running (find?_eq_some.mp (lookup_ok found)).1, ← after]
      simp only [PtySession.write]
      split <;> rfl

theorem resize_accepted {id : String} {session : RunningSession π}
    (found : registry.lookup id = .ok session) (host : Host π) (cols rows : UInt16) :
    (∃ error process, registry.resize host id cols rows = (.error error, { registry with
      slot := .running { session with pty := { session.pty with process } } })) ∨
    ∃ process, registry.resize host id cols rows = (.ok (), { registry with
      slot := .running { session with pty := { session.pty with process, cols, rows } } }) := by
  simp only [resize, use, found, PtySession.resize]
  split
  next => exact .inl ⟨_, session.pty.process, rfl⟩
  next =>
    split
    next => exact .inl ⟨_, _, rfl⟩
    next => exact .inr ⟨_, rfl⟩

theorem sized_of_resize {id : String} {cols rows : UInt16}
    (after : (registry.resize host id cols rows).2.size? = some size) :
    registry.Sized host size (.resize id cols rows) := by
  cases found : registry.lookup id with
  | error error =>
      simp only [resize, use, found] at after
      exact .kept after
  | ok session =>
      have slot := (find?_eq_some.mp (lookup_ok found)).1
      obtain ⟨error, process, refused⟩ | ⟨process, accepted⟩ :=
        resize_accepted found host cols rows
      · rw [refused, size?_running rfl] at after
        exact .kept (by rw [size?_running slot, ← after]; rfl)
      · rw [accepted, size?_running rfl] at after
        cases after
        exact .resized (congrArg Prod.fst accepted)

/-- A request leaves the size of the terminal alone, starts a shell or is accepted as a resize. -/
theorem sized_of_serve {request : Request} {s : σ}
    (after : (registry.serve host store s request).2.1.size? = some size) :
    registry.Sized host size request := by
  cases taken : registry.taken? request with
  | some session =>
      rw [serve_of_taken taken] at after
      cases after
  | none =>
      cases request with
      | spawn id asked => exact sized_of_spawn after
      | write id data => exact sized_of_write after
      | resize id cols rows => exact sized_of_resize after
      | stop | reap | shutdown =>
          rw [serve_of_missing rfl taken] at after
          exact .kept after

/-- After a resize that was accepted, the terminal has the size that was asked for. -/
theorem size?_resize {id : String} {cols rows : UInt16}
    (accepted : (registry.resize host id cols rows).1 = .ok ()) :
    (registry.resize host id cols rows).2.size? = some (cols, rows) := by
  cases found : registry.lookup id with
  | error error =>
      simp only [resize, use, found] at accepted
      cases accepted
  | ok session =>
      obtain ⟨error, process, refused⟩ | ⟨process, resized⟩ :=
        resize_accepted found host cols rows
      · rw [refused] at accepted
        cases accepted
      · rw [resized]
        rfl

/-- A terminal that runs has an area, and so has any that is started without a size of its own. -/
structure Roomy (registry : Registry π) : Prop where
  spec : HasArea (registry.spec.cols, registry.spec.rows)
  running : ∀ {size}, registry.size? = some size → HasArea size

namespace Roomy

theorem serve (h : registry.Roomy) (host : Host π) (request : Request)
    (area : ∀ {size}, registry.Sized host size request → HasArea size) (store : RecordingStore σ)
    (s : σ) : (registry.serve host store s request).2.1.Roomy where
  spec := by
    rw [spec_serve]
    exact h.spec
  running after := area (sized_of_serve after)

theorem reap (h : registry.Roomy) (host : Host π) (store : RecordingStore σ) (id : String) (s : σ) :
    (registry.reap host store id s).2.1.Roomy := by
  refine h.serve host (.reap id) (fun sized => ?_) store s
  cases sized with
  | kept before => exact h.running before

theorem shutdown (h : registry.Roomy) (host : Host π) (store : RecordingStore σ) (s : σ) :
    (registry.shutdown host store s).2.1.Roomy := by
  refine h.serve host .shutdown (fun sized => ?_) store s
  cases sized with
  | kept before => exact h.running before

/-- The session that runs goes on with the terminal that it has. -/
theorem goesOn (h : registry.Roomy) {session session' : RunningSession π}
    (slot : registry.slot = .running session) (same : session'.size = session.size) :
    Roomy { registry with slot := .running session' } where
  spec := h.spec
  running after := by
    cases after
    rw [same]
    exact h.running (size?_running slot)

end Roomy

end Registry

/-! ## Connections -/

namespace Connection

variable {π σ : Type} {host : Host π} {store : RecordingStore σ} {connection : Connection π σ}

/-- A request is accepted that asks for this size of the terminal. -/
inductive Resizes (host : Host π) (connection : Connection π σ) : Event → UInt16 × UInt16 → Prop
  | arrive {fresh : String} {bytes : Bytes} {message : Message} {cols rows : UInt16}
      (decoded : Message.decode bytes = .ok message) (shell : message.proto = Proto.shell)
      (typ : message.typ = Kind.resize)
      (width : message.word? Key.terminalWidth = some cols)
      (height : message.word? Key.terminalHeight = some rows)
      (accepted : (connection.registry.resize host (targetId message) cols rows).1 = .ok ()) :
      Resizes host connection (.arrive fresh bytes) (cols, rows)

/-- The replies are taken, and the terminals have an area. -/
structure Roomy (connection : Connection π σ) : Prop where
  isOpen : connection.outbound.isOpen = true
  registry : connection.registry.Roomy

namespace Roomy

theorem hasArea_specOf (h : Roomy connection) (message : Message) :
    let spec := connection.registry.specOf (sizeOf? message)
    HasArea (spec.cols, spec.rows) := by
  cases asked : sizeOf? message with
  | none => exact h.registry.spec
  | some size => exact hasArea_of_sizeOf asked

theorem hasArea_of_asks (h : Roomy connection) {fresh : String} {bytes : Bytes} {message : Message}
    (decoded : Message.decode bytes = .ok message) (shell : message.proto = Proto.shell)
    {request : Registry.Request} (asks : Asks fresh message request)
    (area : ∀ {size}, Resizes host connection (.arrive fresh bytes) size → HasArea size)
    {size : UInt16 × UInt16} (sized : connection.registry.Sized host size request) :
    HasArea size := by
  cases sized with
  | kept before => exact h.registry.running before
  | started spec =>
      cases asks
      rw [spec]
      exact h.hasArea_specOf message
  | resized accepted =>
      generalize asked : Registry.Request.resize _ size.1 size.2 = request at asks
      cases asks with
      | spawn | input | stop => cases asked
      | resize typ width height =>
          cases asked
          exact area (.arrive decoded shell typ width height accepted)

theorem arrive (h : Roomy connection) {fresh : String} {bytes : Bytes}
    (area : ∀ {size}, Resizes host connection (.arrive fresh bytes) size → HasArea size) :
    Roomy (connection.handle host store fresh bytes).2 := by
  cases decoded : Message.decode bytes with
  | error error =>
      rw [handle_of_malformed h.isOpen decoded]
      exact ⟨h.isOpen, h.registry⟩
  | ok message =>
      cases fault : fault? message with
      | some error =>
          rw [handle_of_fault h.isOpen decoded fault]
          exact ⟨h.isOpen, h.registry⟩
      | none =>
          cases asked : request? fresh message with
          | none =>
              rw [handle_of_plain h.isOpen decoded fault asked]
              exact ⟨h.isOpen, h.registry⟩
          | some request =>
              obtain ⟨shell, asks⟩ := asks_of_request asked
              have roomy := h.registry.serve host request
                (h.hasArea_of_asks decoded shell asks area) store connection.store
              cases served : (connection.registry.serve host store connection.store request).1 with
              | none =>
                  rw [handle_of_endless h.isOpen decoded asked served]
                  exact ⟨h.isOpen, roomy⟩
              | some reply =>
                  rw [handle_of_request h.isOpen decoded asked served]
                  exact ⟨h.isOpen, roomy⟩

theorem advance (h : Roomy connection) : Roomy (connection.advance host store) := by
  cases slot : connection.registry.slot with
  | absent | starting | stopped =>
      simp only [Connection.advance, slot]
      exact h
  | running session =>
      have went := h.registry.goesOn slot (session.size_advance host store connection.store)
      simp only [Connection.advance, slot]
      rw [forward_open _ (by exact h.isOpen)]
      simp only [if_true]
      split
      next =>
        have reaped := went.reap host store session.pty.id
          (session.advance host store connection.store).2.2
        split
        next =>
          refine ⟨?_, reaped⟩
          simp only [Outbound.send]
          split <;> exact h.isOpen
        next => exact ⟨h.isOpen, reaped⟩
      next => exact ⟨h.isOpen, went⟩

theorem shutdown (h : Roomy connection) : Roomy (connection.shutdown host store) := by
  unfold Connection.shutdown
  split
  next => exact h
  extract_lets slot
  have left : Registry.Roomy { connection.registry with slot } := by
    dsimp only [slot]
    split
    next session slot => exact h.registry.goesOn slot session.size_unwatch
    next => exact h.registry
  exact ⟨h.isOpen, left.shutdown host store connection.store⟩

/-- Only a resize that is accepted can take the area away. -/
theorem step (h : Roomy connection) {event : Event}
    (area : ∀ {size}, Resizes host connection event size → HasArea size) :
    Roomy (connection.step host store event) := by
  cases event with
  | arrive fresh bytes => exact h.arrive area
  | advance => exact h.advance
  | takeSent => exact ⟨h.isOpen, h.registry⟩
  | shutdown => exact h.shutdown

theorem run (h : Roomy connection) {events : List Event}
    (area : ∀ before event after, events = before ++ event :: after →
      ∀ {size}, Resizes host (connection.run host store before) event size → HasArea size) :
    Roomy (connection.run host store events) := by
  induction events generalizing connection with
  | nil => exact h
  | cons event rest ih =>
      have first : Roomy (connection.step host store event) := h.step (area [] event rest rfl)
      exact ih first fun before next after split =>
        area (event :: before) next after (congrArg (event :: ·) split)

end Roomy

/-- After a resize that is accepted, the terminal has the size that was asked for. -/
theorem size?_step {event : Event} {size : UInt16 × UInt16}
    (isOpen : connection.outbound.isOpen = true) (resizes : Resizes host connection event size) :
    (connection.step host store event).registry.size? = some size := by
  cases resizes with
  | @arrive fresh bytes message cols rows decoded shell typ width height accepted =>
      have notSpawn : message.typ ≠ Kind.spawn := by rw [typ]; decide
      have notInput : message.typ ≠ Kind.shell := by rw [typ]; decide
      have notStop : message.typ ≠ Kind.stop := by rw [typ]; decide
      have asked : request? fresh message = some (.resize (targetId message) cols rows) := by
        simp only [request?, width, height]
        rw [if_pos shell, if_neg notSpawn, if_neg notInput, if_neg notStop, if_pos typ]
      rw [Connection.step, handle_of_request isOpen decoded asked rfl]
      exact Registry.size?_resize accepted

/-- As long as terminals have an area, only such sizes were asked for. -/
theorem Roomy.of_sizes (h : Roomy connection) {events : List Event}
    (sizes : ∀ {before after}, events = before ++ after →
      ∀ {size}, (connection.run host store before).registry.size? = some size → HasArea size)
    {before after : List Event} (split : events = before ++ after) :
    Roomy (connection.run host store before) := by
  induction before using List.reverseRecOn generalizing after with
  | nil => exact h
  | append_singleton before event ih =>
      have earlier : Roomy (connection.run host store before) :=
        ih (by rw [split, List.append_assoc])
      have last : connection.run host store (before ++ [event]) =
          (connection.run host store before).step host store event := List.foldl_concat ..
      rw [last]
      refine earlier.step fun resizes => sizes split ?_
      rw [last]
      exact size?_step earlier.isOpen resizes

/-! ## Settings and requests -/

/-- A machine with one shell, which is on the search path. -/
def oneShell : Environment where
  vars := (∅ : SortedMap String).insert "PATH" ""
  files := ⟨[(["sh"], .file [] true)]⟩
  accountHome := "/root"
  workingDirectory := "/"

theorem hasCommand_oneShell : oneShell.hasCommand "sh" = true := by
  have parts : "sh".splitOn "/" = ["sh"] := splitOn_slash (by decide)
  have search : oneShell.searchPath = [""] := by
    have nothing : String.Pos.Raw.extract "" 0 0 = "" := by decide +kernel
    have path : oneShell.value? "PATH" = some "" := by decide +kernel
    simp [Environment.searchPath, path, String.splitOn, String.splitOnAux, nothing]
  have here : oneShell.files.isProgram "sh" = true := by
    simp only [FileTree.isProgram, FileTree.lookup, FileTree.resolve, parts]
    decide +kernel
  have relative : Path.isAbsolute "sh" = false := by decide +kernel
  have alone : Path.parts "sh" = ["sh"] := by
    simp only [Path.parts, parts]
    decide
  simp [Environment.hasCommand, relative, alone, search, Path.join, here]

/-- Settings for that machine. -/
def oneShellConfig : Config :=
  let config := Config.default oneShell
  { config with
    server := { config.server with url := "ws://[::1]" }
    shell := { config.shell with command := "sh" } }

theorem check_oneShellConfig : oneShellConfig.check oneShell = .ok () := by
  have command : oneShell.hasCommand oneShellConfig.shell.command = true := hasCommand_oneShell
  unfold Config.check
  rw [command]
  decide +kernel

/-- A request for a terminal of this size. -/
def sizeRequest (typ id : String) (cols rows : UInt16) : Message :=
  (((Message.new Proto.shell typ).withSessionId id).withProperty Key.terminalWidth
    (.int (Int64.ofNat cols.toNat))).withProperty Key.terminalHeight (.int (Int64.ofNat rows.toNat))

/-- A shell is started, and its terminal shrinks to nothing. -/
def shrinking : List Event :=
  [.arrive "a" (sizeRequest Kind.spawn "" 100 30).encode,
    .arrive "b" (sizeRequest Kind.resize "a" 0 24).encode]

/-! ## Runs -/

/-- With a checked configuration, a terminal that runs has at no time a dimension that is zero, exactly
    if no resize is accepted that asks for one. -/
theorem run_hasArea_iff {env : Environment} {config : Config} (checked : config.check env = .ok ())
    (host : Host π) (store : RecordingStore σ) (recording : Option RecorderSettings) (s : σ)
    (events : List Event) :
    let connection := Connection.new (.ofConfig config.shell) recording s
    (∀ before after, events = before ++ after →
      ∀ cols rows, (connection.run host store before).registry.size? = some (cols, rows) →
        cols ≠ 0 ∧ rows ≠ 0) ↔
    ∀ before event after, events = before ++ event :: after →
      ∀ cols rows, Resizes host (connection.run host store before) event (cols, rows) →
        cols ≠ 0 ∧ rows ≠ 0 := by
  intro connection
  have fresh : Roomy connection := by
    refine ⟨rfl, Config.hasArea_of_check checked, ?_⟩
    rintro _ ⟨⟩
  constructor
  · intro sizes before event after split cols rows resizes
    have roomy := fresh.of_sizes (fun {_ _} split {_} => sizes _ _ split _ _) split
    refine sizes (before ++ [event]) after (by rw [split]; simp) cols rows ?_
    rw [show connection.run host store (before ++ [event]) = _ from List.foldl_concat ..]
    exact size?_step roomy.isOpen resizes
  · intro resizes before after split cols rows size
    have roomy : Roomy (connection.run host store before) := by
      refine fresh.run fun earlier event later parts {_} => resizes earlier event (later ++ after) ?_ _ _
      rw [split, parts]
      simp
    exact roomy.registry.running size

/-- The two requests that shrink a terminal to nothing: one of them is accepted as a resize to nothing. -/
theorem run_hasArea_iff_shrinking :
    oneShellConfig.check oneShell = .ok () ∧
      let connection := Connection.new (.ofConfig oneShellConfig.shell) none MemoryStore.empty
      ¬ ∀ before event after, shrinking = before ++ event :: after →
        ∀ cols rows, Resizes .silent (connection.run .silent MemoryStore.recording before) event
          (cols, rows) → cols ≠ 0 ∧ rows ≠ 0 := by
  refine ⟨check_oneShellConfig, ?_⟩
  intro connection resizes
  have sizes := (run_hasArea_iff check_oneShellConfig .silent MemoryStore.recording none MemoryStore.empty
    shrinking).mpr resizes
  have shrunk : (connection.run .silent MemoryStore.recording shrinking).registry.size? =
      some (0, 24) := by decide +kernel
  exact (sizes shrinking [] (by rw [List.append_nil]) 0 24 shrunk).1 rfl

/-- A terminal can shrink to nothing. -/
theorem shrinks_to_nothing :
    ¬ ∀ (env : Environment) (config : Config), config.check env = .ok () →
      ∀ events : List Event,
        let connection := Connection.new (.ofConfig config.shell) none MemoryStore.empty
        ∀ cols rows, (connection.run .silent MemoryStore.recording events).registry.size? =
          some (cols, rows) → cols ≠ 0 ∧ rows ≠ 0 := by
  intro sizes
  refine (sizes oneShell oneShellConfig check_oneShellConfig shrinking 0 24 ?_).1 rfl
  decide +kernel

end Connection

end TerminalAgent
