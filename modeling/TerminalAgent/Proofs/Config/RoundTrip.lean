import TerminalAgent.Proofs.Storage.FileTree
import TerminalAgent.Proofs.Storage.Path
import TerminalAgent.Proofs.Toml.Sections
import TerminalAgent.Config.File

/-! # Configurations read back

The text of a configuration is read as this configuration, whatever the defaults are.
-/

namespace TerminalAgent.Config

open Toml

/-! ## Settings -/

theorem natural_integer {n bound : Nat} (below : n < bound) (expected : String) (span : Span) :
    Decoder.natural bound expected (.scalar (.integer n) span) = .ok n := by
  have inRange : 0 ≤ (n : Int) ∧ (n : Int) < bound := ⟨Int.natCast_nonneg n, Int.ofNat_lt.mpr below⟩
  rw [Decoder.natural, if_pos inRange, Int.toNat_natCast]

theorem uint16_integer (n : UInt16) (span : Span) :
    Decoder.uint16 (.scalar (.integer n.toNat) span) = .ok n := by
  rw [Decoder.uint16, natural_integer n.toNat_lt]
  exact congrArg Except.ok UInt16.ofNat_toNat

theorem uint32_integer (n : UInt32) (span : Span) :
    Decoder.uint32 (.scalar (.integer n.toNat) span) = .ok n := by
  rw [Decoder.uint32, natural_integer n.toNat_lt]
  exact congrArg Except.ok UInt32.ofNat_toNat

theorem uint64_integer (n : UInt64) (span : Span) :
    Decoder.uint64 (.scalar (.integer n.toNat) span) = .ok n := by
  rw [Decoder.uint64, natural_integer n.toNat_lt]
  exact congrArg Except.ok UInt64.ofNat_toNat

theorem size_integer (n : UInt64) (span : Span) :
    Decoder.size (.scalar (.integer n.toNat) span) = .ok n := by
  rw [Decoder.size, natural_integer n.toNat_lt]
  exact congrArg Except.ok UInt64.ofNat_toNat

theorem restores_text? {σ : Type} {name : String} {decoder : Decoder String} {put : String → σ → σ}
    {write : σ → Written} {settings : List (Setting σ)} {values before after : σ} (s : Option String)
    (written : write values = text? s) (decoded : ∀ s span, decoder (.scalar (.text s) span) = .ok s)
    (rest : Restores values settings (s.elim before fun s => put s before) after) :
    Restores values (.of name decoder put write :: settings) before after := by
  cases s with
  | none => exact .absent written rest
  | some s => exact .of written (denotes_text s) (decoded s) rest

/-! ## Sections -/

/-- Numbers in a text have 64 bits with sign. -/
def Fits (n : UInt64) : Prop := n.toNat < 0x8000000000000000

theorem agent_regains (agent start : Agent) (unset : start.logDir = none) :
    agentFormat.Regains agent start := by
  obtain ⟨dataDir, logLevel, logDir⟩ := agent
  obtain ⟨_, _, _⟩ := start
  cases unset
  refine SectionFormat.regains_lines (by decide) (by decide) ?_
  refine .of rfl (denotes_text dataDir) (fun _ => rfl) ?_
  refine .of rfl (denotes_text logLevel) (fun _ => rfl) ?_
  refine restores_text? logDir rfl (fun _ _ => rfl) ?_
  cases logDir <;> exact .nil

theorem server_regains (server start : Server) (unset : start.token = none)
    (interval : Fits server.heartbeatIntervalSecs) (timeout : Fits server.heartbeatTimeoutSecs) :
    serverFormat.Regains server start := by
  obtain ⟨url, token, _, _⟩ := server
  obtain ⟨_, _, _, _⟩ := start
  cases unset
  refine SectionFormat.regains_lines (by decide) (by decide) ?_
  refine .of rfl (denotes_text url) (fun _ => rfl) ?_
  refine restores_text? token rfl (fun _ _ => rfl) ?_
  refine .of rfl (denotes_natural interval) (uint64_integer _) ?_
  refine .of rfl (denotes_natural timeout) (uint64_integer _) ?_
  cases token <;> exact .nil

theorem shell_regains (shell start : Shell) : shellFormat.Regains shell start := by
  obtain ⟨command, cols, rows, env⟩ := shell
  have small (n : UInt16) : n.toNat < 0x8000000000000000 := by
    have := n.toNat_lt
    omega
  have plain : Restores ⟨command, cols, rows, env⟩ shellFormat.settings.dropLast start
      { start with command, cols, rows } := by
    refine .of rfl (denotes_text command) (fun _ => rfl) ?_
    refine .of rfl (denotes_natural (small cols)) (uint16_integer cols) ?_
    exact .of rfl (denotes_natural (small rows)) (uint16_integer rows) .nil
  refine SectionFormat.regains_table rfl (by decide) (by decide) (by decide) plain rfl fun item read => ?_
  exact congrArg (Except.map fun env => (⟨command, cols, rows, env⟩ : Shell)) read

theorem recording_regains (recording start : Recording) (interval : Fits recording.flushIntervalMs)
    (threshold : Fits recording.flushThresholdBytes) : recordingFormat.Regains recording start := by
  refine SectionFormat.regains_lines (by decide) (by decide) ?_
  refine .of rfl (denotes_bool recording.enabled) (fun _ => rfl) ?_
  refine .of rfl (denotes_natural interval) (uint64_integer _) ?_
  exact .of rfl (denotes_natural threshold) (size_integer _) .nil

theorem playback_regains (playback start : Playback) (linger : Fits playback.lingerSecs) :
    playbackFormat.Regains playback start := by
  refine SectionFormat.regains_lines (by decide) (by decide) ?_
  refine .of rfl (denotes_bool playback.enabled) (fun _ => rfl) ?_
  refine .of rfl (denotes_text playback.listenAddr) (fun _ => rfl) ?_
  exact .of rfl (denotes_natural linger) (uint64_integer _) .nil

theorem reconnect_regains (reconnect start : Reconnect) (unset : start.maxAttempts = none)
    (initial : Fits reconnect.initialBackoffMs) (max : Fits reconnect.maxBackoffMs)
    (printed : Number.floatReader (writeFloat reconnect.multiplier).toList = .read reconnect.multiplier []) :
    reconnectFormat.Regains reconnect start := by
  obtain ⟨_, _, multiplier, maxAttempts⟩ := reconnect
  obtain ⟨_, _, _, _⟩ := start
  cases unset
  refine SectionFormat.regains_lines (by decide) (by decide) ?_
  refine .of rfl (denotes_natural initial) (uint64_integer _) ?_
  refine .of rfl (denotes_natural max) (uint64_integer _) ?_
  refine .of rfl (denotes_float printed) (fun _ => rfl) ?_
  cases maxAttempts with
  | none => exact .absent rfl .nil
  | some n =>
      have small : n.toNat < 0x8000000000000000 := by
        have := n.toNat_lt
        omega
      exact .of rfl (denotes_natural small) (uint32_integer n) .nil

theorem dependency_regains (dependency start : Dependency) (unset : start.socketPath = none)
    (interval : Fits dependency.pollIntervalMs) : dependencyFormat.Regains dependency start := by
  obtain ⟨socketPath, _⟩ := dependency
  obtain ⟨_, _⟩ := start
  cases unset
  refine SectionFormat.regains_lines (by decide) (by decide) ?_
  refine restores_text? socketPath rfl (fun _ _ => rfl) ?_
  refine .of rfl (denotes_natural interval) (uint64_integer _) ?_
  cases socketPath <;> exact .nil

/-! ## The whole -/

/-- The document so far closes with sections of these names, and from them the configuration is read. -/
def Reached (start config : Config) (names : List String) (draft : Draft) : Prop :=
  ∃ root, draft.close = .ok root ∧ root.entries.map (fun entry => entry.1.name) = names ∧
    readTable start root = .ok config

theorem leads_section {σ : Type} {format : SectionFormat σ} {values before : σ}
    {start config next : Config} {names : List String} {draft : Draft} (reached : Reached start config names draft)
    (fresh : format.name ∉ names) (regains : format.Regains values before)
    (read : ∀ item, format.read before item = .ok values → readSection format.name item config = .ok next) :
    Leads draft (format.write values).toList (Reached start next (names ++ [format.name])) := by
  obtain ⟨root, closed, rfl, soFar⟩ := reached
  have missing : root.find? format.name = none := by
    simp only [Table.find?, List.find?_eq_none, decide_eq_true_eq]
    intro entry member same
    exact fresh (List.mem_map.mpr ⟨entry, member, same⟩)
  refine (regains draft root closed missing).mono ?_
  rintro last ⟨key, item, named, closedLast, regained⟩
  have put := Table.put_new (named ▸ missing) item
  refine ⟨_, closedLast, ?_, ?_⟩
  · rw [put, ← named]
    simp
  · rw [put]
    refine foldlM_concat soFar ?_
    simp only [named, read item regained]
    rfl

theorem leads_then {σ : Type} {format : SectionFormat σ} {values before : σ} {start config next : Config}
    {names : List String} {draft : Draft} {text : List Char} (first : Leads draft text (Reached start config names))
    (regains : format.Regains values before) (fresh : format.name ∉ names)
    (read : ∀ item, format.read before item = .ok values → readSection format.name item config = .ok next) :
    Leads draft (text ++ '\n' :: (format.write values).toList) (Reached start next (names ++ [format.name])) := by
  refine first.append (by rintro c ⟨⟩; decide) fun middle reached => ?_
  refine (Leads.blankLine middle).append (format.lineStart_write values) ?_
  rintro _ rfl
  exact leads_section reached fresh regains read

structure Unset (config : Config) : Prop where
  logDir : config.agent.logDir = none
  token : config.server.token = none
  maxAttempts : config.reconnect.maxAttempts = none
  socketPath : config.dependency.socketPath = none

theorem leads_render {start config : Config} (unset : start.Unset) (fits : ∀ n ∈ config.wideNumbers, Fits n)
    (printed : Number.floatReader (writeFloat config.reconnect.multiplier).toList =
      .read config.reconnect.multiplier []) :
    Leads .new (render config).toList (Reached start config
      ["agent", "server", "shell", "recording", "playback", "reconnect", "dependency"]) := by
  obtain ⟨agent, server, shell, recording, playback, reconnect, dependency⟩ := config
  obtain ⟨agent₀, server₀, shell₀, recording₀, playback₀, reconnect₀, dependency₀⟩ := start
  obtain ⟨logDir, token, maxAttempts, socketPath⟩ := unset
  simp only [wideNumbers, List.forall_mem_cons] at fits
  obtain ⟨interval, timeout, flushInterval, threshold, linger, initial, max, poll, -⟩ := fits
  let start : Config := ⟨agent₀, server₀, shell₀, recording₀, playback₀, reconnect₀, dependency₀⟩
  have none : Reached start start [] .new := ⟨_, rfl, rfl, rfl⟩
  have first : Leads .new _ (Reached start
      ⟨agent, server₀, shell₀, recording₀, playback₀, reconnect₀, dependency₀⟩ ["agent"]) :=
    leads_section none (by decide) (agent_regains agent agent₀ logDir) fun _ => congrArg (Except.map _)
  have second : Leads .new _ (Reached start
      ⟨agent, server, shell₀, recording₀, playback₀, reconnect₀, dependency₀⟩ ["agent", "server"]) :=
    leads_then first (server_regains server server₀ token interval timeout) (by decide)
      fun _ => congrArg (Except.map _)
  have third : Leads .new _ (Reached start
      ⟨agent, server, shell, recording₀, playback₀, reconnect₀, dependency₀⟩ ["agent", "server", "shell"]) :=
    leads_then second (shell_regains shell shell₀) (by decide) fun _ => congrArg (Except.map _)
  have fourth : Leads .new _ (Reached start
      ⟨agent, server, shell, recording, playback₀, reconnect₀, dependency₀⟩
      ["agent", "server", "shell", "recording"]) :=
    leads_then third (recording_regains recording recording₀ flushInterval threshold) (by decide)
      fun _ => congrArg (Except.map _)
  have fifth : Leads .new _ (Reached start
      ⟨agent, server, shell, recording, playback, reconnect₀, dependency₀⟩
      ["agent", "server", "shell", "recording", "playback"]) :=
    leads_then fourth (playback_regains playback playback₀ linger) (by decide)
      fun _ => congrArg (Except.map _)
  have sixth : Leads .new _ (Reached start
      ⟨agent, server, shell, recording, playback, reconnect, dependency₀⟩
      ["agent", "server", "shell", "recording", "playback", "reconnect"]) :=
    leads_then fifth (reconnect_regains reconnect reconnect₀ maxAttempts initial max printed) (by decide)
      fun _ => congrArg (Except.map _)
  have seventh : Leads .new _ (Reached start
      ⟨agent, server, shell, recording, playback, reconnect, dependency⟩
      ["agent", "server", "shell", "recording", "playback", "reconnect", "dependency"]) :=
    leads_then sixth (dependency_regains dependency dependency₀ socketPath poll) (by decide)
      fun _ => congrArg (Except.map _)
  simpa [render, String.toList_intercalate, List.intercalate] using seventh

theorem head?_render (config : Config) : (render config).toList.head? = some '[' := by
  simp [render, SectionFormat.write_eq, toString]

/-- The text of a configuration is read as this configuration over all defaults. -/
theorem parse_render (env : Environment) {config : Config} (fits : ∀ n ∈ config.wideNumbers, Fits n)
    (printed : Number.floatReader (writeFloat config.reconnect.multiplier).toList =
      .read config.reconnect.multiplier []) :
    parse env (render config) = .ok config := by
  have unset : (Config.default env).Unset := ⟨rfl, rfl, rfl, rfl⟩
  have start : LineStart (render config).toList := by
    intro c here
    obtain rfl := Option.some.inj ((head?_render config).symm.trans here)
    decide
  have unmarked : (render config).toList.head? ≠ some byteOrderMark := by
    rw [head?_render]
    decide
  have leads : Leads .new (render config).toList fun draft =>
      ∃ root, draft.close = .ok root ∧ readTable (.default env) root = .ok config :=
    (leads_render unset fits printed).mono fun _ ⟨root, closed, _, read⟩ => ⟨root, closed, read⟩
  obtain ⟨root, document, read⟩ := readDocument_of_leads start unmarked leads
  simp only [parse, document, Except.mapError, bind, Except.bind, read]

theorem toText_of_fits {config : Config} (fits : ∀ n ∈ config.wideNumbers, Fits n) :
    config.toText = .ok config.render := by
  have all : (config.wideNumbers.all fun n => n.toNat < 0x8000000000000000) = true := by
    simpa [Fits] using fits
  rw [toText, if_pos all]

/-! ## Files -/

/-- After a configuration was saved, its text is in the file. -/
theorem lookup_save {config : Config} {path : String} {before after : FileTree}
    (saved : save config path before = (.ok (), after)) :
    ∃ text isProgram, config.toText = .ok text ∧ after.lookup path = .ok (.file (Utf8.encode text) isProgram) := by
  unfold save at saved
  extract_lets made at saved
  clear_value made
  split at saved
  next => cases saved
  next =>
    split at saved
    next => cases saved
    next text rendered =>
      split at saved
      next written =>
        cases saved
        obtain ⟨isProgram, found⟩ := FileTree.lookup_write written
        exact ⟨text, isProgram, rendered, found⟩
      next => cases saved

theorem load_file {env : Environment} {path text : String} {isProgram : Bool}
    (found : env.files.lookup (env.place path) = .ok (.file (Utf8.encode text) isProgram)) :
    load env path = (parse env text).mapError (.parsing path) := by
  have there : env.files.hasPath (env.place path) = true := by
    simp only [FileTree.hasPath, found]
    rfl
  have read : readText env.files (env.place path) = .ok text := by
    simp only [readText, FileTree.read, found, bind, Except.bind, pure, Except.pure, Utf8.decode?_encode]
  simp only [load, there, read]
  rfl

/-- A configuration whose numbers fit has a text. From this text, and from the file that it was saved to,
    the same configuration is read, whatever the environment is. The printed multiplier is assumed to be
    read as what it was. -/
theorem survives_saving {config : Config} (fits : ∀ n ∈ config.wideNumbers, Fits n)
    (printed : Number.floatReader (writeFloat config.reconnect.multiplier).toList =
      .read config.reconnect.multiplier []) :
    (∃ text, config.toText = .ok text ∧ ∀ env, parse env text = .ok config) ∧
      ∀ (env : Environment) path before, save config (env.place path) before = (.ok (), env.files) →
        load env path = .ok config := by
  have parsed : ∀ env, parse env (render config) = .ok config := fun env => parse_render env fits printed
  refine ⟨⟨render config, toText_of_fits fits, parsed⟩, fun env path before saved => ?_⟩
  obtain ⟨text, isProgram, rendered, found⟩ := lookup_save saved
  obtain rfl : render config = text := Except.ok.inj ((toText_of_fits fits).symm.trans rendered)
  rw [load_file found, parsed]
  rfl

/-- A configuration with quotes, backslashes, line ends and other controls in its texts. -/
def peculiar : Config where
  agent := {
    dataDir := "/it's \"data\"\\"
    logLevel := "in\nfo"
    logDir := some "" }
  server := {
    url := "wss://böse.example/'''\"\"\""
    token := some "\x00\r\n\t\x7f"
    heartbeatIntervalSecs := 0x7fffffffffffffff
    heartbeatTimeoutSecs := 0 }
  shell := {
    command := "\n'''\\"
    cols := 65535
    rows := 0
    env := (SortedMap.empty.insert "" "a.b = 'c'").insert "[x]\n# 'ü\"" "\\" }
  recording := { enabled := false, flushIntervalMs := 1, flushThresholdBytes := 10 }
  playback := { enabled := true, listenAddr := "[::1]:80", lingerSecs := 60 }
  reconnect := {
    initialBackoffMs := 100
    maxBackoffMs := 20000
    multiplier := .ofDecimal false ⟨15, -1⟩
    maxAttempts := some 4294967295 }
  dependency := { socketPath := none, pollIntervalMs := 7 }

theorem survives_saving_peculiar :
    let older : FileTree := ⟨[(["agent.toml"], .file [] false)]⟩
    (∃ text, peculiar.toText = .ok text ∧ ∀ env, parse env text = .ok peculiar) ∧
      ∃ files, save peculiar "agent.toml" older = (.ok (), files) ∧
        load ⟨∅, files, "/home/user", ""⟩ "agent.toml" = .ok peculiar := by
  intro older
  have fits : ∀ n ∈ peculiar.wideNumbers, n.toNat < 0x8000000000000000 := by simp [wideNumbers, peculiar]
  have text : writeFloat peculiar.reconnect.multiplier = "1.5" := by
    have finite : peculiar.reconnect.multiplier.isFinite = true := by decide +kernel
    have number : peculiar.reconnect.multiplier.isNaN = false := by decide +kernel
    have digits : peculiar.reconnect.multiplier.positional = "1.5" := by decide +kernel
    simp [writeFloat, number, Binary64.pointed, digits, finite]
  have printed : Number.floatReader (writeFloat peculiar.reconnect.multiplier).toList =
      .read peculiar.reconnect.multiplier [] := by
    rw [text]
    decide +kernel
  obtain ⟨read, loaded⟩ := survives_saving fits printed
  have saved : ∃ files, save peculiar "agent.toml" older = (.ok (), files) := by
    have parent : Path.parent? "agent.toml" = some "" := Path.parent?_name (by decide) (by decide)
    have made : older.makeDirectories "" = .ok older := rfl
    have resolved : older.resolve "agent.toml" = .ok ["agent.toml"] := by
      rw [FileTree.resolve, splitOn_slash (by decide)]
      decide +kernel
    have found : older.at? ["agent.toml"] = some (.file [] false) := by decide +kernel
    simp only [save, parent, made, toText_of_fits fits, FileTree.write, resolved, found, bind, Except.bind,
      Except.mapError]
    exact ⟨_, rfl⟩
  obtain ⟨files, saved⟩ := saved
  have place : (Environment.mk ∅ files "/home/user" "").place "agent.toml" = "agent.toml" := by
    simp [Environment.place, Path.join]
  exact ⟨read, files, saved, loaded _ _ older (by rwa [place])⟩

end TerminalAgent.Config
