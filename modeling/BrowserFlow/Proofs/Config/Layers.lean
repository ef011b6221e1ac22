import BrowserFlow.Proofs.Config.Source

/-!
Settings are layered key by key: each one has the value of the first source that has its key. The overrides come first,
then the settings file, the environment, the environment file and last the default.
-/

namespace BrowserFlow

open Environment (named? title found lowered)

/-- A dictionary of sections. -/
structure Settings.Layer (entries : Entries) : Prop where
  keyed : entries.Keyed
  sections : ∀ name ∈ Settings.names, entries.IsSection name

namespace Settings

theorem Reads.congr {first second : List String → Option Value} (same : ∀ f ∈ Setting.all, first f.path = second f.path)
    {s : Settings} : s.Reads first ↔ s.Reads second :=
  forall₂_congr fun f known => by rw [same f known]

/-- Where no setting has a dictionary the first of the two counts that has the setting. -/
theorem at?_overlay {base updates : Entries} (first : ∀ name ∈ names, base.IsSection name) (second : Layer updates)
    {f : Setting} (known : f ∈ Setting.all) (plain : ∀ v ∈ base.at? f.path, v.dict? = none) :
    Entries.at? (Entries.overlay base updates) f.path = (updates.at? f.path <|> base.at? f.path) := by
  rcases Setting.path_cases f known with path | ⟨name, among, key, path⟩
  · rw [path] at plain ⊢
    exact Entries.get?_overlay_plain second.keyed.top plain
  · rw [path] at plain ⊢
    exact Entries.at?_overlay second.keyed (first name among) (second.sections name among) plain

theorem Layer.overlay {base updates : Entries} (first : Layer base) (second : Layer updates) :
    Layer (Entries.overlay base updates) :=
  ⟨Entries.keyed_overlay first.keyed second.keyed, fun name among =>
    Entries.isSection_overlay second.keyed (first.sections name among) (second.sections name among)⟩

theorem mem_entries (s : Settings) : ∀ entry ∈ s.entries,
    (∃ inner : Entries, entry.2 = .dict inner ∧ inner.Distinct) ∨ entry.1 = "debug" := by
  have browser : Entries.Distinct s.browser.entries := by simp [Entries.Distinct, BrowserSettings.entries]
  have recorder : Entries.Distinct s.recorder.entries := by simp [Entries.Distinct, RecorderSettings.entries]
  have replay : Entries.Distinct s.replay.entries := by simp [Entries.Distinct, ReplaySettings.entries]
  have session : Entries.Distinct s.session.entries := by simp [Entries.Distinct, SessionSettings.entries]
  have logging : Entries.Distinct s.logging.entries := by simp [Entries.Distinct, LoggingSettings.entries]
  simp only [entries, List.forall_mem_cons]
  exact ⟨.inl ⟨_, rfl, browser⟩, .inl ⟨_, rfl, recorder⟩, .inl ⟨_, rfl, replay⟩, .inl ⟨_, rfl, session⟩,
    .inl ⟨_, rfl, logging⟩, .inr trivial, fun _ member => absurd member List.not_mem_nil⟩

theorem layer_entries (s : Settings) : Layer s.entries := by
  have names : s.entries.map (·.1) = ["browser", "recorder", "replay", "session", "logging", "debug"] := rfl
  refine ⟨⟨?_, fun name inner found => ?_⟩, fun name among v found => ?_⟩
  · rw [Entries.Distinct, names]
    decide
  · rcases s.mem_entries _ (Entries.mem_of_get? found) with ⟨inner', same, distinct⟩ | name
    · cases same
      exact distinct
    · cases name
      cases found
  · rcases s.mem_entries _ (Entries.mem_of_get? found) with ⟨inner, same, _⟩ | rfl
    · exact ⟨inner, same⟩
    · exact absurd among (by decide)

/-- What is given and what the variables have decide about the settings. -/
theorem load_reads {env : Environment} (individual : ∀ entry ∈ env.bindings, Environment.IsIndividual entry.1)
    {given : Entries} (layer : Layer given) {s : Settings} : load env given = .ok s ↔
      s.Reads fun path => given.at? path <|> (named? env.bindings (title path)).map .str := by
  have sections (name : String) (among : name ∈ names) : Entries.IsSection (found env.lowered) name :=
    Environment.isSection_found among
  have all (name : String) (among : name ∈ names) :=
    Entries.isSection_overlay layer.keyed (sections name among) (layer.sections name among)
  rw [load, Environment.settings_eq individual]
  change (check _).run = _ ↔ _
  rw [Checked.run_eq_ok, passes_check all]
  refine Reads.congr fun f known => ?_
  have own := Environment.at?_found env.bindings known
  rw [at?_overlay sections layer known, own]
  intro v there
  rw [own] at there
  cases value : named? env.bindings (title f.path) with
  | none =>
    rw [value] at there
    cases there
  | some text =>
    rw [value] at there
    cases there
    rfl

theorem load_error {env : Environment} (individual : ∀ entry ∈ env.bindings, Environment.IsIndividual entry.1)
    {given : Entries} {fault : Fault} (h : load env given = .error fault) :
    ∃ faults, fault = .invalidSettings faults := by
  rw [load, Environment.settings_eq individual] at h
  exact Checked.run_error h

/-- What has been written out is laid over by the overrides. -/
theorem at?_overrides (s : Settings) {overrides : Entries} (layer : Layer overrides) {f : Setting}
    (known : f ∈ Setting.all) : Entries.at? (Entries.overlay s.entries overrides) f.path =
      (overrides.at? f.path <|> some (f.write (f.of s))) := by
  have own := Setting.at?_entries s f known
  rw [at?_overlay s.layer_entries.sections layer known, own]
  intro v there
  rw [own] at there
  cases there
  exact (Setting.keeps f known).plain _

/-- Settings that have been read are read again with the overrides before everything else. -/
theorem override_reads {env : Environment} (individual : ∀ entry ∈ env.bindings, Environment.IsIndividual entry.1)
    {overrides : Entries} (layer : Layer overrides) {below : List String → Option Value} {s₀ : Settings}
    (first : s₀.Reads below) {s : Settings} : s₀.override env overrides = .ok s ↔
      s.Reads fun path => overrides.at? path <|> below path := by
  rw [override, load_reads individual (s₀.layer_entries.overlay layer)]
  refine forall₂_congr fun f known => ?_
  have written : (Entries.at? (Entries.overlay s₀.entries overrides) f.path <|>
      (named? env.bindings (title f.path)).map .str) = (overrides.at? f.path <|> some (f.write (f.of s₀))) := by
    rw [at?_overrides s₀ layer known]
    cases overrides.at? f.path <;> rfl
  dsimp only
  rw [written]
  exact Setting.reads_again known (first f known)

theorem overridden_reads {env : Environment} (individual : ∀ entry ∈ env.bindings, Environment.IsIndividual entry.1)
    {overrides : Entries} (layer : Layer overrides) {below : List String → Option Value} {s₀ : Settings}
    (first : s₀.Reads below) {s : Settings} :
    (if overrides.isEmpty then pure s₀ else s₀.override env overrides) = .ok s ↔
      s.Reads fun path => overrides.at? path <|> below path := by
  by_cases empty : overrides.isEmpty = true
  · have nothing : overrides = [] := List.isEmpty_iff.mp empty
    subst nothing
    -- settings laid over by nothing are read again as they are
    have above (path : List String) : (Entries.at? [] path <|> below path) = below path := by
      rw [Entries.at?_nil]
      rfl
    have itself : s₀.override env [] = .ok s₀ :=
      (override_reads individual layer first).mpr (by simpa only [above] using first)
    rw [← override_reads individual layer first, itself]
    rfl
  · rw [if_neg empty]
    exact override_reads individual layer first

theorem get?_entries (s : Settings) : ∀ name ∈ names, ∃ inner : Entries, s.entries.get? name = some (.dict inner) := by
  have all : names = ["browser", "recorder", "replay", "session", "logging"] := rfl
  simp only [all, List.forall_mem_cons]
  exact ⟨⟨_, rfl⟩, ⟨_, rfl⟩, ⟨_, rfl⟩, ⟨_, rfl⟩, ⟨_, rfl⟩, fun _ member => absurd member List.not_mem_nil⟩

/-- What is laid over stands, whatever was there before. -/
theorem at?_overlay_some {base updates : Entries} (layer : Layer updates) {f : Setting} (known : f ∈ Setting.all)
    {v : Value} (there : updates.at? f.path = some v) (plain : v.dict? = none) :
    Entries.at? (Entries.overlay base updates) f.path = some v := by
  rcases Setting.path_cases f known with path | ⟨name, among, key, path⟩
  · rw [path] at there ⊢
    exact Entries.get?_overlay_some layer.keyed.top there plain
  · rw [path] at there ⊢
    rcases (layer.sections name among).cases with missing | ⟨inner, here⟩
    · cases (Entries.at?_none missing key).symm.trans there
    · obtain ⟨merged, whole, keeps⟩ := Entries.get?_overlay_dict layer.keyed base here
      rw [Entries.at?_section here] at there
      rw [Entries.at?_section whole, keeps key v there plain]

/-- Whatever the environment holds, a setting that the overrides do not have stays as it is. -/
theorem override_keeps {s₀ s : Settings} {env : Environment} {overrides : Entries} (layer : Layer overrides)
    (h : s₀.override env overrides = .ok s) : ∀ f ∈ Setting.all, overrides.at? f.path = none → f.of s = f.of s₀ := by
  intro f known missing
  obtain ⟨held, _, h⟩ := bind_ok h
  have written := s₀.layer_entries.overlay layer
  have sections : ∀ name ∈ names,
      Entries.IsSection (Entries.overlay held (Entries.overlay s₀.entries overrides)) name := by
    intro name among v found
    obtain ⟨inner, own⟩ := s₀.get?_entries name among
    have there : ∃ inner : Entries, Entries.get? (Entries.overlay s₀.entries overrides) name = some (.dict inner) := by
      rcases (layer.sections name among).cases with none | ⟨inner', over'⟩
      · rw [Entries.get?_overlay layer.keyed.top, none]
        exact ⟨inner, own⟩
      · obtain ⟨merged, whole, _⟩ := Entries.get?_overlay_dict layer.keyed s₀.entries over'
        exact ⟨merged, whole⟩
    obtain ⟨inner', there⟩ := there
    obtain ⟨merged, whole, _⟩ := Entries.get?_overlay_dict written.keyed held there
    exact ⟨merged, Option.some.inj (found.symm.trans whole)⟩
  have reads := (passes_check sections).mp (Checked.run_eq_ok.mp h) f known
  have own := at?_overrides s₀ layer known
  rw [missing] at own
  have plain := (Setting.keeps f known).plain (f.of s₀)
  rw [at?_overlay_some written known own plain] at reads
  exact (Setting.keeps f known).same reads

end Settings

namespace SettingsRequest

/-- What the settings file holds; nothing if there is none. -/
def fileEntries (r : SettingsRequest) (files : Files) : Except Fault Entries := do
  match ← SettingsFile.find? files r.configPath with
  | some f => SettingsFile.read files f
  | none => pure []

/-- What the environment file sets. -/
def assignments (r : SettingsRequest) (files : Files) (env : Environment) : Except Fault (List (String × String)) := do
  match ← r.envPath? files with
  | none => return []
  | some path =>
    match files.isFile path with
    | .ok true => return EnvFile.assignments env (← files.readText path).toList
    | _ => return []

/-- The sources can be read, and they set single settings: a settings file of sections, and variables of which none
    stands for a whole section and no two differ in case only. -/
structure Sources (r : SettingsRequest) (files : Files) (env : Environment) (dotenv : List (String × String))
    (file : Entries) : Prop where
  fileRead : r.fileEntries files = .ok file
  sections : ∀ name ∈ Settings.names, file.IsSection name
  dotenvRead : r.assignments files env = .ok dotenv
  individual : ∀ entry ∈ env.bindings ++ dotenv, Environment.IsIndividual entry.1
  alike : EnvFile.SpelledAlike (env.bindings ++ dotenv)

/-- What is found under a path below the overrides: in the file, in the environment or in the environment file. -/
def below? (env : Environment) (dotenv : List (String × String)) (file : Entries) (path : List String) : Option Value :=
  file.at? path <|> (named? env.bindings (title path)).map .str <|> (named? dotenv (title path)).map .str

variable {r : SettingsRequest} {files : Files} {env : Environment} {dotenv : List (String × String)} {file : Entries}

theorem fileEntries_keyed (read : r.fileEntries files = .ok file) : file.Keyed := by
  obtain ⟨found, _, read⟩ := bind_ok read
  cases found with
  | none =>
    cases read
    exact ⟨List.nodup_nil, fun name inner found => by cases found⟩
  | some f => exact SettingsFile.read_keyed read

/-- The environment has what it had and what the environment file adds. -/
theorem environment_ok (sources : Sources r files env dotenv file) : ∃ env', r.environment files env = .ok env' ∧
    (∀ entry ∈ env'.bindings, entry ∈ env.bindings ++ dotenv) ∧
    ∀ path, named? env'.bindings (title path) = (named? env.bindings (title path) <|> named? dotenv (title path)) := by
  have alone (nothing : [] = dotenv) : ∃ env', (.ok env : Except Fault Environment) = .ok env' ∧
      (∀ entry ∈ env'.bindings, entry ∈ env.bindings ++ dotenv) ∧
      ∀ path, named? env'.bindings (title path) = (named? env.bindings (title path) <|> named? dotenv (title path)) := by
    subst nothing
    refine ⟨env, rfl, fun entry member => List.mem_append_left _ member, fun path => ?_⟩
    cases named? env.bindings (title path) <;> rfl
  obtain ⟨path?, looked, read⟩ := bind_ok sources.dotenvRead
  rw [environment, looked]
  simp only [Bind.bind, Except.bind]
  cases path? with
  | none => exact alone (Except.ok.inj read)
  | some path =>
    dsimp only at read ⊢
    cases isFile : files.isFile path with
    | error fault =>
      rw [isFile] at read
      exact alone (Except.ok.inj read)
    | ok there =>
      rw [isFile] at read
      cases there with
      | false => exact alone (Except.ok.inj read)
      | true =>
        obtain ⟨text, content, read⟩ := bind_ok read
        cases read
        rw [content]
        refine ⟨_, rfl, fun entry member => ?_, fun path => ?_⟩
        · rw [EnvFile.provide_eq] at member
          rcases List.mem_append.mp member with own | added
          · exact List.mem_append_left _ own
          · exact List.mem_append_right _ (List.mem_filter.mp added).1
        · refine EnvFile.named?_provide sources.alike ?_
          rw [title, String.toList_append]
          exact List.prefix_append _ _

/-- The overrides come after everything else has been checked. -/
theorem settings_eq (read : r.fileEntries files = .ok file) (env : Environment) : r.settings files env = (do
    let s ← Settings.load env file
    if r.overrides.isEmpty then return s else s.override env r.overrides) := by
  obtain ⟨found, looked, read⟩ := bind_ok read
  rw [settings, looked]
  cases found with
  | none =>
    cases read
    rfl
  | some f =>
    have content : SettingsFile.read files f = .ok file := read
    simp only [Bind.bind, Except.bind, content]

/-- Settings are read from the first source that has them, key by key. Loading fails only if a value breaks its rule,
    and the overrides leave what they do not have as it is, whatever the environment holds. -/
theorem load_layered (sources : Sources r files env dotenv file) (layer : Settings.Layer r.overrides) :
    (∀ fault, (r.load files env).1 = .error fault → ∃ faults, fault = .invalidSettings faults) ∧
    (∀ s, (r.load files env).1 = .ok s ↔ (∃ first : Settings, first.Reads (below? env dotenv file)) ∧
      s.Reads fun path => r.overrides.at? path <|> below? env dotenv file path) ∧
    ∀ (s₀ s : Settings) (env : Environment) (overrides : Entries), Settings.Layer overrides →
      s₀.override env overrides = .ok s → ∀ f ∈ Setting.all, overrides.at? f.path = none → f.of s = f.of s₀ := by
  obtain ⟨env', provided, within, named⟩ := environment_ok sources
  have individual (entry) (member : entry ∈ env'.bindings) := sources.individual entry (within entry member)
  have fileLayer : Settings.Layer file := ⟨fileEntries_keyed sources.fileRead, sources.sections⟩
  have loaded : (r.load files env).1 = r.settings files env' := by rw [load, provided]
  have lower (s : Settings) : Settings.load env' file = .ok s ↔ s.Reads (below? env dotenv file) := by
    rw [Settings.load_reads individual fileLayer]
    refine Settings.Reads.congr fun f _ => ?_
    rw [below?, named]
    cases named? env.bindings (title f.path) <;> rfl
  rw [loaded, settings_eq sources.fileRead]
  refine ⟨fun fault failed => ?_, fun s => ?_, fun s₀ s env overrides layer => Settings.override_keeps layer⟩
  · rcases bind_error failed with failed | ⟨first, _, failed⟩
    · exact Settings.load_error individual failed
    · split at failed
      · cases failed
      · exact Settings.load_error individual failed
  · constructor
    · intro h
      obtain ⟨first, read, h⟩ := bind_ok h
      have reads := (lower first).mp read
      exact ⟨⟨first, reads⟩, (Settings.overridden_reads individual layer reads).mp h⟩
    · rintro ⟨⟨first, reads⟩, all⟩
      rw [(lower first).mpr reads]
      exact (Settings.overridden_reads individual layer reads).mpr all

/-- The settings file sets two of the settings, and the environment file sets one of them again. -/
def sharedFiles : Files :=
  ⟨[(["flow-recorder.yaml"], .file (Utf8.encode "replay:\n  wait_strategy: poll\n  poll_interval_ms: 50\n".toList)),
    ([".env"], .file (Utf8.encode ("FLOW_RECORDER__REPLAY__POLL_INTERVAL_MS=70\n" ++
      "FLOW_RECORDER__BROWSER__HEADLESS=true\nFLOW_RECORDER__LOGGING__LEVEL=DEBUG\n").toList))]⟩

/-- The environment has one of the variables of the environment file itself. -/
def ownEnvironment : Environment :=
  ⟨[("PATH", "/bin"), ("FLOW_RECORDER__BROWSER__HEADLESS", "0"), ("FLOW_RECORDER__REPLAY__ACTION_DELAY_MS", "250")]⟩

def fileVariables : List (String × String) :=
  [("FLOW_RECORDER__REPLAY__POLL_INTERVAL_MS", "70"), ("FLOW_RECORDER__BROWSER__HEADLESS", "true"),
    ("FLOW_RECORDER__LOGGING__LEVEL", "DEBUG")]

def unhurried : SettingsRequest := { overrides := [("replay", .dict [("navigate_delay_ms", .int 100)])] }

theorem ok_of_toOption {α : Type} {x : Except Fault α} {a : α} (h : x.toOption = some a) : x = .ok a := by
  cases x with
  | error fault => cases h
  | ok b => exact congrArg Except.ok (Option.some.inj h)

theorem unhurried_sources : ∃ file, Sources unhurried sharedFiles ownEnvironment fileVariables file := by
  have variablesRead : (unhurried.assignments sharedFiles ownEnvironment).toOption = some fileVariables := by
    decide +kernel
  have shapes : ((unhurried.fileEntries sharedFiles).toOption.any fun file => Settings.names.all fun name =>
      (file.get? name).all fun v => v.dict?.isSome) = true := by
    decide +kernel
  have individual : ∀ entry ∈ ownEnvironment.bindings ++ fileVariables, Environment.IsIndividual entry.1 := by
    decide +kernel
  have alike : EnvFile.SpelledAlike (ownEnvironment.bindings ++ fileVariables) := by
    decide +kernel
  obtain ⟨file, read, all⟩ : ∃ file, (unhurried.fileEntries sharedFiles).toOption = some file ∧
      (Settings.names.all fun name => (file.get? name).all fun v => v.dict?.isSome) = true := by
    cases read : (unhurried.fileEntries sharedFiles).toOption with
    | none =>
      rw [read] at shapes
      cases shapes
    | some file =>
      rw [read] at shapes
      exact ⟨file, rfl, shapes⟩
  refine ⟨file, ok_of_toOption read, fun name among v found => ?_, ok_of_toOption variablesRead, individual, alike⟩
  have isDict := List.all_eq_true.mp all name among
  rw [found] at isDict
  cases v with
  | dict inner => exact ⟨inner, rfl⟩
  | _ => cases isDict

theorem unhurried_layer : Settings.Layer unhurried.overrides := by
  have only (name : String) (v : Value) (found : unhurried.overrides.get? name = some v) :
      v = .dict [("navigate_delay_ms", .int 100)] := by
    cases List.mem_singleton.mp (Entries.mem_of_get? found)
    rfl
  refine ⟨⟨by decide, fun name inner found => ?_⟩, fun name _ v found => ⟨_, only name v found⟩⟩
  cases only name _ found
  decide

/-- The environment before its file, the file of the settings before the environment, the override before all. -/
theorem load_layered_unhurried : ∃ file s, Sources unhurried sharedFiles ownEnvironment fileVariables file ∧
    (unhurried.load sharedFiles ownEnvironment).1 = .ok s ∧
    (s.Reads fun path => unhurried.overrides.at? path <|> below? ownEnvironment fileVariables file path) ∧
    (s.replay.wait, s.replay.pollIntervalMs, s.replay.actionMs, s.replay.navigateMs, s.browser.headless,
      s.logging.level) = ("poll", 50, 250, 100, false, "DEBUG") := by
  obtain ⟨file, sources⟩ := unhurried_sources
  have values : ((unhurried.load sharedFiles ownEnvironment).1.toOption.map fun s => (s.replay.wait,
      s.replay.pollIntervalMs, s.replay.actionMs, s.replay.navigateMs, s.browser.headless, s.logging.level)) =
      some ("poll", 50, 250, 100, false, "DEBUG") := by
    decide +kernel
  obtain ⟨s, loaded, values⟩ := Option.map_eq_some_iff.mp values
  have ok := ok_of_toOption loaded
  exact ⟨file, s, sources, ok, (((load_layered sources unhurried_layer).2.1 s).mp ok).2, values⟩

end SettingsRequest

end BrowserFlow
