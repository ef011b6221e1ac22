import BrowserFlow.Config.Settings
import BrowserFlow.Proofs.Value.Overlay

/-!
Each setting by itself: its path, the rule that its value must obey and the default that it has otherwise. Settings pass
the check of a dictionary if and only if each one of them has what the dictionary holds for it, and settings that are
written out as a dictionary pass it unchanged.
-/

namespace BrowserFlow

namespace Checked

variable {α β : Type}

/-- No rule is broken, and this is the value. -/
def Passes (c : Checked α) (a : α) : Prop := c = ⟨[], some a⟩

theorem passes_pure {a b : α} : (pure a : Checked α).Passes b ↔ a = b := by
  constructor
  · intro h
    cases h
    rfl
  · rintro rfl
    rfl

theorem passes_seq {f : Checked (α → β)} {x : Checked α} {b : β} :
    (f <*> x).Passes b ↔ ∃ g a, f.Passes g ∧ x.Passes a ∧ g a = b := by
  obtain ⟨faults, g?⟩ := f
  obtain ⟨faults', a?⟩ := x
  constructor
  · intro h
    have clean : faults ++ faults' = [] := congrArg Checked.faults h
    have value := congrArg Checked.value? h
    obtain ⟨rfl, rfl⟩ := List.append_eq_nil_iff.mp clean
    cases g? with
    | none => cases value
    | some g =>
      cases a? with
      | none => cases value
      | some a => exact ⟨g, a, rfl, rfl, Option.some.inj value⟩
  · rintro ⟨g, a, first, second, rfl⟩
    cases first
    cases second
    rfl

theorem passes_map {f : α → β} {x : Checked α} {b : β} : (f <$> x).Passes b ↔ ∃ a, x.Passes a ∧ f a = b := by
  change (pure f <*> x).Passes b ↔ _
  rw [passes_seq]
  constructor
  · rintro ⟨g, a, same, passes, rfl⟩
    cases passes_pure.mp same
    exact ⟨a, passes, rfl⟩
  · rintro ⟨a, passes, rfl⟩
    exact ⟨f, a, passes_pure.mpr rfl, passes, rfl⟩

theorem passes_within {c : Checked α} {name : String} {a : α} : (c.within name).Passes a ↔ c.Passes a := by
  obtain ⟨faults, a?⟩ := c
  constructor
  · intro h
    have clean := List.map_eq_nil_iff.mp (congrArg Checked.faults h)
    have value : a? = some a := congrArg Checked.value? h
    rw [Passes, ← value, ← show faults = [] from clean]
  · intro h
    cases h
    rfl

theorem run_eq_ok {c : Checked α} {a : α} : c.run = .ok a ↔ c.Passes a := by
  obtain ⟨faults, a?⟩ := c
  constructor
  · intro h
    cases a? with
    | none => cases h
    | some b =>
      cases faults with
      | nil =>
        cases h
        rfl
      | cons _ _ => cases h
  · intro h
    cases h
    rfl

theorem run_error {c : Checked α} {fault : Fault} (h : c.run = .error fault) :
    ∃ faults, fault = .invalidSettings faults := by
  unfold run at h
  split at h
  · cases h
  · cases h
    exact ⟨_, rfl⟩

end Checked

/-- The value that a rule reads, or the default if there is nothing to read. -/
def Rule.Reads {α : Type} (rule : Rule α) (default : α) (v : Option Value) (a : α) : Prop :=
  match v with
  | some v => rule v = .ok a
  | none => a = default

theorem Checked.passes_field {α : Type} {entries : Entries} {name : String} {rule : Rule α} {default a : α} :
    (Checked.field entries name rule default).Passes a ↔ rule.Reads default (Entries.get? entries name) a := by
  unfold Checked.field Rule.Reads
  cases Entries.get? entries name with
  | none =>
    constructor
    · intro h
      exact (Option.some.inj (congrArg Checked.value? h)).symm
    · rintro rfl
      rfl
  | some v =>
    dsimp only
    unfold Checked.ofRule
    constructor
    · intro h
      cases read : rule v with
      | ok b =>
        rw [read] at h
        cases h
        rfl
      | error name =>
        rw [read] at h
        cases h
    · intro read
      rw [read]
      rfl

/-- The names of the sections. -/
def Settings.names : List String := sections.map (·.1)

/-- A setting: where it is found, what it may be, how it is written and what it is otherwise. -/
structure Setting where
  Content : Type
  path : List String
  rule : Rule Content
  write : Content → Value
  default : Content
  of : Settings → Content

namespace Setting

def all : List Setting :=
  [⟨Bool, ["browser", "headless"], Rule.truth, .bool, false, (·.browser.headless)⟩,
    ⟨String, ["browser", "browser_type"], Rule.oneOf ["chromium", "firefox", "webkit"], .str, "chromium",
      (·.browser.engine)⟩,
    ⟨Option String, ["browser", "channel"], Rule.optional Rule.text, Value.ofText?, none, (·.browser.channel)⟩,
    ⟨Int, ["browser", "timeout_ms"], Rule.intBetween 1000 300000, .int, 30000, (·.browser.timeoutMs)⟩,
    ⟨Int, ["browser", "viewport_width"], Rule.intBetween 320 3840, .int, 1280, (·.browser.viewportWidth)⟩,
    ⟨Int, ["browser", "viewport_height"], Rule.intBetween 240 2160, .int, 720, (·.browser.viewportHeight)⟩,
    ⟨String, ["recorder", "recordings_dir"], Rule.text, .str, "./recordings", (·.recorder.directory)⟩,
    ⟨String, ["recorder", "script_suffix"], Rule.text, .str, ".spec.ts", (·.recorder.suffix)⟩,
    ⟨Bool, ["recorder", "capture_manual_screenshots"], Rule.truth, .bool, true, (·.recorder.takesScreenshots)⟩,
    ⟨Int, ["replay", "navigate_delay_ms"], Rule.intBetween 0 60000, .int, 2000, (·.replay.navigateMs)⟩,
    ⟨Int, ["replay", "action_delay_ms"], Rule.intBetween 0 60000, .int, 500, (·.replay.actionMs)⟩,
    ⟨String, ["replay", "wait_strategy"], Rule.oneOf ["fixed", "poll"], .str, "fixed", (·.replay.wait)⟩,
    ⟨Int, ["replay", "poll_timeout_ms"], Rule.intBetween 100 120000, .int, 10000, (·.replay.pollTimeoutMs)⟩,
    ⟨Int, ["replay", "poll_interval_ms"], Rule.intBetween 10 5000, .int, 100, (·.replay.pollIntervalMs)⟩,
    ⟨Bool, ["replay", "pause_on_manual_step"], Rule.truth, .bool, false, (·.replay.pausesOnManualStep)⟩,
    ⟨Float, ["replay", "speed"], Rule.numberBetween 0.0 10.0, .float, 1.0, (·.replay.speed)⟩,
    ⟨String, ["session", "sessions_dir"], Rule.text, .str, "./sessions", (·.session.directory)⟩,
    ⟨Bool, ["session", "save_after_replay"], Rule.truth, .bool, true, (·.session.savesAfterReplay)⟩,
    ⟨String, ["logging", "level"], Rule.oneOf ["DEBUG", "INFO", "WARNING", "ERROR", "CRITICAL"], .str, "INFO",
      (·.logging.level)⟩,
    ⟨Option String, ["logging", "file"], Rule.optional Rule.text, Value.ofText?, none, (·.logging.file)⟩,
    ⟨Bool, ["logging", "json_format"], Rule.truth, .bool, false, (·.logging.isJson)⟩,
    ⟨Bool, ["debug"], Rule.truth, .bool, false, (·.debug)⟩]

/-- A setting stands in a section, but for one. -/
theorem path_cases : ∀ f ∈ all, f.path = ["debug"] ∨ ∃ name ∈ Settings.names, ∃ key, f.path = [name, key] := by
  have each : ∀ f ∈ all, f.path = ["debug"] ∨ ∃ name ∈ Settings.names, f.path = [name, f.path.getLastD ""] := by
    decide +kernel
  intro f known
  rcases each f known with debug | ⟨name, among, path⟩
  · exact .inl debug
  · exact .inr ⟨name, among, _, path⟩

/-- What is found for the setting is what the settings have. -/
def Reads (f : Setting) (v : Option Value) (s : Settings) : Prop := f.rule.Reads f.default v (f.of s)

end Setting

/-- Each setting has the value that is found under its path, or else its default. -/
def Settings.Reads (value? : List String → Option Value) (s : Settings) : Prop :=
  ∀ f ∈ Setting.all, f.Reads (value? f.path) s

open Checked in
theorem BrowserSettings.passes_check {e : Entries} {s : BrowserSettings} : (check e).Passes s ↔
    Rule.truth.Reads false (e.get? "headless") s.headless ∧
    (Rule.oneOf ["chromium", "firefox", "webkit"]).Reads "chromium" (e.get? "browser_type") s.engine ∧
    (Rule.optional Rule.text).Reads none (e.get? "channel") s.channel ∧
    (Rule.intBetween 1000 300000).Reads 30000 (e.get? "timeout_ms") s.timeoutMs ∧
    (Rule.intBetween 320 3840).Reads 1280 (e.get? "viewport_width") s.viewportWidth ∧
    (Rule.intBetween 240 2160).Reads 720 (e.get? "viewport_height") s.viewportHeight := by
  obtain ⟨a, b, c, d, f, g⟩ := s
  simp only [check, passes_seq, passes_map, passes_field]
  constructor
  · rintro ⟨_, _, ⟨_, _, ⟨_, _, ⟨_, _, ⟨_, _, ⟨_, h₁, rfl⟩, h₂, rfl⟩, h₃, rfl⟩, h₄, rfl⟩, h₅, rfl⟩, h₆, same⟩
    cases same
    exact ⟨h₁, h₂, h₃, h₄, h₅, h₆⟩
  · rintro ⟨h₁, h₂, h₃, h₄, h₅, h₆⟩
    exact ⟨_, _, ⟨_, _, ⟨_, _, ⟨_, _, ⟨_, _, ⟨_, h₁, rfl⟩, h₂, rfl⟩, h₃, rfl⟩, h₄, rfl⟩, h₅, rfl⟩, h₆, rfl⟩

open Checked in
theorem RecorderSettings.passes_check {e : Entries} {s : RecorderSettings} : (check e).Passes s ↔
    Rule.text.Reads "./recordings" (e.get? "recordings_dir") s.directory ∧
    Rule.text.Reads ".spec.ts" (e.get? "script_suffix") s.suffix ∧
    Rule.truth.Reads true (e.get? "capture_manual_screenshots") s.takesScreenshots := by
  obtain ⟨a, b, c⟩ := s
  simp only [check, passes_seq, passes_map, passes_field]
  constructor
  · rintro ⟨_, _, ⟨_, _, ⟨_, h₁, rfl⟩, h₂, rfl⟩, h₃, same⟩
    cases same
    exact ⟨h₁, h₂, h₃⟩
  · rintro ⟨h₁, h₂, h₃⟩
    exact ⟨_, _, ⟨_, _, ⟨_, h₁, rfl⟩, h₂, rfl⟩, h₃, rfl⟩

open Checked in
theorem ReplaySettings.passes_check {e : Entries} {s : ReplaySettings} : (check e).Passes s ↔
    (Rule.intBetween 0 60000).Reads 2000 (e.get? "navigate_delay_ms") s.navigateMs ∧
    (Rule.intBetween 0 60000).Reads 500 (e.get? "action_delay_ms") s.actionMs ∧
    (Rule.oneOf ["fixed", "poll"]).Reads "fixed" (e.get? "wait_strategy") s.wait ∧
    (Rule.intBetween 100 120000).Reads 10000 (e.get? "poll_timeout_ms") s.pollTimeoutMs ∧
    (Rule.intBetween 10 5000).Reads 100 (e.get? "poll_interval_ms") s.pollIntervalMs ∧
    Rule.truth.Reads false (e.get? "pause_on_manual_step") s.pausesOnManualStep ∧
    (Rule.numberBetween 0.0 10.0).Reads 1.0 (e.get? "speed") s.speed := by
  obtain ⟨a, b, c, d, f, g, h⟩ := s
  simp only [check, passes_seq, passes_map, passes_field]
  constructor
  · rintro ⟨_, _, ⟨_, _, ⟨_, _, ⟨_, _, ⟨_, _, ⟨_, _, ⟨_, h₁, rfl⟩, h₂, rfl⟩, h₃, rfl⟩, h₄, rfl⟩, h₅, rfl⟩, h₆, rfl⟩, h₇,
      same⟩
    cases same
    exact ⟨h₁, h₂, h₃, h₄, h₅, h₆, h₇⟩
  · rintro ⟨h₁, h₂, h₃, h₄, h₅, h₆, h₇⟩
    exact ⟨_, _, ⟨_, _, ⟨_, _, ⟨_, _, ⟨_, _, ⟨_, _, ⟨_, h₁, rfl⟩, h₂, rfl⟩, h₃, rfl⟩, h₄, rfl⟩, h₅, rfl⟩, h₆, rfl⟩, h₇,
      rfl⟩

open Checked in
theorem SessionSettings.passes_check {e : Entries} {s : SessionSettings} : (check e).Passes s ↔
    Rule.text.Reads "./sessions" (e.get? "sessions_dir") s.directory ∧
    Rule.truth.Reads true (e.get? "save_after_replay") s.savesAfterReplay := by
  obtain ⟨a, b⟩ := s
  simp only [check, passes_seq, passes_map, passes_field]
  constructor
  · rintro ⟨_, _, ⟨_, h₁, rfl⟩, h₂, same⟩
    cases same
    exact ⟨h₁, h₂⟩
  · rintro ⟨h₁, h₂⟩
    exact ⟨_, _, ⟨_, h₁, rfl⟩, h₂, rfl⟩

open Checked in
theorem LoggingSettings.passes_check {e : Entries} {s : LoggingSettings} : (check e).Passes s ↔
    (Rule.oneOf ["DEBUG", "INFO", "WARNING", "ERROR", "CRITICAL"]).Reads "INFO" (e.get? "level") s.level ∧
    (Rule.optional Rule.text).Reads none (e.get? "file") s.file ∧
    Rule.truth.Reads false (e.get? "json_format") s.isJson := by
  obtain ⟨a, b, c⟩ := s
  simp only [check, passes_seq, passes_map, passes_field]
  constructor
  · rintro ⟨_, _, ⟨_, _, ⟨_, h₁, rfl⟩, h₂, rfl⟩, h₃, same⟩
    cases same
    exact ⟨h₁, h₂, h₃⟩
  · rintro ⟨h₁, h₂, h₃⟩
    exact ⟨_, _, ⟨_, _, ⟨_, h₁, rfl⟩, h₂, rfl⟩, h₃, rfl⟩

namespace Settings

theorem passes_section {α : Type} {e : Entries} {name : String} (section' : e.IsSection name)
    (check : Entries → Checked α) (a : α) : (section? e name check).Passes a ↔ (check (e.inner name)).Passes a := by
  unfold section?
  rcases section'.cases with missing | ⟨inner, there⟩
  · rw [missing, Entries.inner, missing]
    rfl
  · rw [there, Entries.inner, there]
    exact Checked.passes_within

open Checked in
theorem passes_check {e : Entries} (dicts : ∀ name ∈ names, e.IsSection name) {s : Settings} :
    (check e).Passes s ↔ s.Reads e.at? := by
  have browser := passes_section (dicts "browser" (by decide)) BrowserSettings.check s.browser
  have recorder := passes_section (dicts "recorder" (by decide)) RecorderSettings.check s.recorder
  have replay := passes_section (dicts "replay" (by decide)) ReplaySettings.check s.replay
  have session := passes_section (dicts "session" (by decide)) SessionSettings.check s.session
  have logging := passes_section (dicts "logging" (by decide)) LoggingSettings.check s.logging
  rw [BrowserSettings.passes_check] at browser
  rw [RecorderSettings.passes_check] at recorder
  rw [ReplaySettings.passes_check] at replay
  rw [SessionSettings.passes_check] at session
  rw [LoggingSettings.passes_check] at logging
  have parts : (check e).Passes s ↔ (section? e "browser" BrowserSettings.check).Passes s.browser ∧
      (section? e "recorder" RecorderSettings.check).Passes s.recorder ∧
      (section? e "replay" ReplaySettings.check).Passes s.replay ∧
      (section? e "session" SessionSettings.check).Passes s.session ∧
      (section? e "logging" LoggingSettings.check).Passes s.logging ∧
      Rule.truth.Reads false (e.get? "debug") s.debug := by
    obtain ⟨a, b, c, d, f, g⟩ := s
    simp only [check, passes_seq, passes_map, passes_field]
    constructor
    · rintro ⟨_, _, ⟨_, _, ⟨_, _, ⟨_, _, ⟨_, _, ⟨_, h₁, rfl⟩, h₂, rfl⟩, h₃, rfl⟩, h₄, rfl⟩, h₅, rfl⟩, h₆, same⟩
      cases same
      exact ⟨h₁, h₂, h₃, h₄, h₅, h₆⟩
    · rintro ⟨h₁, h₂, h₃, h₄, h₅, h₆⟩
      exact ⟨_, _, ⟨_, _, ⟨_, _, ⟨_, _, ⟨_, _, ⟨_, h₁, rfl⟩, h₂, rfl⟩, h₃, rfl⟩, h₄, rfl⟩, h₅, rfl⟩, h₆, rfl⟩
  rw [parts, browser, recorder, replay, session, logging, Reads]
  simp only [Setting.all, List.forall_mem_cons, Setting.Reads, Entries.at?_inner, Entries.at?_key, and_assoc,
    List.not_mem_nil, false_implies, implies_true, and_true]

end Settings

/-! ### Settings that are written out -/

/-- What has been read is read again as it is written, and nothing else is read there. -/
structure Rule.Keeps {α : Type} (rule : Rule α) (write : α → Value) : Prop where
  plain : ∀ a, (write a).dict? = none
  again : ∀ {v a}, rule v = .ok a → rule (write a) = .ok a
  same : ∀ {a b}, rule (write a) = .ok b → b = a

theorem Rule.keeps_truth : Rule.truth.Keeps .bool where
  plain _ := rfl
  again _ := rfl
  same h := (Except.ok.inj h).symm

theorem Rule.keeps_text : Rule.text.Keeps .str where
  plain _ := rfl
  again _ := rfl
  same h := (Except.ok.inj h).symm

theorem Rule.keeps_optionalText : (Rule.optional Rule.text).Keeps Value.ofText? where
  plain a := by cases a <;> rfl
  again {v a} _ := by cases a <;> rfl
  same {a b} h := by cases a <;> exact (Except.ok.inj h).symm

theorem Rule.keeps_oneOf (words : List String) : (Rule.oneOf words).Keeps .str where
  plain _ := rfl
  again {v a} h := by
    cases v with
    | str s =>
      have same : s = a := by
        rw [oneOf] at h
        split at h
        · exact Except.ok.inj h
        · cases h
      rw [← same]
      rw [← same] at h
      exact h
    | _ => cases h
  same {a b} h := by
    rw [oneOf] at h
    split at h
    · exact (Except.ok.inj h).symm
    · cases h

theorem Rule.intBetween_ok {low high : Int} {v : Value} {n : Int} :
    Rule.intBetween low high v = .ok n ↔ Rule.int v = .ok n ∧ low ≤ n ∧ n ≤ high := by
  unfold intBetween
  cases Rule.int v with
  | error name => simp [Bind.bind, Except.bind]
  | ok m =>
    simp only [Bind.bind, Except.bind, Except.ok.injEq]
    by_cases above : high < m
    · rw [if_pos above]
      constructor
      · intro h
        cases h
      · rintro ⟨rfl, _, below⟩
        omega
    · rw [if_neg above]
      by_cases under : m < low
      · rw [if_pos under]
        constructor
        · intro h
          cases h
        · rintro ⟨rfl, below, _⟩
          omega
      · rw [if_neg under]
        constructor
        · intro h
          cases h
          exact ⟨rfl, not_lt.mp under, not_lt.mp above⟩
        · rintro ⟨rfl, _⟩
          rfl

theorem Rule.keeps_intBetween (low high : Int) : (Rule.intBetween low high).Keeps .int where
  plain _ := rfl
  again h := Rule.intBetween_ok.mpr ⟨rfl, (Rule.intBetween_ok.mp h).2⟩
  same h := (Except.ok.inj (Rule.intBetween_ok.mp h).1).symm

theorem Rule.numberBetween_ok {above upTo : Float} {v : Value} {x : Float} : Rule.numberBetween above upTo v = .ok x ↔
    Rule.number v = .ok x ∧ x <= upTo ∧ above < x := by
  unfold numberBetween
  cases Rule.number v with
  | error name => simp [Bind.bind, Except.bind]
  | ok y =>
    simp only [Bind.bind, Except.bind, Except.ok.injEq]
    by_cases low : y <= upTo
    · by_cases high : above < y
      · simp only [low, high, decide_true, Bool.not_true, Bool.false_eq_true, if_false]
        constructor
        · intro h
          cases h
          exact ⟨rfl, low, high⟩
        · rintro ⟨rfl, _⟩
          rfl
      · simp only [low, high, decide_true, decide_false, Bool.not_true, Bool.not_false, Bool.false_eq_true, if_false,
          if_true]
        constructor
        · intro h
          cases h
        · rintro ⟨rfl, _, below⟩
          exact absurd below high
    · simp only [low, decide_false, Bool.not_false, if_true]
      constructor
      · intro h
        cases h
      · rintro ⟨rfl, below, _⟩
        exact absurd below low

theorem Rule.keeps_numberBetween (above upTo : Float) : (Rule.numberBetween above upTo).Keeps .float where
  plain _ := rfl
  again h := Rule.numberBetween_ok.mpr ⟨rfl, (Rule.numberBetween_ok.mp h).2⟩
  same h := (Except.ok.inj (Rule.numberBetween_ok.mp h).1).symm

namespace Setting

theorem keeps : ∀ f ∈ all, f.rule.Keeps f.write := by
  simp only [all, List.forall_mem_cons, List.not_mem_nil, false_implies, implies_true, and_true, Rule.keeps_truth,
    Rule.keeps_text, Rule.keeps_optionalText, Rule.keeps_oneOf, Rule.keeps_intBetween, Rule.keeps_numberBetween]

/-- Every default obeys its own rule. -/
theorem default_reads : ∀ f ∈ all, f.rule (f.write f.default) = .ok f.default := by
  have speed : Rule.numberBetween 0.0 10.0 (.float 1.0) = .ok 1.0 :=
    Rule.numberBetween_ok.mpr ⟨rfl, by decide +kernel, by decide +kernel⟩
  simp only [all, List.forall_mem_cons, List.not_mem_nil, false_implies, implies_true, and_true]
  refine ⟨rfl, rfl, rfl, rfl, rfl, rfl, rfl, rfl, rfl, rfl, rfl, rfl, rfl, rfl, rfl, speed, rfl, rfl, rfl, rfl, rfl,
    rfl⟩

theorem at?_entries (s : Settings) : ∀ f ∈ all, s.entries.at? f.path = some (f.write (f.of s)) := by
  simp only [all, List.forall_mem_cons, List.not_mem_nil, false_implies, implies_true, and_true]
  exact ⟨rfl, rfl, rfl, rfl, rfl, rfl, rfl, rfl, rfl, rfl, rfl, rfl, rfl, rfl, rfl, rfl, rfl, rfl, rfl, rfl, rfl, rfl⟩

/-- Reading what has been written over is reading what was read before. -/
theorem reads_again {f : Setting} (known : f ∈ all) {v below : Option Value} {s₀ s : Settings}
    (first : f.Reads below s₀) :
    f.Reads (v <|> some (f.write (f.of s₀))) s ↔ f.Reads (v <|> below) s := by
  cases v with
  | some v => rfl
  | none =>
    change f.rule (f.write (f.of s₀)) = .ok (f.of s) ↔ f.rule.Reads f.default below (f.of s)
    have again : f.rule (f.write (f.of s₀)) = .ok (f.of s₀) := by
      cases below with
      | none =>
        rw [show f.of s₀ = f.default from first]
        exact default_reads f known
      | some w => exact (keeps f known).again first
    rw [again]
    cases below with
    | none =>
      have same : f.of s₀ = f.default := first
      rw [same]
      exact ⟨fun h => (Except.ok.inj h).symm, fun h => congrArg Except.ok (show f.of s = f.default from h).symm⟩
    | some w =>
      have read : f.rule w = .ok (f.of s₀) := first
      change _ ↔ f.rule w = _
      rw [read]

end Setting

end BrowserFlow
