import BrowserFlow.Config.Rule
import BrowserFlow.Value.Overlay

/-!
The settings, section by section: their defaults, the rules that values from outside must obey, and the values
as a dictionary. Names that no section knows are ignored.
-/

namespace BrowserFlow

structure BrowserSettings where
  headless : Bool := false
  engine : String := "chromium"
  channel : Option String := none
  timeoutMs : Int := 30000
  viewportWidth : Int := 1280
  viewportHeight : Int := 720
  deriving Inhabited

structure RecorderSettings where
  directory : String := "./recordings"
  suffix : String := ".spec.ts"
  takesScreenshots : Bool := true
  deriving Inhabited

structure ReplaySettings where
  navigateMs : Int := 2000
  actionMs : Int := 500
  /-- `fixed` or `poll` -/
  wait : String := "fixed"
  pollTimeoutMs : Int := 10000
  pollIntervalMs : Int := 100
  pausesOnManualStep : Bool := false
  speed : Float := 1.0
  deriving Inhabited

structure SessionSettings where
  directory : String := "./sessions"
  savesAfterReplay : Bool := true
  deriving Inhabited

structure LoggingSettings where
  level : String := "INFO"
  file : Option String := none
  isJson : Bool := false
  deriving Inhabited

structure Settings where
  browser : BrowserSettings := {}
  recorder : RecorderSettings := {}
  replay : ReplaySettings := {}
  session : SessionSettings := {}
  logging : LoggingSettings := {}
  debug : Bool := false
  deriving Inhabited

namespace BrowserSettings

def check (e : Entries) : Checked BrowserSettings :=
  let basic : BrowserSettings := {}
  mk <$> Checked.field e "headless" Rule.truth basic.headless
    <*> Checked.field e "browser_type" (Rule.oneOf ["chromium", "firefox", "webkit"]) basic.engine
    <*> Checked.field e "channel" (Rule.optional Rule.text) basic.channel
    <*> Checked.field e "timeout_ms" (Rule.intBetween 1000 300000) basic.timeoutMs
    <*> Checked.field e "viewport_width" (Rule.intBetween 320 3840) basic.viewportWidth
    <*> Checked.field e "viewport_height" (Rule.intBetween 240 2160) basic.viewportHeight

def entries (s : BrowserSettings) : Entries :=
  [("headless", .bool s.headless), ("browser_type", .str s.engine), ("channel", .ofText? s.channel),
    ("timeout_ms", .int s.timeoutMs), ("viewport_width", .int s.viewportWidth),
    ("viewport_height", .int s.viewportHeight)]

end BrowserSettings

namespace RecorderSettings

def check (e : Entries) : Checked RecorderSettings :=
  let basic : RecorderSettings := {}
  mk <$> Checked.field e "recordings_dir" Rule.text basic.directory
    <*> Checked.field e "script_suffix" Rule.text basic.suffix
    <*> Checked.field e "capture_manual_screenshots" Rule.truth basic.takesScreenshots

def entries (s : RecorderSettings) : Entries :=
  [("recordings_dir", .str s.directory), ("script_suffix", .str s.suffix),
    ("capture_manual_screenshots", .bool s.takesScreenshots)]

end RecorderSettings

namespace ReplaySettings

def check (e : Entries) : Checked ReplaySettings :=
  let basic : ReplaySettings := {}
  mk <$> Checked.field e "navigate_delay_ms" (Rule.intBetween 0 60000) basic.navigateMs
    <*> Checked.field e "action_delay_ms" (Rule.intBetween 0 60000) basic.actionMs
    <*> Checked.field e "wait_strategy" (Rule.oneOf ["fixed", "poll"]) basic.wait
    <*> Checked.field e "poll_timeout_ms" (Rule.intBetween 100 120000) basic.pollTimeoutMs
    <*> Checked.field e "poll_interval_ms" (Rule.intBetween 10 5000) basic.pollIntervalMs
    <*> Checked.field e "pause_on_manual_step" Rule.truth basic.pausesOnManualStep
    <*> Checked.field e "speed" (Rule.numberBetween 0.0 10.0) basic.speed

def entries (s : ReplaySettings) : Entries :=
  [("navigate_delay_ms", .int s.navigateMs), ("action_delay_ms", .int s.actionMs), ("wait_strategy", .str s.wait),
    ("poll_timeout_ms", .int s.pollTimeoutMs), ("poll_interval_ms", .int s.pollIntervalMs),
    ("pause_on_manual_step", .bool s.pausesOnManualStep), ("speed", .float s.speed)]

end ReplaySettings

namespace SessionSettings

def check (e : Entries) : Checked SessionSettings :=
  let basic : SessionSettings := {}
  mk <$> Checked.field e "sessions_dir" Rule.text basic.directory
    <*> Checked.field e "save_after_replay" Rule.truth basic.savesAfterReplay

def entries (s : SessionSettings) : Entries :=
  [("sessions_dir", .str s.directory), ("save_after_replay", .bool s.savesAfterReplay)]

end SessionSettings

namespace LoggingSettings

def check (e : Entries) : Checked LoggingSettings :=
  let basic : LoggingSettings := {}
  mk <$> Checked.field e "level" (Rule.oneOf ["DEBUG", "INFO", "WARNING", "ERROR", "CRITICAL"]) basic.level
    <*> Checked.field e "file" (Rule.optional Rule.text) basic.file
    <*> Checked.field e "json_format" Rule.truth basic.isJson

def entries (s : LoggingSettings) : Entries :=
  [("level", .str s.level), ("file", .ofText? s.file), ("json_format", .bool s.isJson)]

end LoggingSettings

namespace Settings

def section? {α : Type} (e : Entries) (name : String) (check : Entries → Checked α) : Checked α :=
  match e.get? name with
  | none => check []
  | some (.dict entries) => (check entries).within name
  | some _ => Checked.fail [name] "model_type"

def check (e : Entries) : Checked Settings :=
  mk <$> section? e "browser" BrowserSettings.check
    <*> section? e "recorder" RecorderSettings.check
    <*> section? e "replay" ReplaySettings.check
    <*> section? e "session" SessionSettings.check
    <*> section? e "logging" LoggingSettings.check
    <*> Checked.field e "debug" Rule.truth false

def entries (s : Settings) : Entries :=
  [("browser", .dict s.browser.entries), ("recorder", .dict s.recorder.entries), ("replay", .dict s.replay.entries),
    ("session", .dict s.session.entries), ("logging", .dict s.logging.entries), ("debug", .bool s.debug)]

def sections : List (String × List String) :=
  let basic : Settings := {}
  basic.entries.filterMap fun (name, v) =>
    match v with
    | .dict entries => some (name, entries.map (·.1))
    | _ => none

end Settings

end BrowserFlow
