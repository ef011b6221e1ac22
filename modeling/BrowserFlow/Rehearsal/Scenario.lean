import BrowserFlow.Browser.Launch
import BrowserFlow.Mode.Mode
import BrowserFlow.Rehearsal.Stage

/-!
Descriptions of rehearsals: files, waits, doubles and cues as dictionaries.
-/

namespace BrowserFlow.Rehearsal.Scenario

def bytes (v : Value) : List UInt8 :=
  match v with
  | .str s => Utf8.encode s.toList
  | v => v.items.filterMap fun w =>
    match w with
    | .int n => some n.toNat.toUInt8
    | _ => none

/-- Puts a file, or a directory for null, where it belongs with all directories on the way. -/
def putNode (path : Path) (content : Value) : FileM Unit :=
  match content with
  | .null => FileM.makeDirectories path
  | content => do
    FileM.makeDirectories ⟨path.parts.dropLast⟩
    FileM.writeBytes path (bytes content)

def putFiles (entries : Entries) : FileM Unit :=
  entries.forM fun (name, content) => putNode (Path.ofText name) content

def files (v : Value) : Files := ((putFiles v.entries).run.run {}).2

def listing (directory : Path) (files : Files) : Except Fault (List String) := do
  return ((← files.names directory).map (·.1)).mergeSort fun a b => a ≤ b

def fixedDelay (v : Value) : FixedDelay :=
  let basic : FixedDelay := {}
  { navigateMs := v.fieldOr "navigate_ms" basic.navigateMs
    actionMs := v.fieldOr "action_ms" basic.actionMs
    speed := v.fieldOr "speed" basic.speed }

def wait (v : Value) : Except Fault WaitStrategy :=
  let basic : Polling := {}
  match v.textField "kind" with
  | "poll" => .ok (.polling ⟨v.fieldOr "timeout_ms" basic.timeoutMs, v.fieldOr "interval_ms" basic.intervalMs⟩)
  | _ => (fixedDelay v).validate.map .fixed

def session (v : Value) : SessionDouble :=
  { restored := v.fieldOr "restore" (.bool true)
    restoreFault := v.textField? "restore_error"
    saveFault := v.textField? "save_error" }

def deed (v : Value) : Deed :=
  match v with
  | .str "pause" => .pause
  | .str "resume" => .resume
  | .str "stop" => .stop
  | .str "cancel" => .cancel
  | _ => .start

def deedWord : Deed → String
  | .pause => "pause"
  | .resume => "resume"
  | .stop => "stop"
  | .cancel => "cancel"
  | .start => "start"

def moment (v : Value) : Option Moment :=
  if v.has "at_ms" then ((Value.thousandth (v.field "at_ms")).toOption).map .after
  else if v.has "call" then (v.intField? "call").map fun n => .call n.toNat
  else (v.intField? "status").map fun n => .status n.toNat

def cues (v : Value) (deed : Value → δ) : List (Cue δ) :=
  v.items.filterMap fun w => (moment w).map fun moment => ⟨moment, deed (w.field "do")⟩

def replayOptions (v : Value) : ReplayOptions :=
  { recordingId := v.field "recording_id"
    speed := (v.field "speed").given?
    restoresSession := v.boolField "restore_session" }

def launchOptions (v : Value) : LaunchOptions :=
  { headless := v.boolField "headless" true
    engine := v.textField "browser_type" "chromium"
    channel := v.textField? "channel"
    viewport := (v.field "viewport").dict?
    timeoutMs := v.intField? "timeout_ms" }

def modeOptions (v : Value) (hasSession : Bool) (wait : WaitStrategy) : ModeOptions :=
  let basic : ModeOptions := {}
  { directory := v.textField "recordings_dir" basic.directory
    suffix := v.textField "script_suffix" basic.suffix
    takesScreenshots := (v.fieldOr "capture_screenshots" (.bool true)).isPresent
    pausesOnManualStep := (v.field "pause_on_manual_step").isPresent
    hasSession, wait }

def locator? (v : Value) : Option Locator := v.dict?.map Locator.ofEntries

end BrowserFlow.Rehearsal.Scenario
