import BrowserFlow.Page.Request
import BrowserFlow.Record.Event
import BrowserFlow.Script.Summary
import BrowserFlow.Store
import BrowserFlow.Text.Base64
import BrowserFlow.World

/-!
Recording a flow. An operation that needs the page asks for one thing at a time and goes on with the reply;
other operations may come between. The recorder is idle, recording or paused, and has a current recording and
a page unless it is idle.
-/

namespace BrowserFlow

inductive RecorderState
  | idle
  | recording
  | paused
  deriving DecidableEq, Repr, Inhabited

def RecorderState.word : RecorderState → String
  | .idle => "idle"
  | .recording => "recording"
  | .paused => "paused"

structure Recorder where
  store : ScriptStore
  takesScreenshots : Bool := true
  state : RecorderState := .idle
  /-- every recording that was begun; operations under way may refer to one that is no longer current -/
  recordings : List Recording := []
  current : Option String := none
  hasPage : Bool := false
  deriving Inhabited

inductive Recorder.Pending
  | startUrl (id : String)
  | startExpose (id : String)
  | startInstall (id : String)
  | startListen (id : String)
  | actionUrl (kind : ActionKind) (locator : Option Locator) (value description : Option Value)
  | stepImage (description : Value)
  | stepUrl (description : Value) (screenshot : Option String)
  | stopListen (id : String)
  | stopUninstall (id : String)
  | reinstall
  deriving Inhabited

inductive Recorder.Outcome
  | started (id : String)
  | appended (action : Action)
  | dropped
  | stopped (id : String)
  | done
  deriving Inhabited

inductive Recorder.Step
  | ask (request : PageRequest) (pending : Recorder.Pending)
  | finish (result : Except Fault Recorder.Outcome)

namespace Recorder

abbrev Transition := Recorder × World × Step

abbrev Observer := Action → Except Fault Unit

/-- Tells the observers one after the other. A fault of an observer stays with it; only a cancellation gets
    through. -/
def announce : List Observer → Action → Except Fault Unit
  | [], _ => .ok ()
  | observer :: rest, action =>
    match observer action with
    | .error .cancelled => .error .cancelled
    | _ => announce rest action

def hear (observers : List Observer) : Except Fault Outcome → Except Fault Outcome
  | .ok (.appended action) => (announce observers action).map fun _ => .appended action
  | result => result

def loadListener : String := "reinstall"

def recording? (r : Recorder) (id : String) : Option Recording := r.recordings.find? fun x => x.id == id

def current? (r : Recorder) : Option Recording := r.current.bind r.recording?

def update (r : Recorder) (id : String) (change : Recording → Recording) : Recorder :=
  { r with recordings := r.recordings.map fun x => if x.id == id then change x else x }

def reset (r : Recorder) : Recorder := { r with state := .idle, current := none, hasPage := false }

def isRecording (r : Recorder) : Bool := r.state != .idle

def notRecording (r : Recorder) (message : String) : Fault :=
  .flow (.notRecording message (.str r.state.word))

/-- A started recording becomes current before the page is asked for anything. -/
def start (r : Recorder) (w : World) (name description : Option Value) : Transition :=
  if r.state != .idle then
    let id : Value := match r.current with
      | some id => .str id
      | none => .null
    (r, w, .finish (.error (.flow (.alreadyRecording "Already recording" id))))
  else
    let (id, w) := w.freshId
    let recording := Recording.begun id w.now name description
    ({ r with state := .recording, recordings := r.recordings ++ [recording], current := some id,
              hasPage := true }, w, .ask .url (.startUrl id))

def pause (r : Recorder) : Except Fault Recorder :=
  if r.state == .recording then .ok { r with state := .paused }
  else .error (r.notRecording "Cannot pause: not recording")

def resume (r : Recorder) : Except Fault Recorder :=
  if r.state == .paused then .ok { r with state := .recording }
  else .error (r.notRecording "Cannot resume: not paused")

/-- Actions are dropped unless the recorder records. -/
def recordAction (r : Recorder) (w : World) (kind : Value) (locator : Option Locator)
    (value description : Option Value) : Transition :=
  if r.state != .recording || r.current.isNone || !r.hasPage then (r, w, .finish (.ok .dropped))
  else
    match ActionKind.ofValue kind with
    | .ok kind => (r, w, .ask .url (.actionUrl kind locator value description))
    | .error fault => (r, w, .finish (.error fault))

/-- Events that are not well formed are dropped as well. -/
def handleEvent (r : Recorder) (w : World) (payload : String) : Transition :=
  match CaptureEvent.ofPayload? payload with
  | some e => r.recordAction w (.str e.kind.word) e.locator e.value none
  | none => (r, w, .finish (.ok .dropped))

def askUrl (r : Recorder) (w : World) (pending : Pending) : Transition :=
  if r.hasPage then (r, w, .ask .url pending)
  else (r, w, .finish (.error (.noMember "NoneType" "current_url")))

/-- A step by hand is accepted while paused as well. -/
def addManualStep (r : Recorder) (w : World) (description : Value) : Transition :=
  if r.state == .idle || r.current.isNone || !r.hasPage then
    (r, w, .finish (.error (r.notRecording "Cannot add manual step: not recording")))
  else if r.takesScreenshots then (r, w, .ask .screenshot (.stepImage description))
  else r.askUrl w (.stepUrl description none)

/-- Writes the script first; only then the listener is removed and the recorder is idle again. -/
def stop (r : Recorder) (w : World) : Transition :=
  match r.state, r.current? with
  | .idle, _ | _, none => (r, w, .finish (.error (r.notRecording "Cannot stop: not recording")))
  | _, some recording =>
    let recording := { recording with updatedAt := w.now }
    let r := r.update recording.id fun _ => recording
    match Script.ofRecording recording with
    | .error fault => (r, w, .finish (.error fault))
    | .ok script =>
      let (written, w) := w.onFiles (r.store.write recording.id script)
      match written with
      | .error fault => (r, w, .finish (.error fault))
      | .ok _ =>
        if r.hasPage then (r, w, .ask (.removeLoadListener loadListener) (.stopListen recording.id))
        else (r.reset, w, .finish (.ok (.stopped recording.id)))

/-- A load of a document removes the listener from the page; it is put back. -/
def afterLoad (r : Recorder) (w : World) : Transition :=
  if r.state == .idle || !r.hasPage then (r, w, .finish (.ok .done))
  else (r, w, .ask (.run .install) .reinstall)

/-- A start that fails, or is cancelled, leaves the recorder idle. -/
def failStart (r : Recorder) (w : World) (id : String) (fault : Fault) : Transition :=
  let fault := match fault with
    | .cancelled => fault
    | fault => .flow ⟨.captureInstall, "Failed to install capture listener: " ++ fault.text,
        [("recording_id", .str id)], []⟩
  (r.reset, w, .finish (.error fault))

def append (r : Recorder) (w : World) (action : Action) (count : Nat) : Transition :=
  match r.current, action.validate with
  | _, .error fault => (r, w, .finish (.error fault))
  | none, _ => (r, w, .finish (.error .recordingGone))
  | some id, .ok action =>
    (r.update id fun x => { x.append action with manualSteps := x.manualSteps + count }, w,
      .finish (.ok (.appended action)))

def pageUrl (answer : Answer) : Option String := answer.content.str?

/-- The start page as a target, unless it is blank. -/
def targetSite? (answer : Answer) : Option String :=
  (pageUrl answer).filter fun url => !url.isEmpty && url != "about:blank"

def dataUrl (bytes : List UInt8) : String :=
  "data:image/png;base64," ++ String.ofList (Base64.encode bytes)

def step (r : Recorder) (w : World) : Pending → Reply → Transition
  | .startUrl id, .ok answer =>
    let r := match targetSite? answer with
      | some url => r.update id fun x => { x with targetSite := some url }
      | none => r
    (r, w, .ask (.expose PageCode.bindingName) (.startExpose id))
  | .startExpose id, .ok _ => (r, w, .ask (.run .install) (.startInstall id))
  | .startInstall id, .ok _ => (r, w, .ask (.addLoadListener loadListener) (.startListen id))
  | .startListen id, .ok _ => (r, w, .finish (.ok (.started id)))
  | .startUrl id, .error fault | .startExpose id, .error fault | .startInstall id, .error fault
  | .startListen id, .error fault => r.failStart w id fault
  | .actionUrl kind locator value description, .ok answer =>
    let (id, w) := w.freshId
    r.append w { kind, pageUrl := pageUrl answer, locator, value, description, time := w.now, id } 0
  | .stepImage _, .error .cancelled => (r, w, .finish (.error .cancelled))
  | .stepImage description, .error _ => r.askUrl w (.stepUrl description none)
  | .stepImage description, .ok answer => r.askUrl w (.stepUrl description (some (dataUrl answer.bytes)))
  | .stepUrl description screenshot, .ok answer =>
    let (id, w) := w.freshId
    r.append w { kind := .manualStep, pageUrl := pageUrl answer, description := some description, screenshot,
                 time := w.now, id } 1
  | .actionUrl .., .error fault | .stepUrl .., .error fault | .stopListen _, .error fault =>
    (r, w, .finish (.error fault))
  | .stopListen id, .ok _ => (r, w, .ask (.run .uninstall) (.stopUninstall id))
  | .stopUninstall _, .error .cancelled | .reinstall, .error .cancelled => (r, w, .finish (.error .cancelled))
  | .stopUninstall id, _ => (r.reset, w, .finish (.ok (.stopped id)))
  | .reinstall, _ => (r, w, .finish (.ok .done))

/-- The summaries of all stored recordings, newest first. Scripts that cannot be read are left out. -/
def list (store : ScriptStore) (files : Files) : Except Fault (List Recording) := do
  let names ← store.list files
  let found ← names.filterMapM fun name => do
    let id := Script.stem name store.suffix
    match store.read files id with
    | .ok script => return some (← Script.summary name script store.suffix)
    | .error _ => return none
  return found.mergeSort fun a b => b.updatedAt.micros ≤ a.updatedAt.micros

def get? (store : ScriptStore) (files : Files) (id : Value) : Except Fault (Option Recording) := do
  return (← list store files).find? fun x => id.same (.str x.id)

def entries (r : Recorder) : Entries :=
  [("state", .str r.state.word), ("is_recording", .bool r.isRecording),
    ("is_paused", .bool (r.state == .paused)),
    ("current_recording", match r.current? with
      | some x => .dict x.entries
      | none => .null)]

end Recorder

end BrowserFlow
