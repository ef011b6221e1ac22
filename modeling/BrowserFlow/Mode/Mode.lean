import BrowserFlow.Mode.Request
import BrowserFlow.Mode.Result
import BrowserFlow.Record.Recorder
import BrowserFlow.Replay.Run

/-!
The record and replay mode: one recorder and one replayer behind one kind of request. Whatever goes wrong comes
back as a result; only a cancelled request has none.
-/

namespace BrowserFlow

structure ModeOptions where
  directory : String := "./recordings"
  suffix : String := ".spec.ts"
  takesScreenshots : Bool := true
  pausesOnManualStep : Bool := false
  hasSession : Bool := false
  wait : WaitStrategy := .fixed {}
  deriving Inhabited

structure Mode where
  recorder : Option Recorder := none
  replayer : Option Replayer := none
  isRunning : Bool := false
  hasPage : Bool := false
  observer : Option Nat := none
  deriving Inhabited

inductive Mode.Task
  | received (input : Value)
  | recording (pending : Recorder.Pending)
  /-- the observer hears of a change of the replay, after which the gate may have to be opened -/
  | steering (opensGate : Bool)
  | replaying (run : Run)
  deriving Inhabited

namespace Mode

def typeWord : String := "record_replay"

def name : String := "Record & Replay"

def description : String := "Record browser actions as Playwright scripts and replay them"

abbrev Transition := Mode × World × Task × Demand ModeResult

/-- A recorder and a replayer that are missing are made, over one store. -/
def start (m : Mode) (o : ModeOptions) (observer : Option Nat) : FileM Mode := do
  let m := { m with hasPage := true }
  let running := { m with observer, isRunning := true }
  if m.recorder.isSome && m.replayer.isSome then return running
  else
    let store ← ScriptStore.create (Path.ofText o.directory) o.suffix
    return { running with
      recorder := m.recorder <|> some { store, takesScreenshots := o.takesScreenshots }
      replayer := m.replayer <|> some
        { store, hasSession := o.hasSession, wait := o.wait, pausesOnManualStep := o.pausesOnManualStep } }

def finish (m : Mode) (w : World) (task : Task) (result : ModeResult) : Transition := (m, w, task, .finish (.ok result))

def fail (m : Mode) (w : World) (task : Task) (fault : Fault) : Transition :=
  match fault with
  | .cancelled => (m, w, task, .finish (.error .cancelled))
  | fault => m.finish w task (.failure fault.message)

def current (m : Mode) : Recorder := m.recorder.getD { store := ⟨⟨[]⟩, "", none⟩ }

def replay (m : Mode) : Replayer := m.replayer.getD { store := ⟨⟨[]⟩, "", none⟩ }

def ofOutcome (r : Recorder) : Recorder.Outcome → ModeResult
  | .started id =>
    match r.recording? id with
    | some recording => .ofData (.started recording)
    | none => .failure ""
  | .stopped id =>
    match r.recording? id with
    | some recording => .ofData (.stopped recording) recording.actions.length
    | none => .failure ""
  | .appended action => .ofData (.recorded (some action)) 1
  | .dropped => .ofData (.recorded none)
  | .done => { success := true }

def ofRecorder (m : Mode) (task : Task) (t : Recorder.Transition) : Transition :=
  let (recorder, w, step) := t
  let m := { m with recorder := some recorder }
  match step with
  | .ask request pending => (m, w, .recording pending, .ask (.page request))
  | .finish (.error fault) => m.fail w task fault
  | .finish (.ok outcome) =>
    match task, outcome with
    | .recording (.stepUrl ..), .appended action => m.finish w task (.ofData (.stepped action) 1)
    | _, outcome => m.finish w task (ofOutcome recorder outcome)

def ofReplay (m : Mode) (w : World) (replayer : Replayer) (run : Run) (demand : Demand Report) : Transition :=
  let m := { m with replayer := some replayer }
  match demand with
  | .ask request => (m, w, .replaying run, .ask request)
  | .finish (.ok report) => m.finish w (.replaying run) (.ofReport report)
  | .finish (.error fault) => m.fail w (.replaying run) fault

/-- Locators are dictionaries; what does not count as present is none at all. -/
def locatorOf (v : Option Value) : Except Fault (Option Locator) :=
  match v.bind Value.present? with
  | none => .ok none
  | some (.dict entries) => .ok (some (Locator.ofEntries entries))
  | some v => .error (.noMember v.kind "get")

def answer (result : Except Fault ModeResult) (m : Mode) (w : World) (task : Task) : Transition :=
  match result with
  | .ok result => m.finish w task result
  | .error fault => m.fail w task fault

def steered (m : Mode) : ModeResult := .ofData (.replay m.replay.status)

def begin (m : Mode) (w : World) (task : Task) (r : ModeRequest) : Transition :=
  let id := r.argument "recording_id"
  let store := m.current.store
  match r.action with
  | .record => m.ofRecorder task (m.current.start w (r.argument? "name") (r.argument? "description"))
  | .pause =>
    match m.current.pause with
    | .ok recorder => { m with recorder := some recorder }.finish w task (.ofData .paused)
    | .error fault => m.fail w task fault
  | .resume =>
    match m.current.resume with
    | .ok recorder => { m with recorder := some recorder }.finish w task (.ofData .resumed)
    | .error fault => m.fail w task fault
  | .stop => m.ofRecorder task (m.current.stop w)
  | .recordAction =>
    let kind := (r.argument? "kind").getD .null
    match ActionKind.ofValue kind, locatorOf (r.argument? "locator") with
    | .error fault, _ | .ok _, .error fault => m.fail w task fault
    | .ok _, .ok locator =>
      m.ofRecorder task (m.current.recordAction w kind locator (r.argument? "value") (r.argument? "description"))
  | .manualStep => m.ofRecorder task (m.current.addManualStep w (r.argument "description"))
  | .list => answer ((Recorder.list store w.files).map fun rs => .ofData (.recordings rs)) m w task
  | .get =>
    let found := (Recorder.get? store w.files id).map fun
      | some recording => .ofData (.recording recording)
      | none => .failure ("Recording not found: " ++ id.text)
    answer found m w task
  | .delete =>
    let (deleted, w) := w.onFiles do store.delete (← FileM.ask fun _ => ScriptStore.idOfValue id)
    answer (deleted.map fun _ => .ofData (.deleted id)) m w task
  | .replay =>
    let restores := match r.argument? "restore_session" with
      | some v => v.isPresent
      | none => false
    let options : ReplayOptions := { recordingId := id, speed := r.argument? "speed", restoresSession := restores }
    match m.replay.start w options m.observer with
    | (replayer, .ok run) => m.ofReplay w replayer run (.ask .tell)
    | (replayer, .error fault) => { m with replayer := some replayer }.fail w task fault
  | .replayPause =>
    match m.replay.pause with
    | .ok replayer => ({ m with replayer := some replayer }, w, .steering false, .ask .tell)
    | .error fault => m.fail w task fault
  | .replayResume =>
    match m.replay.resume with
    | .ok replayer => ({ m with replayer := some replayer }, w, .steering true, .ask .tell)
    | .error fault => m.fail w task fault
  | .replayStop =>
    let m := { m with replayer := some m.replay.stop }
    m.finish w task m.steered
  | .replayStatus => m.finish w task m.steered
  | .status => m.finish w task (.ofData (.state m.current.entries m.replay.status))

def step (m : Mode) (w : World) (task : Task) (reply : Reply) : Transition :=
  match task, reply with
  | .received _, .error fault => m.fail w task fault
  | .received input, .ok _ =>
    if !m.isRunning then m.finish w task (.failure "Mode not started. Call start() first.")
    else
      match ModeRequest.ofInput input with
      | .ok request => m.begin w task request
      | .error text => m.finish w task (.failure text)
  | .recording pending, reply => m.ofRecorder task (m.current.step w pending reply)
  | .steering opensGate, _ =>
    let m := if opensGate then { m with replayer := some m.replay.openGate } else m
    m.finish w task m.steered
  | .replaying run, reply =>
    let (replayer, run, demand) := run.step m.replay w reply
    m.ofReplay w replayer run demand

/-- Stopping finishes a current recording first; the program's own errors do not keep the mode from stopping. -/
def stopRecording? (m : Mode) (w : World) : Option Recorder.Transition :=
  match m.recorder with
  | some r => if r.isRecording then some (r.stop w) else none
  | none => none

def stop (m : Mode) (finished : Except Fault Unit) : Except Fault Mode :=
  match finished with
  | .ok () | .error (.flow _) =>
    .ok { m with replayer := m.replayer.map Replayer.stop, isRunning := false, hasPage := false }
  | .error fault => .error fault

end Mode

end BrowserFlow
