import BrowserFlow.Page.Request
import BrowserFlow.Replay.Host
import BrowserFlow.Replay.Replayer
import BrowserFlow.Replay.Report
import BrowserFlow.Script.Summary
import BrowserFlow.World

/-!
One replay from its start to its report, as a machine: in every phase it has asked for one thing, and the
reply takes it to the next phase. A command that fails is noted in the report and the next one is attempted.
-/

namespace BrowserFlow

structure ReplayOptions where
  recordingId : Value
  speed : Option Value := none
  restoresSession : Bool := false
  deriving Inhabited

inductive Phase
  /-- the observer hears that the replay runs -/
  | announcing
  | restoring
  /-- waits at the gate before the first of the remaining commands -/
  | blocked
  /-- the observer hears of the step by hand -/
  | handing
  /-- waits at the gate for the end of the step by hand -/
  | byHand
  /-- waits for the page to be ready for a command -/
  | preparing (waiting : Waiting Float)
  /-- the command takes effect -/
  | acting
  /-- waits for the page to settle after the command -/
  | settling (waiting : Waiting Float)
  /-- the observer hears of the end; a fault is then raised, otherwise the report is returned -/
  | closing (fault : Option Fault)
  /-- the observer hears that all commands have been attempted -/
  | completing
  | saving
  deriving Inhabited

structure Run where
  report : Report
  /-- what is left of the script; a command under way is the first -/
  remaining : List Script.Command := []
  wait : WaitStrategy
  domain : Option String := none
  restoresSession : Bool := false
  phase : Phase := .announcing
  commandStart : Float := 0.0
  deriving Inhabited

inductive Demand (α : Type)
  | ask (request : Request)
  | finish (result : Except Fault α)

def Script.Statement.effect? (speed : Value) : Script.Statement → Except Fault (Option Request)
  | .navigate url => .ok (some (.page (.load url)))
  | .click selector => .ok (some (.page (.run (.click selector))))
  | .fill selector value => .ok (some (.page (.run (.fill selector value))))
  | .select selector value => .ok (some (.page (.run (.select selector value))))
  | .keyPress key => .ok (some (.page (.run (.press (if key.isEmpty then "Enter" else key)))))
  | .scroll x y => do
    let x ← Value.intOfText x
    let y ← Value.intOfText y
    return some (.page (.run (.scroll x y)))
  | .wait ms => do
    let seconds ← Value.thousandth (.int (← Value.intOfText ms))
    return some (.sleep (← Value.divide seconds speed))
  | .manualStep _ => .ok none

/-- An effect on an element fails if the page reports that there is none. -/
def Script.Statement.checkAnswer (answer : Answer) : Script.Statement → Except Fault Unit
  | .click selector | .fill selector _ | .select selector _ =>
    if answer.content.isPresent then .ok ()
    else .error (.flow (.elementNotFound ("Element not found: " ++ selector) (.str selector)))
  | _ => .ok ()

namespace Run

abbrev Transition := Replayer × Run × Demand Report

/-- The time since the command began, in tenths of a millisecond. -/
def elapsed (run : Run) (w : World) : Int :=
  ((Binary.ofFloat ((w.clock - run.commandStart) * 1000.0)).roundPlaces? 1).getD 0

def note (run : Run) (w : World) (c : Script.Command) (error : Option String) : Run :=
  { run with report := run.report.add ⟨c, error.isNone, run.elapsed w, error⟩ }

/-- Notes a step by hand, which takes no time and cannot fail. -/
def noteByHand (run : Run) (c : Script.Command) : Run :=
  { run with report := run.report.add ⟨c, true, 0, none⟩ }

def ask (r : Replayer) (run : Run) (phase : Phase) (request : Request) : Transition :=
  (r, { run with phase }, .ask request)

def finish (r : Replayer) (run : Run) (result : Except Fault Report) : Transition := (r, run, .finish result)

def cancel (r : Replayer) (run : Run) (w : World) : Transition :=
  let run := { run with report := { run.report with stopped := true, completedAt := some w.now } }
  ask (r.enter .idle (some "Replay cancelled")) run (.closing (some .cancelled)) .tell

def conclude (r : Replayer) (run : Run) (w : World) (stopped : Bool) : Transition :=
  let report := { run.report with stopped, completedAt := some w.now }
  let run := { run with report }
  if stopped then ask (r.enter .idle (some "Replay stopped")) run (.closing none) .tell
  else
    let message := s!"{report.succeeded}/{report.executed} commands succeeded"
    ask (r.enter .completed (some message)) run .completing .tell

def request : WaitRequest Float → Request
  | .run script => .page (.run script)
  | .call request => .page request
  | .sleep seconds => .sleep seconds

def beginEffect (r : Replayer) (c : Script.Command) : Except Fault (Phase × Request) := do
  match ← c.statement.effect? r.speed with
  | some request => return (.acting, request)
  | none => return (.acting, .sleep 0.0)

def beginCommand (r : Replayer) (run : Run) (w : World) (c : Script.Command) : Except Fault (Phase × Request) := do
  match ← run.wait.before w.clock c.statement c.line with
  | some (waiting, wanted) => return (.preparing waiting, request wanted)
  | none => beginEffect r c

/-- Attempts commands until one has to wait for something. Before each of them the gate must be open, unless
    it has just been passed, and no stop requested. -/
def proceed (r : Replayer) (run : Run) (w : World) : Bool → List Script.Command → Transition
  | _, [] => conclude r { run with remaining := [] } w false
  | passed, c :: rest =>
    if !passed && !r.gate.isOpen then
      ask r { run with remaining := c :: rest } .blocked (.gate r.gate.openings)
    else if r.stopRequested then conclude r { run with remaining := c :: rest } w true
    else
      let r := { r with status := { r.status with currentLine := some c.line } }
      match c.statement with
      | .manualStep description =>
        if r.pausesOnManualStep then
          let message := if description.isEmpty then "Manual step" else description
          ask (r.closeGate.enter .manualStep (some message)) { run with remaining := c :: rest } .handing .tell
        else proceed r (run.noteByHand c) w false rest
      | _ =>
        let run := { run with commandStart := w.clock }
        match beginCommand r run w c with
        | .ok (phase, request) => ask r { run with remaining := c :: rest } phase request
        | .error fault => proceed r (run.note w c (some fault.text)) w false rest

def endCommand (r : Replayer) (run : Run) (w : World) (error : Option String) : Transition :=
  match run.remaining with
  | c :: rest => proceed r (run.note w c error) w false rest
  | [] => conclude r run w false

/-- Goes on with what comes next in the command, or ends it: with a fault, or well if nothing comes next. -/
def goOn (r : Replayer) (run : Run) (w : World) (next : Except Fault (Option (Phase × Request))) : Transition :=
  match next with
  | .ok (some (phase, request)) => ask r run phase request
  | .ok none => endCommand r run w none
  | .error fault => endCommand r run w (some fault.text)

def prepare (r : Replayer) (c : Script.Command) (step : Except Fault (WaitStep Float)) : Except Fault (Option (Phase × Request)) := do
  match ← step with
  | some (waiting, wanted) => return some (.preparing waiting, request wanted)
  | none => return some (← beginEffect r c)

def settle (step : Except Fault (WaitStep Float)) : Except Fault (Option (Phase × Request)) := do
  return (← step).map fun (waiting, wanted) => (.settling waiting, request wanted)

def begin (r : Replayer) (run : Run) (w : World) : Transition :=
  match run.domain with
  | some domain =>
    if run.restoresSession && r.hasSession then ask r run .restoring (.restoreSession domain)
    else proceed r run w false run.remaining
  | none => proceed r run w false run.remaining

def conserve (r : Replayer) (run : Run) : Transition :=
  match run.domain with
  | some domain =>
    if r.hasSession then ask r run .saving (.saveSession domain) else finish r run (.ok run.report)
  | none => finish r run (.ok run.report)

/-- A step by hand begins with the gate closed, unless the observer has already resumed. -/
def awaitHand (r : Replayer) (run : Run) (w : World) : Transition :=
  if r.gate.isOpen then
    match run.remaining with
    | c :: rest => proceed r (run.noteByHand c) w false rest
    | [] => conclude r run w false
  else ask r run .byHand (.gate r.gate.openings)

def isCancelled : Reply → Bool
  | .error .cancelled => true
  | _ => false

def step (r : Replayer) (run : Run) (w : World) (reply : Reply) : Transition :=
  match run.phase with
  | .announcing => begin r run w
  | .handing => awaitHand r run w
  | .closing none => finish r run (.ok run.report)
  | .closing (some fault) => finish r run (.error fault)
  | .completing => conserve r run
  | .saving => if isCancelled reply then finish r run (.error .cancelled) else finish r run (.ok run.report)
  | phase =>
    if isCancelled reply then cancel r run w
    else
      match phase, run.remaining with
      | .blocked, cs => proceed r run w true cs
      | .byHand, c :: rest => proceed r (run.noteByHand c) w false rest
      | .preparing waiting, c :: _ => goOn r run w (prepare r c (run.wait.next w.clock waiting reply))
      | .acting, c :: _ =>
        goOn r run w (do
          c.statement.checkAnswer (← reply)
          settle (run.wait.after w.clock c.statement c.line))
      | .settling waiting, _ => goOn r run w (settle (run.wait.next w.clock waiting reply))
      | _, cs => proceed r run w false cs

end Run

namespace Replayer

/-- Starts a replay. The observer is then told, of the running replay or of a script that cannot be read. -/
def start (r : Replayer) (w : World) (o : ReplayOptions) (observer : Option Nat) : Replayer × Except Fault Run :=
  if r.isActive then
    (r, .error (.flow (.alreadyReplaying "Already replaying" (.str r.status.state.word))))
  else
    let speed := o.speed.bind Value.present?
    let r := { r with
      observer
      stopRequested := false
      speed := speed.getD r.wait.speed
      status := { recordingId := o.recordingId } }.openGate
    let report : Report := { recordingId := o.recordingId, startedAt := w.now }
    match ScriptStore.idOfValue o.recordingId >>= fun id => (r.store.read w.files id).map ((id, ·)) with
    | .error (.flow e) =>
      let fault := Fault.flow (.scriptLoad ("Failed to load script: " ++ e.message) o.recordingId)
      (r.enter .error none (some e.text),
        .ok { report := { report with error := some e.text, completedAt := some w.now }, wait := r.wait,
              phase := .closing (some fault) })
    | .error fault => (r, .error fault)
    | .ok (id, script) =>
      let commands := Script.commands script
      let prepared : Except Fault (Recording × Option String × WaitStrategy) := do
        let summary ← Script.summary id script ""
        let domain ← Host.ofUrl (summary.targetSite.getD "")
        return (summary, domain, ← r.wait.withSpeed speed)
      match prepared with
      | .error fault => (r, .error fault)
      | .ok (summary, domain, wait) =>
        let r := { r with status := { r.status with total := commands.length } }
        (r.enter .running (some ("Replaying '" ++ summary.name.text ++ "'")),
          .ok { report := { report with total := commands.length }, remaining := commands, wait, domain,
                restoresSession := o.restoresSession })

end Replayer

end BrowserFlow
