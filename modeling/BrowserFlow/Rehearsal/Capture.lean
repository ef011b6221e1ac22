import BrowserFlow.Record.Recorder
import BrowserFlow.Rehearsal.Scene

/-!
A recorder that is alone with the page: its operations run to their ends one after the other.
-/

namespace BrowserFlow.Rehearsal

structure Capture extends Scene where
  recorder : Recorder
  observers : List String := []
  heard : List (String × Action) := []
  deriving Inhabited

namespace Capture

def takesTime (c : Capture) (request : PageRequest) : Bool :=
  match c.page.forward? request with
  | some request => (c.page.tab.delay? request).isSome
  | none => false

/-- Sends a request whose sender is cancelled while he waits for the answer. -/
def abandon (c : Capture) (request : PageRequest) : Reply × Capture :=
  let (reply, page) := (c.page.note request).reply request true
  (reply, { c with page })

/-- No operation asks the page more often than this. -/
def maxRequests : Nat := 8

/-- Runs an operation to its end. If it is to be cancelled, that happens when it first has to wait. -/
def finish (cancels : Bool) : Nat → Capture → Recorder.Transition → Except Fault Recorder.Outcome × Capture
  | 0, c, _ => (.error .cancelled, c)
  | fuel + 1, c, (recorder, world, step) =>
    let c := { c with recorder, world }
    match step with
    | .finish result => (result, c)
    | .ask request pending =>
      let (reply, c) :=
        if cancels && c.takesTime request then c.abandon request
        else
          let (reply, scene) := c.toScene.ask request
          (reply, { c with toScene := scene })
      finish cancels fuel c (c.recorder.step c.world pending reply)

def announce (c : Capture) : Except Fault Recorder.Outcome → Capture
  | .ok (.appended action) => { c with heard := c.heard ++ c.observers.map fun name => (name, action) }
  | _ => c

def notes : Recorder.Observer := fun _ => .ok ()

def run (c : Capture) (transition : Recorder.Transition) (cancels : Bool := false) :
    Except Fault Recorder.Outcome × Capture :=
  let (result, c) := finish cancels maxRequests c transition
  (Recorder.hear (c.observers.map fun _ => notes) result, c.announce result)

def start (c : Capture) (name description : Option Value) (cancels : Bool := false) :
    Except Fault Recorder.Outcome × Capture :=
  c.run (c.recorder.start c.world name description) cancels

def recordAction (c : Capture) (kind : Value) (locator : Option Locator) (value description : Option Value) :
    Except Fault Recorder.Outcome × Capture :=
  c.run (c.recorder.recordAction c.world kind locator value description)

def handleEvent (c : Capture) (payload : String) : Except Fault Recorder.Outcome × Capture :=
  c.run (c.recorder.handleEvent c.world payload)

def addManualStep (c : Capture) (description : Value) : Except Fault Recorder.Outcome × Capture :=
  c.run (c.recorder.addManualStep c.world description)

def stop (c : Capture) : Except Fault Recorder.Outcome × Capture := c.run (c.recorder.stop c.world)

def load (c : Capture) : Capture :=
  c.page.tab.listeners.foldl (fun c _ => (c.run (c.recorder.afterLoad c.world)).2) c

end Capture

end BrowserFlow.Rehearsal
