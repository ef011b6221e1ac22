import BrowserFlow.Replay.Wait
import BrowserFlow.Store
import BrowserFlow.Value.Access

/-!
The state that all replays of one replayer share, and the calls that steer the replay under way. A replay
waits at a gate while it is paused; a waiter passes once the gate has been opened, even if it has been closed
again by then.
-/

namespace BrowserFlow

inductive ReplayState
  | idle
  | running
  | paused
  | manualStep
  | completed
  | error
  deriving DecidableEq, Repr, Inhabited

namespace ReplayState

def word : ReplayState → String
  | idle => "idle"
  | running => "running"
  | paused => "paused"
  | manualStep => "manual_step"
  | completed => "completed"
  | error => "error"

def isActive : ReplayState → Bool
  | running | paused | manualStep => true
  | idle | completed | error => false

end ReplayState

structure ReplayStatus where
  state : ReplayState := .idle
  recordingId : Value := .null
  currentLine : Option Nat := none
  total : Nat := 0
  message : Option String := none
  error : Option String := none
  deriving Inhabited

def ReplayStatus.entries (s : ReplayStatus) : Entries :=
  let line : Value := match s.currentLine with
    | some n => .int n
    | none => .null
  [("state", .str s.state.word), ("recording_id", s.recordingId), ("current_line", line),
    ("total_commands", .int s.total), ("message", .ofText? s.message), ("error", .ofText? s.error)]

/-- The number of openings tells a waiter whether the gate has been opened since it came. -/
structure Gate where
  isOpen : Bool := true
  openings : Nat := 0
  deriving DecidableEq, Repr, Inhabited

namespace Gate

/-- Opening an open gate changes nothing. -/
def opened (g : Gate) : Gate := if g.isOpen then g else ⟨true, g.openings + 1⟩

def closed (g : Gate) : Gate := { g with isOpen := false }

def lets (g : Gate) (openings : Nat) : Bool := openings < g.openings

end Gate

structure Replayer where
  store : ScriptStore
  hasSession : Bool := false
  wait : WaitStrategy := .fixed {}
  pausesOnManualStep : Bool := false
  status : ReplayStatus := {}
  gate : Gate := {}
  stopRequested : Bool := false
  /-- divides the waits that scripts ask for -/
  speed : Value := .float 1.0
  observer : Option Nat := none
  deriving Inhabited

namespace Replayer

def isActive (r : Replayer) : Bool := r.status.state.isActive

/-- The observer has still to be told. -/
def enter (r : Replayer) (state : ReplayState) (message : Option String) (error : Option String := none) :
    Replayer :=
  { r with status := { r.status with state, message, error } }

def openGate (r : Replayer) : Replayer := { r with gate := r.gate.opened }

def closeGate (r : Replayer) : Replayer := { r with gate := r.gate.closed }

def refusal (r : Replayer) (message : String) : Fault :=
  .flow ⟨.replay, message, [("state", .str r.status.state.word)], []⟩

/-- Pauses before the next command. Then the observer is told. -/
def pause (r : Replayer) : Except Fault Replayer :=
  if r.status.state == .running then .ok (r.closeGate.enter .paused (some "Replay paused"))
  else .error (r.refusal "Cannot pause: replay not running")

/-- Goes on after a pause or a step by hand. Then the observer is told, and after that the gate is opened. -/
def resume (r : Replayer) : Except Fault Replayer :=
  match r.status.state with
  | .paused | .manualStep => .ok (r.enter .running (some "Replay resumed"))
  | _ => .error (r.refusal "Cannot resume: replay not paused")

def stop (r : Replayer) : Replayer :=
  if r.isActive then { r with stopRequested := true }.openGate else r

end Replayer

end BrowserFlow
