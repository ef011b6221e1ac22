import BrowserFlow.Recording
import BrowserFlow.Replay.Replayer
import BrowserFlow.Replay.Report

/-!
What the record and replay mode answers.
-/

namespace BrowserFlow

inductive ModeData
  | started (recording : Recording)
  | paused
  | resumed
  | stopped (recording : Recording)
  /-- an action that has been recorded, none if it was dropped -/
  | recorded (action : Option Action)
  | stepped (action : Action)
  | recordings (recordings : List Recording)
  | recording (recording : Recording)
  | deleted (id : Value)
  | report (report : Report)
  | replay (status : ReplayStatus)
  | state (recorder : Entries) (replay : ReplayStatus)
  deriving Inhabited

def ModeData.entries : ModeData → Entries
  | .started r =>
    [("status", .str "recording"), ("recording", .dict r.entries),
      ("message", .str "Recording started. Perform actions in the browser, then stop.")]
  | .paused => [("status", .str "paused")]
  | .resumed => [("status", .str "recording")]
  | .stopped r => [("status", .str "stopped"), ("recording", .dict r.entries)]
  | .recorded (some a) => [("recorded", .bool true), ("action", .dict a.entries)]
  | .recorded none => [("recorded", .bool false), ("action", .null)]
  | .stepped a => [("action", .dict a.entries)]
  | .recordings rs => [("recordings", .list (rs.map fun r => .dict r.entries))]
  | .recording r => [("recording", .dict r.entries)]
  | .deleted id => [("deleted", id)]
  | .report r => [("report", .dict r.entries)]
  | .replay status => status.entries
  | .state recorder status => [("recorder", .dict recorder), ("replay", .dict status.entries)]

structure ModeResult where
  success : Bool
  steps : Nat := 0
  data : Option ModeData := none
  error : Option String := none
  deriving Inhabited

namespace ModeResult

def failure (message : String) : ModeResult := { success := false, error := some message }

def ofData (data : ModeData) (steps : Nat := 0) : ModeResult := { success := true, steps, data := some data }

def entries (r : ModeResult) : Entries :=
  [("success", .bool r.success), ("steps_executed", .int r.steps),
    ("data", (r.data.map fun data => Value.dict data.entries).getD .null), ("error", .ofText? r.error)]

def ofReport (report : Report) : ModeResult :=
  { success := report.success
    steps := report.executed
    data := some (.report report)
    error :=
      if report.stopped then some "Replay stopped"
      else if report.failed != 0 then some s!"{report.failed} of {report.executed} commands failed"
      else none }

end ModeResult

end BrowserFlow
