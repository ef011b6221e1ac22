import BrowserFlow.Script.Statement
import BrowserFlow.Time.Instant
import BrowserFlow.Value.Access

/-!
The report of a replay: one result for each command that was attempted.
-/

namespace BrowserFlow

structure CommandResult where
  command : Script.Command
  success : Bool
  /-- tenths of a millisecond -/
  tenths : Int := 0
  error : Option String := none
  deriving Inhabited

structure Report where
  recordingId : Value
  startedAt : Instant
  completedAt : Option Instant := none
  total : Nat := 0
  results : List CommandResult := []
  /-- was the replay cut short? -/
  stopped : Bool := false
  error : Option String := none
  deriving Inhabited

def CommandResult.entries (r : CommandResult) : Entries :=
  [("line_number", .int r.command.line), ("kind", .str r.command.statement.word),
    ("source", .str r.command.source), ("success", .bool r.success), ("duration_tenths", .int r.tenths),
    ("error", .ofText? r.error)]

namespace Report

def executed (r : Report) : Nat := r.results.length

def succeeded (r : Report) : Nat := (r.results.filter (·.success)).length

def failed (r : Report) : Nat := (r.results.filter (!·.success)).length

def success (r : Report) : Bool := r.failed == 0 && !r.stopped && r.error.isNone

def duration (r : Report) : Int :=
  match r.completedAt with
  | some t => t.micros - r.startedAt.micros
  | none => 0

def add (r : Report) (result : CommandResult) : Report := { r with results := r.results ++ [result] }

def entries (r : Report) : Entries :=
  [("recording_id", r.recordingId), ("started_at", .str r.startedAt.isoText),
    ("completed_at", .ofText? (r.completedAt.map Instant.isoText)), ("total_commands", .int r.total),
    ("executed", .int r.executed), ("succeeded", .int r.succeeded), ("failed", .int r.failed),
    ("stopped", .bool r.stopped), ("success", .bool r.success), ("error", .ofText? r.error),
    ("duration_us", .int r.duration), ("results", .list (r.results.map fun x => .dict x.entries))]

end Report

end BrowserFlow
