import BrowserFlow.Cli.Printed
import BrowserFlow.Decimal.Fixed
import BrowserFlow.Decimal.Numeral
import BrowserFlow.Recording
import BrowserFlow.Replay.Report

/-!
How recordings and reports of replays are printed.
-/

namespace BrowserFlow.Cli

def orDash (s : Option String) : String := (s.filter (!·.isEmpty)).getD "-"

def orDashValue (v : Option Value) : String := ((v.bind Value.present?).map Value.text).getD "-"

def recordingsTable (recordings : List Recording) : Printed :=
  .table ["ID", "Name", "Created", "Target site", "Manual"] (recordings.map fun r =>
    [r.id, r.name.text, r.createdAt.headerText, orDash r.targetSite, toString r.manualSteps])

def recordingFacts (r : Recording) : Printed :=
  .facts (Printed.styled "bold" r.name.text)
    [("ID", r.id), ("Created", r.createdAt.headerText), ("Description", orDashValue r.description),
      ("Target site", orDash r.targetSite), ("Manual steps", toString r.manualSteps)]

def actionNote (a : Action) : Printed :=
  let locator := (a.locator.map fun l => (Value.dict l.entries).display).getD ""
  .text ("  " ++ Printed.styled "green" "●" ++ " " ++ a.kind.word ++ " " ++ Printed.styled "dim" locator)

def sourceWidth : Nat := 70

def cutSource (s : String) : String :=
  let cs := s.toList
  if sourceWidth < cs.length then String.ofList (cs.take sourceWidth) ++ "..." else s

def resultRows (r : CommandResult) : List (List String) :=
  let status := if r.success then Printed.styled "green" "ok" else Printed.styled "red" "failed"
  let millis := toString (Binary.signed (r.tenths < 0) (Binary.divHalfEven r.tenths.natAbs 10))
  let row := [toString r.command.line, cutSource r.command.source, status, millis]
  match r.error.filter (!·.isEmpty) with
  | some error => [row, ["", Printed.styled "red" error, "", ""]]
  | none => [row]

def reportTable (r : Report) : Printed :=
  .table ["Line", "Command", "Status", "ms"] (r.results.flatMap resultRows)

def reportTally (r : Report) : Printed :=
  let seconds := Numeral.nearestFloat (r.duration < 0) r.duration.natAbs (-6)
  .text (Printed.styled "dim"
    (s!"{r.succeeded}/{r.total} succeeded, {r.failed} failed in " ++ Decimal.fixedOf 1 seconds ++ "s"))

end BrowserFlow.Cli
