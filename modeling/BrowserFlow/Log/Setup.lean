import BrowserFlow.Files.Tree
import BrowserFlow.Log.Record

/-!
Where log records go: to the console always, and to a file if there is one, which lines are added to. Records below
the level are dropped.
-/

namespace BrowserFlow

structure LogSetup where
  level : Int := 20
  file : Option Path := none
  isJson : Bool := false
  deriving Inhabited

namespace LogSetup

def handlers (s : LogSetup) : List (String × Int) :=
  ("console", s.level) :: (s.file.toList.map fun _ => ("file", s.level))

/-- Opens the log file, if one is named, so that it is there. -/
def start (level : String) (file : Option String) (isJson : Bool) : FileM LogSetup := do
  let level ← FileM.ask fun _ => LogLevel.ofWord level
  match file.filter (!·.isEmpty) with
  | none => return { level, isJson }
  | some name =>
    let path := (Path.ofText name).flat
    let isThere ← FileM.ask fun files => files.isFile path
    if !isThere then FileM.writeBytes path []
    return { level, file := some path, isJson }

def admits (s : LogSetup) (level : Int) : Bool := 0 < level && s.level ≤ level

def line (s : LogSetup) (r : LogRecord) : String := if s.isJson then r.jsonLine else r.plainLine

end LogSetup

end BrowserFlow
