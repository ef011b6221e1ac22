import BrowserFlow.Cli.Terminal

/-!
The command that records. An empty line ends the recording, `p` pauses it or goes on with it, and a line that begins
with `m` adds a step by hand; any other line only brings up this help.
-/

namespace BrowserFlow.Cli.TerminalM

open Rehearsal

def recordHelp : String :=
  Printed.styled "dim" "Enter" ++ " stop and save   " ++ Printed.styled "dim" "p" ++ " pause/resume   " ++
    Printed.styled "dim" "m <text>" ++ " add manual step"

def isPaused : TerminalM Bool := do return (← get).mode.current.state == .paused

def pauseOrResume : TerminalM ModeResult := do
  let paused ← isPaused
  let result ← request (if paused then .resume else .pause) []
  print (.text (Printed.styled "yellow" (if paused then "Resumed" else "Paused")))
  return result

def addManualStep (description : String) : TerminalM ModeResult := do
  let result ← request .manualStep [("description", .str description)]
  match result.data with
  | some (.stepped action) => print (actionNote action)
  | _ => pure ()
  print (.text (Printed.styled "cyan" "Manual step added"))
  return result

def noteFailure (result : ModeResult) : TerminalM Unit :=
  if result.success then pure () else print (.failure (result.error.getD "None"))

/-- Does what the lines say, at most so many of them, until an empty one comes. -/
def followLines : Nat → TerminalM Unit
  | 0 => pure ()
  | fuel + 1 => do
    let line := Text.trim (← readLine).toList
    match line with
    | [] => pure ()
    | ['p'] => do
      noteFailure (← pauseOrResume)
      followLines fuel
    | 'm' :: rest => do
      noteFailure (← addManualStep (String.ofList (Text.trim rest)))
      followLines fuel
    | _ => do
      print (.text recordHelp)
      followLines fuel

def demand (result : ModeResult) : TerminalM ModeResult :=
  if result.success then pure result else fail (.failure (result.error.getD "None"))

def recordPage (settings : Settings) (store : ScriptStore) (url : String) (name description : Option String) :
    TerminalM Unit := do
  launch (launchOptions settings (some true))
  loadPage url
  ofResult (← onBench fun b => b.start {})
  let _ ← demand (← request .record [("name", .ofText? name), ("description", .ofText? description)])
  print (.text (Printed.styled "green" "✓ Recording" ++ "   " ++ recordHelp))
  followLines ((← get).console.typed.length + 1)
  let result ← demand (← request .stop [])
  match result.data with
  | some (.stopped r) => do
    let path ← ofResult (store.path r.id)
    print (.text (Printed.styled "green" ("✓ Saved '" ++ r.name.text ++ "'") ++ s!" ({result.steps} actions) -> " ++ path.text))
  | _ => pure ()

def record (settings : Settings) (directory : Option String) (url : String) (name description : Option String) :
    TerminalM Unit := do
  print (.banner [("Start URL", url), ("Name", (name.filter (!·.isEmpty)).getD "auto")])
  let store ← openStore settings directory
  let recorder : Recorder := { store, takesScreenshots := settings.recorder.takesScreenshots }
  modify fun t => { t with mode := { recorder := some recorder, replayer := some { store } } }
  closing (printingErrors (recordPage settings store url name description))

end BrowserFlow.Cli.TerminalM
