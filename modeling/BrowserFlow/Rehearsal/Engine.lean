import BrowserFlow.Browser.Launch
import BrowserFlow.Rehearsal.Scene

/-!
A double of the engine behind a browser. What it is asked stands in the log of the tab.
-/

namespace BrowserFlow.Rehearsal

structure Engine where
  startFault : Option String := none
  launchFault : Option String := none
  contextFault : Option String := none
  cookies : List Value := []
  refused : List Value := []
  deriving Inhabited

namespace Engine

def set (e : Engine) (key : String) (v : Value) : Engine :=
  match key, v with
  | "start_error", v => { e with startFault := v.str? }
  | "launch_error", v => { e with launchFault := v.str? }
  | "context_error", v => { e with contextFault := v.str? }
  | "cookies", .list cookies => { e with cookies }
  | "fail_cookies", .list refused => { e with refused }
  | _, _ => e

def configure (e : Engine) (settings : Entries) : Engine := settings.foldl (fun e (key, v) => e.set key v) e

def call? : EngineRequest → Option Call
  | .start => none
  | .launch engine options => some (.browser "launch" [("browser", .str engine), ("options", .dict options)])
  | .openContext options => some (.browser "new_context" [("options", .dict options)])
  | .setTimeout ms => some (.browser "set_default_timeout" [("ms", .int ms)])
  | .openPage => some (.browser "new_page" [])
  | .closeContext => some (.browser "context.close" [])
  | .closeBrowser => some (.browser "browser.close" [])
  | .stop => some (.browser "playwright.stop" [])

def fault? (e : Engine) : EngineRequest → Option String
  | .start => e.startFault
  | .launch _ _ => e.launchFault
  | .openContext _ => e.contextFault
  | _ => none

def refuses (e : Engine) (cookie : Value) : Bool :=
  match cookie with
  | .dict entries => e.refused.any fun name => name.same (Entries.getD entries "name")
  | _ => false

end Engine

structure Desk extends Scene where
  engine : Engine := {}
  deriving Inhabited

namespace Desk

def log (d : Desk) (calls : List Call) : Desk :=
  { d with page := { d.page with tab := { d.page.tab with log := d.page.tab.log ++ calls } } }

def ask (request : EngineRequest) (d : Desk) : Except Fault Unit × Desk :=
  let d := d.log (Engine.call? request).toList
  match d.engine.fault? request with
  | some text => (.error (.raised text), d)
  | none => (.ok (), d)

/-- Launches a browser; its page is reached through a new adapter. -/
def launch (d : Desk) (b : Browser) (o : LaunchOptions) : Except Fault Unit × Browser × Desk :=
  match Browser.launch ask b d o with
  | (.ok (), b, d) =>
    (.ok (), b, { d with page := { d.page with adapter := some { timeoutMs := o.timeoutMs.map .int } } })
  | failed => failed

def close (d : Desk) (b : Browser) : Except Fault Unit × Browser × Desk := Browser.close ask b d

end Desk

end BrowserFlow.Rehearsal
