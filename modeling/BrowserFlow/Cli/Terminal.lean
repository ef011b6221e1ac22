import BrowserFlow.Cli.Overview
import BrowserFlow.Config.Source
import BrowserFlow.Rehearsal.Engine
import BrowserFlow.Rehearsal.Operation

/-!
What a command works on: files, a page with its engine, and a console with somebody in front of it. A command ends
early with a printed failure, because a question is answered with no, or with a fault.
-/

namespace BrowserFlow.Cli

open Rehearsal

/-- A line that is typed in, and what happens in the page and to the files just before. -/
structure Typed where
  line : String
  events : List String := []
  page : Value := .null
  removed : Option Path := none
  isLoaded : Bool := false
  deriving Inhabited

structure Console where
  typed : List Typed := []
  agrees : Bool := false
  asked : List String := []
  printed : List Printed := []
  deriving Inhabited

def Console.print (c : Console) (p : Printed) : Console := { c with printed := c.printed ++ [p] }

structure Terminal extends Desk where
  console : Console := {}
  environment : Environment := {}
  browser : Browser := {}
  mode : Mode := {}
  deriving Inhabited

inductive Stop
  | failed
  | declined
  | fault (fault : Fault)
  deriving Inhabited

abbrev TerminalM := ExceptT Stop (StateM Terminal)

namespace TerminalM

def print (p : Printed) : TerminalM Unit := modify fun t => { t with console := t.console.print p }

def fail (p : Printed) : TerminalM α := do
  print p
  throw .failed

def ofResult (result : Except Fault α) : TerminalM α :=
  match result with
  | .ok x => pure x
  | .error fault => throw (.fault fault)

def onFiles (action : FileM α) : TerminalM α := do
  let t ← get
  let (result, scene) := t.toScene.onFiles action
  set { t with toScene := scene }
  ofResult result

def confirm (question : String) : TerminalM Unit := do
  modify fun t => { t with console := { t.console with asked := t.console.asked ++ [question] } }
  if !(← get).console.agrees then throw .declined

def onBench (work : Bench → α × Bench) : TerminalM α := do
  let t ← get
  let (x, b) := work { t.toScene with mode := t.mode }
  set { t with toScene := b.toScene, mode := b.mode }
  return x

def onDesk (work : Desk → Browser → Except Fault α × Browser × Desk) : TerminalM α := do
  let t ← get
  let (result, browser, desk) := work t.toDesk t.browser
  set { t with toDesk := desk, browser }
  ofResult result

def loadPage (url : String) : TerminalM Unit := do
  let t ← get
  let (reply, scene) := t.toScene.ask (.load url)
  set { t with toScene := scene }
  let _ ← ofResult reply

def request (action : ModeAction) (arguments : Entries) : TerminalM ModeResult := do
  let input : Value := .dict (("action", .str action.word) :: arguments)
  ofResult (← onBench fun b =>
    let (play, b) := b.execute input []
    (Operation.result play, b))

def report (payload : String) : TerminalM Unit := do
  if (← get).page.tab.exposed.contains PageCode.bindingName then
    match ← ofResult (← onBench fun b => b.handleEvent payload) with
    | .appended action => print (actionNote action)
    | _ => pure ()

def readLine : TerminalM String := do
  match (← get).console.typed with
  | [] => throw (.fault .noMoreInput)
  | next :: rest =>
    modify fun t => { t with console := { t.console with typed := rest } }
    next.events.forM report
    modify fun t => { t with page := t.page.change next.page }
    match next.removed with
    | some directory => onFiles (modify (·.eraseTree directory.parts))
    | none => pure ()
    if next.isLoaded then onBench fun b => ((), b.load)
    return next.line

def printingErrors (action : TerminalM α) : TerminalM α :=
  tryCatch action fun
    | .fault (.flow e) => fail (.text ("\n" ++ Printed.styled "red" ("✗ Error: " ++ e.text)))
    | stop => throw stop

/-- Stops the mode and closes the browser, however the action ends. -/
def closing (action : TerminalM Unit) : TerminalM Unit := do
  let close : TerminalM Unit := do
    ofResult (← onBench Bench.stop)
    onDesk fun d b => d.close b
  tryCatch action fun stop => do
    close
    throw stop
  close

def openStore (settings : Settings) (directory : Option String) : TerminalM ScriptStore :=
  onFiles (ScriptStore.create (Path.ofText (directory.getD settings.recorder.directory)) settings.recorder.suffix)

def launchOptions (settings : Settings) (isVisible : Option Bool) : LaunchOptions :=
  let s := settings.browser
  { headless := (isVisible.map (!·)).getD s.headless
    engine := s.engine
    channel := s.channel
    viewport := some [("width", .int s.viewportWidth), ("height", .int s.viewportHeight)]
    timeoutMs := some s.timeoutMs }

def launch (o : LaunchOptions) : TerminalM Unit := onDesk fun d b => d.launch b o

end TerminalM

end BrowserFlow.Cli
