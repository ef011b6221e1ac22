import BrowserFlow.Cli.Command
import BrowserFlow.Cli.Terminal
import BrowserFlow.Session.Store

/-!
The command that replays. What the replay tells its observer is printed; at a step by hand the next line that is
typed in makes it go on. Saved sessions are restored to and saved from the cookies of the browser.
-/

namespace BrowserFlow.Cli

open Rehearsal

structure Watch where
  mode : Mode
  engine : Engine := {}
  sessions : Option SessionStore := none
  console : Console := {}
  deriving Inhabited

abbrev WatchPlay := Play Watch Mode.Task ModeResult

namespace Watch

def step (s : Watch) (w : World) (task : Mode.Task) (reply : Reply) : Watch × World × Mode.Task × Demand ModeResult :=
  let (mode, w, task, demand) := s.mode.step w task reply
  ({ s with mode }, w, task, demand)

def print (p : WatchPlay) (printed : Printed) : WatchPlay :=
  { p with state := { p.state with console := p.state.console.print printed } }

/-- What happens before a line is typed in during a replay, when the page reports nothing to anybody. -/
def happen (p : WatchPlay) (next : Typed) : WatchPlay :=
  let files := match next.removed with
    | some directory => p.world.files.eraseTree directory.parts
    | none => p.world.files
  { p with page := p.page.change next.page, world := { p.world with files } }

/-- The replay will go on after the next line; if there is none, it waits for ever. -/
def goOn (p : WatchPlay) : WatchPlay :=
  match p.state.console.typed with
  | [] => p
  | next :: rest =>
    let p := { p with state := { p.state with console := { p.state.console with typed := rest } } }
    (happen p next).spawn (.received (.dict [("action", .str ModeAction.replayResume.word)]))

def tell (p : WatchPlay) : WatchPlay :=
  let status := p.state.mode.replay.status
  let message := status.message.getD ""
  if p.state.mode.replay.observer.isNone then p
  else if status.state == .manualStep then
    goOn (print p (.text (Printed.styled "cyan" "Manual step:" ++ " " ++ message ++ "  " ++
      Printed.styled "dim" "(Enter to continue)")))
  else if message.isEmpty then p
  else print p (.text (Printed.styled "dim" (status.state.word ++ ": " ++ message)))

def addCookie (p : WatchPlay) (cookie : Entries) : WatchPlay :=
  let call : Call := .browser "add_cookies" [("cookies", .list [.dict cookie])]
  { p with page := { p.page with tab := { p.page.tab with log := p.page.tab.log ++ [call] } } }

/-- Gives the browser the saved cookies of a host; a cookie that it refuses is left out. -/
def restore (p : WatchPlay) (domain : String) : WatchPlay × Reply :=
  match p.state.sessions with
  | none => (p, .ok .nothing)
  | some store =>
    let (cookies, fault) := store.restorable p.world.files domain p.world.now
    let reply : Reply := match fault with
      | some fault => .error fault
      | none => .ok (.value (.bool (cookies.any fun cookie => !p.state.engine.refuses (.dict cookie))))
    (cookies.foldl addCookie p, reply)

def save (p : WatchPlay) (domain : String) : WatchPlay × Reply :=
  match p.state.sessions with
  | none => (p, .ok .nothing)
  | some store =>
    let (result, scene) := p.toScene.onFiles (store.save domain p.state.engine.cookies p.world.now)
    ({ p with toScene := scene }, result.map fun _ => .nothing)

def director : Director Watch Mode.Task ModeResult where
  step := step
  gate s := s.mode.replay.gate
  told := tell
  called p := p
  restore := restore
  save := save
  cue? _ := none
  interfere p _ := p

/-- Plays a request to its end. If it waits for something that will not happen, it is cancelled. -/
def play (p : WatchPlay) (input : Value) : Except Fault ModeResult × WatchPlay :=
  let p := director.drive Director.maxEvents (p.spawn (.received input))
  let p := if (p.result? 0).isSome then p else director.drive Director.maxEvents (p.cancel 0)
  match p.result? 0 with
  | some (result, _) => (result, p)
  | none => (.error .cancelled, p)

end Watch

namespace TerminalM

def watch (sessions : Option SessionStore) (input : Value) : TerminalM ModeResult := do
  let t ← get
  let state : Watch := { mode := t.mode, engine := t.engine, sessions, console := t.console }
  let (result, p) := Watch.play { t.toScene with state } input
  set { t with toScene := p.toScene, mode := p.state.mode, console := p.state.console }
  ofResult result

def waitStrategy (settings : ReplaySettings) (wait : String) (speed : Float) : Except Fault WaitStrategy :=
  if wait == "poll" then .ok (.polling ⟨.int settings.pollTimeoutMs, .int settings.pollIntervalMs⟩)
  else
    (FixedDelay.validate ⟨.int settings.navigateMs, .int settings.actionMs, .float speed⟩).map .fixed

def openSessions (settings : SessionSettings) (restores : Bool) : TerminalM (Option SessionStore) := do
  if settings.savesAfterReplay || restores then
    return some (← onFiles (SessionStore.create (Path.ofText settings.directory)))
  else return none

def printReport (r : Report) : TerminalM Unit := do
  print (reportTable r)
  print (reportTally r)

def replayScript (settings : Settings) (store : ScriptStore) (id wait : String) (a : ReplayArguments) :
    TerminalM Unit := do
  launch (launchOptions settings a.isVisible)
  let sessions ← openSessions settings.session a.restoresSession
  let speed := (a.speed.filter (· != 0.0)).getD settings.replay.speed
  let replayer : Replayer :=
    { store
      hasSession := sessions.isSome
      wait := ← ofResult (waitStrategy settings.replay wait speed)
      pausesOnManualStep := a.pausesOnManualStep.getD settings.replay.pausesOnManualStep }
  modify fun t => { t with mode := { recorder := some { store }, replayer := some replayer } }
  ofResult (← onBench fun b => b.start {})
  let result ← watch sessions (.dict
    [("action", .str ModeAction.replay.word), ("recording_id", .str id), ("speed", .float speed),
      ("restore_session", .bool a.restoresSession)])
  match result.data with
  | some (.report report) => do
    printReport report
    if result.success then print (.success "Replay completed")
    else fail (.text (Printed.styled "yellow" ("⚠ " ++ result.error.getD "None")))
  | _ => fail (.failure (result.error.getD "None"))

def recordingMissing (id : String) : Printed := .failure ("Recording not found: " ++ id)

def summaryOf (store : ScriptStore) (id : String) : TerminalM Recording := do
  match ← onFiles (FileM.ask (Recorder.get? store · (.str id))) with
  | some recording => return recording
  | none => fail (recordingMissing id)

def replay (settings : Settings) (directory : Option String) (id : String) (a : ReplayArguments) : TerminalM Unit := do
  let wait := (a.wait.filter (!·.isEmpty)).getD settings.replay.wait
  if wait != "fixed" && wait != "poll" then fail (.failure ("Unknown wait strategy: " ++ wait))
  let store ← openStore settings directory
  let recording ← summaryOf store id
  print (.banner [("Replaying", recording.name.text), ("Target", orDash recording.targetSite), ("Wait", wait)])
  closing (printingErrors (replayScript settings store id wait a))

end TerminalM

end BrowserFlow.Cli
