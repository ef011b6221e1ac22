import BrowserFlow.Error

/-!
Launching and closing a browser. A launch is a fixed sequence of requests to the engine behind the browser; if
one of them fails, what has been opened so far is closed again.
-/

namespace BrowserFlow

structure LaunchOptions where
  headless : Bool := true
  engine : String := "chromium"
  channel : Option String := none
  viewport : Option Entries := none
  /-- milliseconds that operations of the page may take -/
  timeoutMs : Option Int := none
  deriving Inhabited

inductive EngineRequest
  | start
  | launch (engine : String) (options : Entries)
  | openContext (options : Entries)
  | setTimeout (ms : Int)
  | openPage
  | closeContext
  | closeBrowser
  | stop
  deriving Inhabited

structure Browser where
  hasEngine : Bool := false
  hasBrowser : Bool := false
  hasContext : Bool := false
  deriving DecidableEq, Repr, Inhabited

namespace Browser

def engines : List String := ["chromium", "firefox", "webkit"]

def engineOf (name : String) : String := if engines.contains name then name else "chromium"

def optional (key : String) (v : Option Value) : Entries :=
  match v.bind Value.present? with
  | some v => [(key, v)]
  | none => []

/-- The navigation timeout of a page; zero means the engine's own. -/
def timeout? (o : LaunchOptions) : Option Int := o.timeoutMs.filter (· != 0)

def launchRequests (o : LaunchOptions) : List EngineRequest :=
  [.start, .launch (engineOf o.engine) (("headless", .bool o.headless) :: optional "channel" (o.channel.map .str)),
    .openContext (optional "viewport" (o.viewport.map .dict))] ++
    ((timeout? o).toList.map .setTimeout) ++ [.openPage]

/-- What is open is closed from the inside to the outside. -/
def closeRequests (b : Browser) : List EngineRequest :=
  (if b.hasContext then [.closeContext] else []) ++ (if b.hasBrowser then [.closeBrowser] else []) ++
    (if b.hasEngine then [.stop] else [])

def granted (b : Browser) : EngineRequest → Browser
  | .start => { b with hasEngine := true }
  | .launch _ _ => { b with hasBrowser := true }
  | .openContext _ => { b with hasContext := true }
  | .closeContext => { b with hasContext := false }
  | .closeBrowser => { b with hasBrowser := false }
  | .stop => { b with hasEngine := false }
  | .setTimeout _ | .openPage => b

variable {σ : Type}

def send (ask : EngineRequest → σ → Except Fault Unit × σ) (b : Browser) (s : σ) :
    List EngineRequest → Except Fault Unit × Browser × σ
  | [] => (.ok (), b, s)
  | request :: rest =>
    match ask request s with
    | (.ok (), s) => send ask (b.granted request) s rest
    | (.error fault, s) => (.error fault, b, s)

def close (ask : EngineRequest → σ → Except Fault Unit × σ) (b : Browser) (s : σ) : Except Fault Unit × Browser × σ :=
  send ask b s b.closeRequests

def launch (ask : EngineRequest → σ → Except Fault Unit × σ) (b : Browser) (s : σ) (o : LaunchOptions) :
    Except Fault Unit × Browser × σ :=
  match send ask b s (launchRequests o) with
  | (.ok (), b, s) => (.ok (), b, s)
  | (.error fault, b, s) =>
    match close ask b s with
    | (.ok (), b, s) => (.error (.flow ⟨.browserLaunch, "Failed to launch browser: " ++ fault.text, [], []⟩), b, s)
    | (.error fault, b, s) => (.error fault, b, s)

end Browser

end BrowserFlow
