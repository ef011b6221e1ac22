import BrowserFlow.Mode.Mode
import BrowserFlow.Rehearsal.Capture
import BrowserFlow.Rehearsal.Cue
import BrowserFlow.Rehearsal.Loop
import BrowserFlow.Rehearsal.Session

/-!
Requests to the record and replay mode: one of them, and others that come in while it is worked on.
-/

namespace BrowserFlow.Rehearsal

structure Operation where
  mode : Mode
  session : SessionDouble := {}
  start : Float := 0.0
  cues : List (Cue Value) := []
  calls : Nat := 0
  statuses : List (ReplayStatus × Float) := []
  inputs : List Value := []
  deriving Inhabited

abbrev ModePlay := Play Operation Mode.Task ModeResult

namespace Operation

def modify (p : ModePlay) (change : Operation → Operation) : ModePlay := { p with state := change p.state }

def step (o : Operation) (w : World) (task : Mode.Task) (reply : Reply) :
    Operation × World × Mode.Task × Demand ModeResult :=
  let (mode, w, task, demand) := o.mode.step w task reply
  ({ o with mode }, w, task, demand)

def receive (p : ModePlay) (input : Value) : ModePlay :=
  (modify p fun o => { o with inputs := o.inputs ++ [input] }).spawn (.received input)

def fire : Nat → ModePlay → (Moment → Bool) → ModePlay
  | 0, p, _ => p
  | fuel + 1, p, isDue =>
    match Cue.take? isDue p.state.cues with
    | none => p
    | some (input, cues) => fire fuel (receive (modify p ({ · with cues })) input) isDue

def tell (p : ModePlay) : ModePlay :=
  if p.state.mode.replay.observer.isNone then p
  else modify p fun o => { o with statuses := o.statuses ++ [(o.mode.replay.status, p.world.clock)] }

def cue? (p : ModePlay) : Option Float :=
  if (p.result? 0).isSome then none else Cue.earliest? p.state.start p.state.cues

def interfere (p : ModePlay) (time : Float) : ModePlay :=
  match Cue.take? (Cue.isAt p.state.start time) p.state.cues with
  | none => p
  | some (input, cues) => receive (modify p ({ · with cues })) input

def director : Director Operation Mode.Task ModeResult where
  step := step
  gate o := o.mode.replay.gate
  told := tell
  called p :=
    let p := modify p fun o => { o with calls := o.calls + 1 }
    fire p.state.cues.length p (Moment.isCall p.state.calls)
  restore p domain :=
    let (session, reply) := p.state.session.restore domain
    (modify p ({ · with session }), reply)
  save p domain :=
    let (session, reply) := p.state.session.save domain
    (modify p ({ · with session }), reply)
  cue? := cue?
  interfere := interfere

/-- Works on a request until it and all that came in meanwhile are done. Requests that wait for something that
    will not happen are cancelled. -/
def play (p : ModePlay) (input : Value) : ModePlay :=
  let p := director.drive Director.maxEvents (p.spawn (.received input))
  if (p.result? 0).isSome then p else director.drive Director.maxEvents (p.cancel 0)

def result (p : ModePlay) : Except Fault ModeResult :=
  match p.result? 0 with
  | some (result, _) => result
  | none => .error .cancelled

def others (p : ModePlay) : List (Value × Except Fault ModeResult) :=
  p.state.inputs.zipIdx.filterMap fun (input, i) => (p.result? (i + 1)).map fun (result, _) => (input, result)

end Operation

structure Bench extends Scene where
  mode : Mode := {}
  session : SessionDouble := {}
  deriving Inhabited

namespace Bench

def start (b : Bench) (o : ModeOptions) : Except Fault Unit × Bench :=
  let (started, scene) := b.toScene.onFiles (b.mode.start o (some 0))
  match started with
  | .ok mode => (.ok (), { b with toScene := scene, mode })
  | .error fault => (.error fault, { b with toScene := scene })

def onRecorder (b : Bench) (default : α) (work : Capture → α × Capture) : α × Bench :=
  match b.mode.recorder with
  | none => (default, b)
  | some recorder =>
    let (result, c) := work { b.toScene with recorder }
    (result, { b with toScene := c.toScene, mode := { b.mode with recorder := some c.recorder } })

def handleEvent (b : Bench) (payload : String) : Except Fault Recorder.Outcome × Bench :=
  b.onRecorder (.ok .dropped) (·.handleEvent payload)

def load (b : Bench) : Bench := (b.onRecorder () fun c => ((), c.load)).2

def stop (b : Bench) : Except Fault Unit × Bench :=
  let (finished, b) : Except Fault Recorder.Outcome × Bench := match b.mode.stopRecording? b.world with
    | some t => b.onRecorder (.ok .done) (·.run t)
    | none => (.ok .done, b)
  match b.mode.stop (finished.map fun _ => ()) with
  | .ok mode => (.ok (), { b with mode })
  | .error fault => (.error fault, b)

def execute (b : Bench) (input : Value) (cues : List (Cue Value)) : ModePlay × Bench :=
  let operation : Operation := { mode := b.mode, session := b.session, start := b.world.clock, cues }
  let play := Operation.play { b.toScene with state := operation } input
  (play, { b with toScene := play.toScene, mode := play.state.mode, session := play.state.session })

end Bench

end BrowserFlow.Rehearsal
