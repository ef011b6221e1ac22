import BrowserFlow.Rehearsal.Cue
import BrowserFlow.Rehearsal.Loop
import BrowserFlow.Rehearsal.Session

/-!
A replay with somebody who interferes: at set times, inside set calls of the page and inside set
notifications he pauses, resumes, stops or cancels the replay, or tries to start another one.
-/

namespace BrowserFlow.Rehearsal

inductive Deed
  | pause
  | resume
  | stop
  | cancel
  | start
  deriving DecidableEq, Repr, Inhabited

structure Stage where
  replayer : Replayer
  session : SessionDouble := {}
  options : ReplayOptions
  isObserved : Bool := true
  start : Float := 0.0
  cues : List (Cue Deed) := []
  calls : Nat := 0
  statuses : List (ReplayStatus × Float) := []
  deeds : List (Deed × Except Fault ReplayState) := []
  deriving Inhabited

abbrev ReplayTask := Option Run

abbrev ReplayPlay := Play Stage ReplayTask Report

namespace Stage

def step (s : Stage) (w : World) (task : ReplayTask) (reply : Reply) :
    Stage × World × ReplayTask × Demand Report :=
  match task, reply with
  | some run, _ =>
    let (replayer, run, demand) := run.step s.replayer w reply
    ({ s with replayer }, w, some run, demand)
  | none, .error fault => (s, w, none, .finish (.error fault))
  | none, .ok _ =>
    let (replayer, started) := s.replayer.start w s.options (if s.isObserved then some 0 else none)
    match started with
    | .ok run => ({ s with replayer }, w, some run, .ask .tell)
    | .error fault => ({ s with replayer }, w, none, .finish (.error fault))

def modify (p : ReplayPlay) (change : Stage → Stage) : ReplayPlay := { p with state := change p.state }

def setReplayer (p : ReplayPlay) (replayer : Replayer) : ReplayPlay := modify p ({ · with replayer })

def noteStatus (p : ReplayPlay) : ReplayPlay :=
  modify p fun s => { s with statuses := s.statuses ++ [(s.replayer.status, p.world.clock)] }

def noteDeed (p : ReplayPlay) (deed : Deed) (fault : Option Fault) : ReplayPlay :=
  modify p fun s =>
    let result := match fault with
      | some fault => .error fault
      | none => .ok s.replayer.status.state
    { s with deeds := s.deeds ++ [(deed, result)] }

mutual

/-- Does the deeds that are due, at most so many of them; a deed may lead to others before it is done. -/
def fire (fuel : Nat) (p : ReplayPlay) (isDue : Moment → Bool) : ReplayPlay :=
  match fuel with
  | 0 => p
  | fuel + 1 =>
    match Cue.take? isDue p.state.cues with
    | none => p
    | some (deed, cues) => fire fuel (perform fuel (modify p ({ · with cues })) deed) isDue

def perform (fuel : Nat) (p : ReplayPlay) (deed : Deed) : ReplayPlay :=
  match deed with
  | .pause =>
    match p.state.replayer.pause with
    | .ok replayer => noteDeed (tell fuel (setReplayer p replayer)) deed none
    | .error fault => noteDeed p deed (some fault)
  | .resume =>
    match p.state.replayer.resume with
    | .ok replayer =>
      let p := tell fuel (setReplayer p replayer)
      noteDeed (setReplayer p p.state.replayer.openGate) deed none
    | .error fault => noteDeed p deed (some fault)
  | .stop => noteDeed (setReplayer p p.state.replayer.stop) deed none
  | .cancel => noteDeed (p.cancel 0) deed none
  | .start => noteDeed (p.spawn none) deed none

def tell (fuel : Nat) (p : ReplayPlay) : ReplayPlay :=
  if p.state.replayer.observer.isNone then p
  else
    let p := noteStatus p
    fire fuel p (Moment.isStatus p.state.statuses.length)

end

/-- The replay is the first task. Nobody interferes with a replay that is over. -/
def cue? (p : ReplayPlay) : Option Float :=
  if (p.result? 0).isSome then none else Cue.earliest? p.state.start p.state.cues

def interfere (p : ReplayPlay) (time : Float) : ReplayPlay :=
  match Cue.take? (Cue.isAt p.state.start time) p.state.cues with
  | none => p
  | some (deed, cues) => perform cues.length (modify p ({ · with cues })) deed

def director : Director Stage ReplayTask Report where
  step := step
  gate s := s.replayer.gate
  told p := tell p.state.cues.length p
  called p :=
    let p := modify p fun s => { s with calls := s.calls + 1 }
    fire p.state.cues.length p (Moment.isCall p.state.calls)
  restore p domain :=
    let (session, reply) := p.state.session.restore domain
    (modify p ({ · with session }), reply)
  save p domain :=
    let (session, reply) := p.state.session.save domain
    (modify p ({ · with session }), reply)
  cue? := cue?
  interfere := interfere

end Stage

structure Performance where
  result : Except Fault Report
  /-- was it cancelled because nothing would ever have happened again? -/
  isStuck : Bool
  elapsed : Float
  secondStarts : List (Except Fault Report)

namespace Stage

/-- Plays a replay to its end. If it waits for something that will not happen, it is cancelled. -/
def play (p : ReplayPlay) : Option Performance × ReplayPlay :=
  let p := director.drive Director.maxEvents (p.spawn none)
  let isStuck := (p.result? 0).isNone
  let p := if isStuck then director.drive Director.maxEvents (p.cancel 0) else p
  let others := ((List.range p.actors.length).drop 1).filterMap fun id => (p.result? id).map (·.1)
  ((p.result? 0).map fun (result, clock) => ⟨result, isStuck, clock - p.state.start, others⟩, p)

end Stage

end BrowserFlow.Rehearsal
