import BrowserFlow.Rehearsal.Scene
import BrowserFlow.Replay.Run

/-!
Several tasks on one clock that only moves when nothing can run. A task runs until it has to wait; those that
may go on do so in the order in which they became able to. The shared state of the tasks is of type `σ`, what
a task remembers of type `τ`, and what it comes to of type `ρ`.
-/

namespace BrowserFlow.Rehearsal

inductive Activity (ρ : Type)
  | running
  | ready (reply : Reply)
  | asleep (wake : Float) (order : Nat)
  /-- waits for the tab, which will answer then -/
  | inPage (request : PageRequest) (wake : Float) (order : Nat)
  | atGate (openings : Nat)
  | over (result : Except Fault ρ) (clock : Float)

structure Actor (τ ρ : Type) where
  task : τ
  activity : Activity ρ
  cancelled : Bool := false

structure Play (σ τ ρ : Type) extends Scene where
  state : σ
  actors : List (Actor τ ρ) := []
  queue : List Nat := []
  order : Nat := 0

namespace Play

variable {σ τ ρ : Type}

def setClock (p : Play σ τ ρ) (clock : Float) : Play σ τ ρ := { p with toScene := p.toScene.setClock clock }

def activity? (p : Play σ τ ρ) (id : Nat) : Option (Activity ρ) := (p.actors[id]?).map (·.activity)

def modifyActor (p : Play σ τ ρ) (id : Nat) (change : Actor τ ρ → Actor τ ρ) : Play σ τ ρ :=
  { p with actors := p.actors.modify id change }

def setActivity (p : Play σ τ ρ) (id : Nat) (activity : Activity ρ) : Play σ τ ρ :=
  p.modifyActor id fun a => { a with activity }

def enqueue (p : Play σ τ ρ) (id : Nat) (reply : Reply) : Play σ τ ρ :=
  { p.setActivity id (.ready reply) with queue := p.queue ++ [id] }

def spawn (p : Play σ τ ρ) (task : τ) : Play σ τ ρ :=
  { p with actors := p.actors ++ [⟨task, .ready (.ok .nothing), false⟩], queue := p.queue ++ [p.actors.length] }

def suspend (p : Play σ τ ρ) (id : Nat) (activity : Activity ρ) : Play σ τ ρ :=
  match p.actors[id]? with
  | some a =>
    if a.cancelled then (p.modifyActor id fun a => { a with cancelled := false }).enqueue id (.error .cancelled)
    else match activity with
      | .ready reply => p.enqueue id reply
      | activity => { p.setActivity id activity with order := p.order + 1 }
  | none => p

/-- Cancels a task: at once if it waits, otherwise when it next has to wait. -/
def cancel (p : Play σ τ ρ) (id : Nat) : Play σ τ ρ :=
  match p.activity? id with
  | some .running => p.modifyActor id fun a => { a with cancelled := true }
  | some (.ready _) => p.setActivity id (.ready (.error .cancelled))
  | some (.over ..) | none => p
  | some _ => p.enqueue id (.error .cancelled)

/-- A task that ends normally after it was cancelled counts as cancelled all the same. -/
def conclude (p : Play σ τ ρ) (id : Nat) (result : Except Fault ρ) : Play σ τ ρ :=
  p.modifyActor id fun a =>
    match result with
    | .ok _ => { a with activity := .over (if a.cancelled then .error .cancelled else result) p.world.clock }
    | .error _ => { a with activity := .over result p.world.clock }

def result? (p : Play σ τ ρ) (id : Nat) : Option (Except Fault ρ × Float) :=
  match p.activity? id with
  | some (.over result clock) => some (result, clock)
  | _ => none

def wake? : Activity ρ → Option (Float × Nat)
  | .asleep wake order | .inPage _ wake order => some (wake, order)
  | _ => none

def sleepers (p : Play σ τ ρ) : List (Float × Nat × Nat) :=
  let waiting := p.actors.zipIdx.filterMap fun (a, id) => (wake? a.activity).map fun (t, order) => (t, order, id)
  waiting.mergeSort fun a b => a.1 < b.1 || (a.1 == b.1 && a.2.1 ≤ b.2.1)

def wakeUp (p : Play σ τ ρ) (id : Nat) : Play σ τ ρ :=
  match p.activity? id with
  | some (.asleep _ _) => p.enqueue id (.ok .nothing)
  | some (.inPage request _ _) =>
    let (reply, page) := p.page.reply request false
    { p with page }.enqueue id reply
  | _ => p

end Play

structure Director (σ τ ρ : Type) where
  step : σ → World → τ → Reply → σ × World × τ × Demand ρ
  gate : σ → Gate
  told : Play σ τ ρ → Play σ τ ρ
  called : Play σ τ ρ → Play σ τ ρ
  restore : Play σ τ ρ → String → Play σ τ ρ × Reply
  save : Play σ τ ρ → String → Play σ τ ρ × Reply
  cue? : Play σ τ ρ → Option Float
  interfere : Play σ τ ρ → Float → Play σ τ ρ

namespace Director

variable {σ τ ρ : Type}

/-- More events than any play has that comes to an end. -/
def maxEvents : Nat := 10000000

def isCall : PageRequest → Bool
  | .run _ | .load _ => true
  | _ => false

def run (d : Director σ τ ρ) : Nat → Play σ τ ρ → Nat → Reply → Play σ τ ρ
  | 0, p, _, _ => p
  | fuel + 1, p, id, reply =>
    match p.actors[id]? with
    | none => p
    | some actor =>
      let (state, world, task, demand) := d.step p.state p.world actor.task reply
      let p := { p with state, world }.modifyActor id fun a => { a with task, activity := .running }
      match demand with
      | .finish result => p.conclude id result
      | .ask .tell => run d fuel (d.told p) id (.ok .nothing)
      | .ask (.restoreSession domain) =>
        let (p, reply) := d.restore p domain
        run d fuel p id reply
      | .ask (.saveSession domain) =>
        let (p, reply) := d.save p domain
        run d fuel p id reply
      | .ask (.sleep seconds) =>
        if 0.0 < seconds then p.suspend id (.asleep (p.world.clock + seconds) p.order)
        else p.suspend id (.ready (.ok .nothing))
      | .ask (.gate openings) => p.suspend id (.atGate openings)
      | .ask (.page request) =>
        match p.page.forward? request with
        | none => run d fuel p id (.ok .nothing)
        | some request =>
          let p := { p with page := p.page.note request }
          let p := if isCall request then d.called p else p
          match p.page.tab.delay? request with
          | some seconds => p.suspend id (.inPage request (p.world.clock + seconds) p.order)
          | none =>
            let (reply, page) := p.page.reply request false
            run d fuel { p with page } id reply

def release (d : Director σ τ ρ) (p : Play σ τ ρ) : Play σ τ ρ :=
  (List.range p.actors.length).foldl (fun p id =>
    match p.activity? id with
    | some (.atGate openings) => if (d.gate p.state).lets openings then p.enqueue id (.ok .nothing) else p
    | _ => p) p

/-- Moves the clock to the next event if no task can go on; none if nothing will ever happen. -/
def advance? (d : Director σ τ ρ) (p : Play σ τ ρ) : Option (Play σ τ ρ) :=
  match d.cue? p, p.sleepers with
  | none, [] => none
  | none, (wake, _, _) :: _ => some (wakeAll p wake)
  | some time, [] => some (interrupt p time)
  | some time, (wake, _, _) :: _ => some (if time <= wake then interrupt p time else wakeAll p wake)
where
  interrupt (p : Play σ τ ρ) (time : Float) : Play σ τ ρ :=
    d.interfere (if p.world.clock < time then p.setClock time else p) time
  wakeAll (p : Play σ τ ρ) (wake : Float) : Play σ τ ρ :=
    let due := p.sleepers.filter fun s => s.1 <= wake
    due.foldl (fun p s => p.wakeUp s.2.2) (p.setClock wake)

/-- Plays until every task is over or waits for something that will not happen by itself. -/
def drive (d : Director σ τ ρ) : Nat → Play σ τ ρ → Play σ τ ρ
  | 0, p => p
  | fuel + 1, p =>
    let p := d.release p
    match p.queue with
    | id :: rest =>
      match p.activity? id with
      | some (.ready reply) => drive d fuel (d.run fuel { p with queue := rest } id reply)
      | _ => drive d fuel { p with queue := rest }
    | [] =>
      match d.advance? p with
      | some p => drive d fuel p
      | none => p

end Director

end BrowserFlow.Rehearsal
