import BrowserFlow.Page.Request
import BrowserFlow.Script.Statement
import BrowserFlow.Value.Number

/-!
How a replay waits around its commands: a fixed time after each of them, by polling the page, or in a way of the
caller's own. A poll asks at least once, ends with the first answer that satisfies it, and gives up with the first
answer that comes at its deadline or later. All of this is the same on every kind of clock.
-/

namespace BrowserFlow

class Clock (τ : Type) where
  add : τ → τ → τ
  /-- has the deadline, the first argument, been reached? -/
  reached : τ → τ → Bool
  isPositive : τ → Bool
  ofMillis : Value → Except Fault τ
  divide : τ → Value → Except Fault τ

instance : Clock Float where
  add := (· + ·)
  reached deadline now := deadline <= now
  isPositive length := 0.0 < length
  ofMillis := Value.thousandth
  divide := Value.divide

/-- Milliseconds after a navigation and after any other command, both divided by the speed. -/
structure FixedDelay where
  navigateMs : Value := .int 2000
  actionMs : Value := .int 500
  speed : Value := .float 1.0
  deriving Inhabited

/-- Milliseconds that a poll may take and that lie between its questions. -/
structure Polling where
  timeoutMs : Value := .int 10000
  intervalMs : Value := .int 100
  deriving Inhabited

/-- What a strategy of the caller's own does at one command: it is done, fails with a text, or asks the page for
    something or sleeps so many milliseconds and goes on from there. -/
inductive WaitPlan
  | done
  | fail (text : String)
  | ask (request : PageRequest) (next : Reply → WaitPlan)
  | sleep (ms : Value) (next : WaitPlan)
  deriving Inhabited

/-- A strategy of the caller's own, which knows each command and its line. One that remembers earlier commands is in any
    single replay one of these, as a line is reached once. -/
structure OwnWait where
  speed : Value := .float 1.0
  before : Script.Statement → Nat → WaitPlan := fun _ _ => .done
  after : Script.Statement → Nat → WaitPlan

inductive WaitStrategy
  | fixed (delay : FixedDelay)
  | polling (poll : Polling)
  | own (wait : OwnWait)
  deriving Inhabited

inductive Waiting (τ : Type)
  | asking (script : PageScript) (deadline : τ)
  | pausing (script : PageScript) (deadline : τ)
  | sleeping
  | planned (next : Reply → WaitPlan)
  deriving Inhabited

inductive WaitRequest (τ : Type)
  | run (script : PageScript)
  | call (request : PageRequest)
  | sleep (length : τ)

/-- What a wait does next: nothing if it is over. -/
abbrev WaitStep (τ : Type) := Option (Waiting τ × WaitRequest τ)

namespace FixedDelay

def validate (d : FixedDelay) : Except Fault FixedDelay := do
  if ← Value.isAtMostZero d.speed then .error .speedNotPositive else return d

/-- The length of the sleep after a command; none after waits and steps by hand. -/
def delay? {τ : Type} [Clock τ] (d : FixedDelay) (s : Script.Statement) : Except Fault (Option τ) :=
  let length (ms : Value) : Except Fault (Option τ) := do
    let full : τ ← Clock.ofMillis ms
    return some (← Clock.divide full d.speed)
  match s with
  | .wait _ | .manualStep _ => .ok none
  | .navigate _ => length d.navigateMs
  | _ => length d.actionMs

def after {τ : Type} [Clock τ] (d : FixedDelay) (s : Script.Statement) : Except Fault (WaitStep τ) := do
  return (← d.delay? s).bind fun (length : τ) =>
    if Clock.isPositive length then some (.sleeping, .sleep length) else none

end FixedDelay

namespace Polling

/-- Does an answer end a poll? A search must find an element, and the document must have been loaded. -/
def isSatisfied (script : PageScript) (answer : Value) : Bool :=
  match script, answer with
  | .find _, .bool b => b
  | .ready, .str s => s == "complete"
  | _, _ => false

def questionBefore? : Script.Statement → Option PageScript
  | .click selector | .fill selector _ | .select selector _ => some (.find selector)
  | _ => none

def questionAfter? : Script.Statement → Option PageScript
  | .navigate _ => some .ready
  | _ => none

variable {τ : Type} [Clock τ]

def begin (p : Polling) (now : τ) (question : Option PageScript) : Except Fault (WaitStep τ) :=
  match question with
  | some script => do
    let length ← Clock.ofMillis p.timeoutMs
    return some (.asking script (Clock.add now length), .run script)
  | none => .ok none

/-- The step after an answer. A fault only means that the page is not ready yet. -/
def answered (p : Polling) (now : τ) (script : PageScript) (deadline : τ) (reply : Reply) : Except Fault (WaitStep τ) :=
  let satisfied := match reply with
    | .ok answer => isSatisfied script answer.content
    | .error _ => false
  if satisfied || Clock.reached deadline now then .ok none
  else do
    let length ← Clock.ofMillis p.intervalMs
    return some (.pausing script deadline, .sleep length)

end Polling

def WaitPlan.step {τ : Type} [Clock τ] : WaitPlan → Except Fault (WaitStep τ)
  | done => .ok none
  | fail text => .error (.raised text)
  | ask request next => .ok (some (.planned next, .call request))
  | sleep ms next => do
    let length ← Clock.ofMillis ms
    return some (.planned fun _ => next, .sleep length)

namespace WaitStrategy

/-- The speed that waits inside scripts have unless the replay sets its own. -/
def speed : WaitStrategy → Value
  | fixed d => d.speed
  | polling _ => .float 1.0
  | own o => o.speed

/-- The strategy at the speed of one replay; only a fixed delay is changed by it. -/
def withSpeed (w : WaitStrategy) (speed : Option Value) : Except Fault WaitStrategy :=
  match w, speed with
  | fixed d, some v => (FixedDelay.validate { d with speed := v }).map fixed
  | w, _ => .ok w

variable {τ : Type} [Clock τ]

def before (w : WaitStrategy) (now : τ) (s : Script.Statement) (line : Nat := 0) : Except Fault (WaitStep τ) :=
  match w with
  | fixed _ => .ok none
  | polling p => p.begin now (Polling.questionBefore? s)
  | own o => (o.before s line).step

def after (w : WaitStrategy) (now : τ) (s : Script.Statement) (line : Nat := 0) : Except Fault (WaitStep τ) :=
  match w with
  | fixed d => d.after s
  | polling p => p.begin now (Polling.questionAfter? s)
  | own o => (o.after s line).step

def next (w : WaitStrategy) (now : τ) (waiting : Waiting τ) (reply : Reply) : Except Fault (WaitStep τ) :=
  match w, waiting with
  | polling p, .asking script deadline => p.answered now script deadline reply
  | polling _, .pausing script deadline => .ok (some (.asking script deadline, .run script))
  | own _, .planned next => (next reply).step
  | _, _ => .ok none

end WaitStrategy

end BrowserFlow
