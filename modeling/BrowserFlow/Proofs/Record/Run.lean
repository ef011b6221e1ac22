import BrowserFlow.Proofs.Store
import BrowserFlow.Record.Recorder

/-!
Sequential runs of a recorder: every operation runs to its end, with any replies of the page and any cancellation,
before the next one begins. While an operation waits only time passes; between two operations the files may change
as well, and the store may begin or cease to refuse writing.
-/

namespace BrowserFlow

/-- A world that has moved on: ids have been used, but none twice. -/
structure World.Later (w after : World) : Prop where
  ids : after.ids = w.ids
  idsUsed : w.idsUsed ≤ after.idsUsed

/-- A world in which nobody has touched the files. -/
structure World.Passes (w after : World) : Prop extends World.Later w after where
  files : after.files = w.files

namespace Recorder

inductive Call
  | start (name description : Option Value)
  | pause
  | resume
  | record (kind : Value) (locator : Option Locator) (value description : Option Value)
  | event (payload : String)
  | manualStep (description : Value)
  | stop
  | load

def Call.isCapture : Call → Bool
  | .record .. | .event _ => true
  | _ => false

/-- A transition that is at its end at once. -/
def settle (r : Recorder) (w : World) : Except Fault Recorder → Transition
  | .ok r => (r, w, .finish (.ok .done))
  | .error fault => (r, w, .finish (.error fault))

def Call.begin (r : Recorder) (w : World) : Call → Transition
  | .start name description => r.start w name description
  | .pause => r.settle w r.pause
  | .resume => r.settle w r.resume
  | .record kind locator value description => r.recordAction w kind locator value description
  | .event payload => r.handleEvent w payload
  | .manualStep description => r.addManualStep w description
  | .stop => r.stop w
  | .load => r.afterLoad w

/-- An operation ends, after the page has given these replies. -/
inductive Ends : Transition → List (PageRequest × Reply) → Except Fault Outcome → Recorder → World → Prop
  | finish (r : Recorder) (w : World) (result : Except Fault Outcome) : Ends (r, w, .finish result) [] result r w
  | ask {r r' : Recorder} {w w' after : World} {request : PageRequest} {pending : Pending} {reply : Reply}
      {replies : List (PageRequest × Reply)} {result : Except Fault Outcome} (passes : w.Passes w')
      (next : Ends (r.step w' pending reply) replies result r' after) :
      Ends (r, w, .ask request pending) ((request, reply) :: replies) result r' after

/-- An operation of a run: the state in which it was called and what it has given. -/
structure Entry where
  call : Call
  state : RecorderState
  result : Except Fault Outcome

/-- An observer may fail, but it does not cancel. -/
def Observer.IsOrdinary (observer : Observer) : Prop := ∀ action, observer action ≠ .error .cancelled

def fresh (store : ScriptStore) (takesScreenshots : Bool) : Recorder := { store, takesScreenshots }

/-- The runs of a new recorder, with the operations so far. -/
inductive Reaches (store : ScriptStore) (takesScreenshots : Bool) (w : World) : List Entry → Recorder → World → Prop
  | fresh : Reaches store takesScreenshots w [] (fresh store takesScreenshots) w
  | elapse {history : List Entry} {r : Recorder} {v after : World} (refusal : Option String)
      (run : Reaches store takesScreenshots w history r v) (later : v.Later after) :
      Reaches store takesScreenshots w history { r with store := { r.store with refusal } } after
  | call {history : List Entry} {r r' : Recorder} {v after : World} {replies : List (PageRequest × Reply)}
      {result : Except Fault Outcome} (call : Call) (observers : List Observer)
      (run : Reaches store takesScreenshots w history r v) (ordinary : ∀ observer ∈ observers, observer.IsOrdinary)
      (ends : Ends (call.begin r v) replies result r' after) :
      Reaches store takesScreenshots w (history ++ [⟨call, r.state, hear observers result⟩]) r' after

/-- The actions that operations have given as appended since the last start. -/
def accepted (history : List Entry) : List Action :=
  history.foldl (fun actions entry =>
    match entry.result with
    | .ok (.started _) => []
    | .ok (.appended action) => actions ++ [action]
    | _ => actions) []

end Recorder

end BrowserFlow
