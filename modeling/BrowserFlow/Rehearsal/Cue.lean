/-!
Cues: what is to be done when a rehearsal has come to a certain moment.
-/

namespace BrowserFlow.Rehearsal

/-- When a deed is due. Calls and notifications are counted from one. -/
inductive Moment
  | after (seconds : Float)
  | call (number : Nat)
  | status (number : Nat)
  deriving Inhabited

structure Cue (δ : Type) where
  moment : Moment
  deed : δ
  deriving Inhabited

namespace Moment

def isCall (n : Nat) : Moment → Bool
  | .call m => m == n
  | _ => false

def isStatus (n : Nat) : Moment → Bool
  | .status m => m == n
  | _ => false

def time? (start : Float) : Moment → Option Float
  | .after seconds => some (start + seconds)
  | _ => none

end Moment

namespace Cue

variable {δ : Type}

def take? (isDue : Moment → Bool) : List (Cue δ) → Option (δ × List (Cue δ))
  | [] => none
  | cue :: rest =>
    if isDue cue.moment then some (cue.deed, rest)
    else (take? isDue rest).map fun (deed, others) => (deed, cue :: others)

def earliest? (start : Float) (cues : List (Cue δ)) : Option Float :=
  (cues.filterMap fun cue => cue.moment.time? start).foldl (fun first t =>
    match first with
    | some u => if t < u then some t else some u
    | none => some t) none

def isAt (start time : Float) (moment : Moment) : Bool :=
  match moment.time? start with
  | some t => t == time
  | none => false

end Cue

end BrowserFlow.Rehearsal
