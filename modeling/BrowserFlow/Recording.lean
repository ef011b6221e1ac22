import BrowserFlow.Action
import BrowserFlow.Value.Access

/-!
Recordings: a named list of actions while it is being captured, and the summary of a stored script, which
has no actions.
-/

namespace BrowserFlow

structure Recording where
  id : String
  name : Value
  description : Option Value := none
  createdAt : Instant
  updatedAt : Instant
  actions : List Action := []
  targetSite : Option String := none
  manualSteps : Nat := 0
  deriving Inhabited

namespace Recording

def append (r : Recording) (a : Action) : Recording := { r with actions := r.actions ++ [a] }

def entries (r : Recording) : Entries :=
  [("id", .str r.id), ("name", r.name), ("description", r.description.getD .null),
    ("created_at", .str r.createdAt.isoText), ("updated_at", .str r.updatedAt.isoText),
    ("actions", .list (r.actions.map fun a => .dict a.entries)),
    ("metadata", .dict [("target_site", .ofText? r.targetSite), ("manual_steps", .int r.manualSteps)])]

def defaultName (now : Instant) : String := "Recording-" ++ now.nameText

def begun (id : String) (now : Instant) (name description : Option Value) : Recording where
  id
  name := (name.bind Value.present?).getD (.str (defaultName now))
  description := description.bind Value.present?
  createdAt := now
  updatedAt := now

end Recording

end BrowserFlow
