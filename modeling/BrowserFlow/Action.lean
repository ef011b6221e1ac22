import BrowserFlow.Locator
import BrowserFlow.Time.Instant
import BrowserFlow.Value.Access

/-!
Recorded actions. An action on an element carries a locator; `Action.validate` refuses one that lacks it.
-/

namespace BrowserFlow

inductive ActionKind
  | click
  | input
  | select
  | scroll
  | keypress
  | manualStep
  | wait
  deriving DecidableEq, Repr, Inhabited

namespace ActionKind

def word : ActionKind → String
  | click => "click"
  | input => "input"
  | select => "select"
  | scroll => "scroll"
  | keypress => "keypress"
  | manualStep => "manual_step"
  | wait => "wait"

def all : List ActionKind := [click, input, select, scroll, keypress, manualStep, wait]

def ofWord? (word : String) : Option ActionKind := all.find? fun kind => kind.word == word

def ofValue (v : Value) : Except Fault ActionKind :=
  match v.str?.bind ofWord? with
  | some kind => .ok kind
  | none => .error (.unknownKind v.display)

def needsLocator : ActionKind → Bool
  | scroll | wait | manualStep => false
  | click | input | select | keypress => true

end ActionKind

/-- What the page reports and a caller passes on may be any value; only when a script is written must it be
    text where the script has text. -/
structure Action where
  kind : ActionKind
  pageUrl : Option String := some ""
  locator : Option Locator := none
  value : Option Value := none
  description : Option Value := none
  screenshot : Option String := none
  time : Instant
  id : String
  deriving Inhabited

namespace Action

def validate (a : Action) : Except Fault Action :=
  if a.kind.needsLocator && a.locator.isNone then .error (.locatorRequired a.kind.word) else .ok a

def entries (a : Action) : Entries :=
  let locator : Entries := match a.locator with
    | some l => [("locator", .dict l.entries)]
    | none => []
  let value : Entries := match a.value with
    | some v => [("value", v)]
    | none => []
  let description : Entries := match a.description.bind Value.present? with
    | some v => [("description", v)]
    | none => []
  [("id", .str a.id), ("kind", .str a.kind.word), ("timestamp", .str a.time.isoText), ("page_url", .ofText? a.pageUrl)] ++
    locator ++ value ++ description

end Action

end BrowserFlow
