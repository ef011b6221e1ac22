import BrowserFlow.Action
import BrowserFlow.Value.Json

/-!
Events that the page reports while a flow is recorded. An event is a JSON object with the kind of an action,
and a usable selector if the kind needs one; anything else is dropped.
-/

namespace BrowserFlow

structure CaptureEvent where
  kind : ActionKind
  locator : Option Locator
  value : Option Value
  deriving Inhabited

namespace CaptureEvent

def locator? (selector : Value) : Option Locator :=
  match selector with
  | .dict entries =>
    let l := Locator.ofEntries entries
    if l.isEmpty then none else some l
  | _ => none

def ofEntries? (entries : Entries) : Option CaptureEvent := do
  let word ← (Entries.getD entries "kind").str?
  let kind ← ActionKind.ofWord? word
  let value : Option Value := match Entries.getD entries "value" with
    | .null => none
    | v => some (.str v.text)
  if kind.needsLocator then
    let locator ← locator? (Entries.getD entries "selector")
    some ⟨kind, some locator, value⟩
  else some ⟨kind, none, value⟩

def ofPayload? (payload : String) : Option CaptureEvent :=
  match Json.parse? payload.toList with
  | some (.dict entries) => ofEntries? entries
  | _ => none

end CaptureEvent

end BrowserFlow
