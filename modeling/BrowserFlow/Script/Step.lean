import BrowserFlow.Action
import BrowserFlow.Script.Statement
import BrowserFlow.Value.Json
import BrowserFlow.Value.Number

/-!
The statement that a recorded action becomes, with the remark that follows it on its line. Payloads of keys,
scrolls and waits that say nothing usable stand for Enter, the origin and one second.
-/

namespace BrowserFlow.Script

structure Step where
  statement : Statement
  remark : String := ""
  deriving Inhabited

def Step.line (s : Step) : String := s.statement.line ++ s.remark

def quotable : Value → Except Fault String
  | .str s => .ok s
  | v => .error (.noMember v.kind "replace")

def onOneLine : Value → Except Fault String
  | .str s => .ok (String.ofList (Text.singleLine s.toList))
  | v => .error (.noMember v.kind "split")

def quotableOr (substitute : String) (v : Option Value) : Except Fault String :=
  match v with
  | some v => quotable v
  | none => .ok substitute

def enterRemark : String := " // May trigger form submission"

def textRemark (locator : Option Locator) : Except Fault String :=
  match (locator.bind (·.text)).bind Value.present? with
  | some text => do
    let text ← onOneLine text
    return " // \"" ++ text ++ "\""
  | none => .ok ""

/-- The key of a keypress: the `key` of a JSON object, a JSON string, or else the text as it stands. -/
def keyName (value : Option Value) : Except Fault String :=
  match value.bind Value.present? with
  | none => .ok "Enter"
  | some (.str s) =>
    match Json.parse? s.toList with
    | none =>
      let key := String.ofList (Text.trim s.toList)
      .ok (if key.isEmpty then "Enter" else key)
    | some (.dict entries) =>
      .ok (match (Entries.getD entries "key").present? with
        | some key => key.text
        | none => "Enter")
    | some (.str key) => .ok (if key.isEmpty then "Enter" else key)
    | some _ => .ok "Enter"
  | some v => .error (.wrongKind s!"the JSON object must be str, bytes or bytearray, not {v.kind}")

/-- One coordinate; none if it denotes no number at all. -/
def coordinate (v : Value) : Except Fault (Option Int) :=
  match v.present? with
  | none => .ok (some 0)
  | some v =>
    match v.toInt with
    | .ok n => .ok (some n)
    | .error .infiniteInteger => .error .infiniteInteger
    | .error _ => .ok none

/-- The coordinates of a JSON object; the origin unless both are numbers. -/
def scrollTarget (value : Option Value) : Except Fault (Int × Int) :=
  let data : Option Value := match value.bind Value.present? with
    | none => some (.dict [])
    | some (.str s) => Json.parse? s.toList
    | some _ => none
  match data with
  | some (.dict entries) => do
    match ← coordinate (Entries.getD entries "x") with
    | none => return (0, 0)
    | some x =>
      match ← coordinate (Entries.getD entries "y") with
      | none => return (0, 0)
      | some y => return (x, y)
  | _ => .ok (0, 0)

def defaultWait : Int := 1000

def waitTime : Option Value → Except Fault Int
  | none => .ok defaultWait
  | some v => do
    match ← v.toFloat? with
    | none => return defaultWait
    | some x =>
      match Value.truncate x with
      | .ok n => return n
      | .error .undefinedInteger => return defaultWait
      | .error fault => .error fault

def defaultManualStep : String := "Complete this step manually"

def Step.ofAction (a : Action) : Except Fault Step :=
  match a.kind with
  | .click => do
    let selector ← quotable (Locator.preferred? a.locator)
    return { statement := .click selector, remark := ← textRemark a.locator }
  | .input => do
    let selector ← quotable (Locator.preferred? a.locator)
    let value ← quotableOr "" (a.value.bind Value.present?)
    return { statement := .fill selector value, remark := ← textRemark a.locator }
  | .select => do
    let selector ← quotable (Locator.preferred? a.locator)
    let value ← quotableOr "" a.value
    return { statement := .select selector value }
  | .scroll => do
    let (x, y) ← scrollTarget a.value
    return { statement := .scroll (toString x) (toString y) }
  | .keypress => do
    let key ← keyName a.value
    return { statement := .keyPress key, remark := if key == "Enter" then enterRemark else "" }
  | .manualStep => do
    let description ← match a.description.bind Value.present? with
      | some v => onOneLine v
      | none => .ok ""
    return { statement := .manualStep (if description.isEmpty then defaultManualStep else description) }
  | .wait => do
    let ms ← waitTime a.value
    return { statement := .wait (toString ms) }

end BrowserFlow.Script
