import BrowserFlow.Page.Request
import BrowserFlow.Value.JsonText

/-!
The log of a rehearsal: what the tab and the browser around it were asked.
-/

namespace BrowserFlow.Rehearsal

inductive Call
  | run (script : PageScript)
  | load (url : String) (timeoutMs : Option Value)
  | screenshot
  | expose (name : String)
  | listen
  | unlisten
  | browser (name : String) (fields : Entries)
  deriving Inhabited

namespace Call

def elementArguments (selector : String) (value : Option String) : String :=
  Json.asciiString selector ++ ", " ++ (match value with
    | some value => Json.asciiString value
    | none => "null")

def scriptWord : PageScript → String × Option String
  | .install => ("install", none)
  | .uninstall => ("uninstall", none)
  | .ready => ("ready", none)
  | .find selector => ("find", some (Json.asciiString selector))
  | .click selector => ("click", some (elementArguments selector none))
  | .fill selector value => ("fill", some (elementArguments selector (some value)))
  | .select selector value => ("select", some (elementArguments selector (some value)))
  | .press key => ("key", some (Json.asciiString key))
  | .scroll x y => ("scroll", some s!"{x}, {y}")
  | .other code => ("other", some code)

def fields (isFull : Bool) : Call → String × Entries
  | .run script =>
    let (name, arguments) := scriptWord script
    if isFull then (name, [("script", .str script.code)])
    else (name, (arguments.map fun text => ("args", Value.str text)).toList)
  | .load url timeout =>
    let options := (timeout.bind Value.present?).map fun ms => ("options", Value.dict [("timeout", ms)])
    ("goto", ("url", .str url) :: options.toList)
  | .screenshot => ("screenshot", [])
  | .expose name => ("expose", [("name", .str name)])
  | .listen => ("on", [("event", .str "load")])
  | .unlisten => ("remove_listener", [("event", .str "load")])
  | .browser name fields => (name, fields)

/-- An entry of the log; in full it carries the code of scripts in place of their arguments. -/
def value (isFull : Bool) (call : Call) : Value :=
  let (name, fields) := call.fields isFull
  .dict (("call", .str name) :: fields)

end Call

end BrowserFlow.Rehearsal
