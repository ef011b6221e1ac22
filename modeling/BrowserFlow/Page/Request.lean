import BrowserFlow.Error
import BrowserFlow.Page.Code

/-!
What recording and replaying ask of a page, and what comes back.
-/

namespace BrowserFlow

inductive PageScript
  | install
  | uninstall
  | ready
  | find (selector : String)
  | click (selector : String)
  | fill (selector value : String)
  | select (selector value : String)
  | press (key : String)
  | scroll (x y : Int)
  | other (code : String)
  deriving DecidableEq, Repr, Inhabited

namespace PageScript

def code : PageScript → String
  | install => PageCode.install
  | uninstall => PageCode.uninstall
  | ready => PageCode.ready
  | find selector => PageCode.isPresent selector
  | click selector => PageCode.onElement PageCode.clickEffect selector none
  | fill selector value => PageCode.onElement PageCode.fillEffect selector (some value)
  | select selector value => PageCode.onElement PageCode.setValueEffect selector (some value)
  | press key => PageCode.press key
  | scroll x y => s!"window.scrollTo({x}, {y})"
  | other code => code

end PageScript

inductive PageRequest
  | url
  | run (script : PageScript)
  | load (url : String)
  | screenshot
  /-- makes the program's function of this name reachable from the page -/
  | expose (name : String)
  /-- asks for the named listener to be called after every load of a document -/
  | addLoadListener (name : String)
  | removeLoadListener (name : String)
  deriving DecidableEq, Repr, Inhabited

inductive Answer
  | value (v : Value)
  | image (bytes : List UInt8)
  deriving Inhabited

namespace Answer

def nothing : Answer := .value .null

def content : Answer → Value
  | value v => v
  | image _ => .null

def bytes : Answer → List UInt8
  | value _ => []
  | image bytes => bytes

end Answer

/-- An answer or why there is none; `Fault.cancelled` if the caller was cancelled while it waited. -/
abbrev Reply := Except Fault Answer

inductive Request
  | page (request : PageRequest)
  /-- so many seconds -/
  | sleep (seconds : Float)
  /-- the gate to be opened once more than so many times -/
  | gate (openings : Nat)
  /-- the observer to take note of the status -/
  | tell
  | restoreSession (domain : String)
  | saveSession (domain : String)

end BrowserFlow
