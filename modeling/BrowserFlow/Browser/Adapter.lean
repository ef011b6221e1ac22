import BrowserFlow.Page.Request
import BrowserFlow.Text.Fields

/-!
The adapter between the program and a tab of a real browser: it keeps a function from being exposed twice and
a listener from being added twice, and it words the faults of the tab.
-/

namespace BrowserFlow

structure Adapter where
  /-- milliseconds that a navigation may take; the browser's own limit if there is none -/
  timeoutMs : Option Value := none
  exposed : List String := []
  listeners : List String := []
  deriving Inhabited

namespace Adapter

/-- The request as it reaches the tab; none if there is nothing to do. -/
def forward? (a : Adapter) : PageRequest → Option PageRequest
  | .expose name => if a.exposed.contains name then none else some (.expose name)
  | .addLoadListener name => if a.listeners.contains name then none else some (.addLoadListener name)
  | .removeLoadListener name => if a.listeners.contains name then some (.removeLoadListener name) else none
  | request => some request

def contains (part : List Char) : List Char → Bool
  | [] => part.isEmpty
  | c :: cs => part.isPrefixOf (c :: cs) || contains part cs

def scriptFault (message : String) : Fault := .flow ⟨.scriptExecution, message, [], []⟩

/-- The fault of a request as the program sees it. That a name has been registered before is none. -/
def wordFault (request : PageRequest) (fault : Fault) : Option Fault :=
  match request, fault with
  | _, .cancelled => some .cancelled
  | .run _, fault => some (scriptFault ("Script execution failed: " ++ fault.text))
  | .load url, fault =>
    some (.flow (.navigation ("Failed to navigate to " ++ url ++ ": " ++ fault.text) (.str url)))
  | .screenshot, fault => some (scriptFault ("Page capture failed: " ++ fault.text))
  | .expose name, fault =>
    if contains "already registered".toList fault.text.toList then none
    else some (scriptFault ("Failed to expose " ++ name ++ ": " ++ fault.text))
  | _, fault => some fault

def granted (a : Adapter) : PageRequest → Adapter
  | .expose name => { a with exposed := name :: a.exposed }
  | .addLoadListener name => { a with listeners := name :: a.listeners }
  | .removeLoadListener name => { a with listeners := a.listeners.erase name }
  | _ => a

def settle (a : Adapter) (request : PageRequest) : Reply → Adapter × Reply
  | .ok answer => (a.granted request, .ok answer)
  | .error fault =>
    match wordFault request fault with
    | some fault => (a, .error fault)
    | none => (a.granted request, .ok .nothing)

end Adapter

end BrowserFlow
