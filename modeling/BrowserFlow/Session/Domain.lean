import BrowserFlow.Text.Case
import BrowserFlow.Text.Fields

/-!
Host names as cookies and session files see them.
-/

namespace BrowserFlow.Domain

def isFileChar (c : Char) : Bool := c.isAlphanum || c == '.' || c == '-'

def fileName (domain : String) : String :=
  String.ofList (domain.toList.map fun c => if isFileChar c then c else '_')

def normalize (domain : String) : List Char := (Text.lower (String.ofList (domain.toList.dropWhile (· == '.')))).toList

def isBelow (cs parent : List Char) : Bool := cs == parent || Text.endsWith cs ('.' :: parent)

/-- Do a cookie's domain and a host belong together? Either may be the parent of the other. -/
def matchesHost (cookieDomain host : String) : Bool :=
  let c := normalize cookieDomain
  let d := normalize host
  isBelow c d || isBelow d c

end BrowserFlow.Domain
