import BrowserFlow.Locator
import BrowserFlow.Text.Blank
import BrowserFlow.Text.Case

/-!
Element trees and the paths that describe an element by its place: a CSS path of at most five steps and a
positional XPath. Both start at the nearest id if there is one.
-/

namespace BrowserFlow

inductive Element
  | node (tag : String) (attributes : List (String × String)) (text : String) (children : List Element)
  deriving Inhabited

namespace Element

def tag : Element → String
  | node tag _ _ _ => tag

def attributes : Element → List (String × String)
  | node _ attributes _ _ => attributes

def text : Element → String
  | node _ _ text _ => text

def children : Element → List Element
  | node _ _ _ children => children

def attribute? (e : Element) (key : String) : Option String :=
  (e.attributes.find? fun entry => entry.1 == key).map (·.2)

def nonempty? (e : Element) (key : String) : Option String :=
  (e.attribute? key).filter (!·.isEmpty)

def id? (e : Element) : Option String := e.nonempty? "id"

def classes (e : Element) : List String :=
  (Text.words ((e.attribute? "class").getD "").toList).map String.ofList

end Element

/-- An element in its tree: the ancestors follow from the parent to the root, each with the position of the
    child that leads down. A position is absent if the parent does not list the child. -/
structure Place where
  element : Element
  ancestors : List (Element × Option Nat)
  deriving Inhabited

namespace Place

def root (e : Element) : Place := ⟨e, []⟩

def children (p : Place) : List Place :=
  p.element.children.zipIdx.map fun (child, i) => ⟨child, (p.element, some i) :: p.ancestors⟩

def child? (p : Place) (i : Nat) : Option Place := p.children[i]?

def descend? (p : Place) : List Nat → Option Place
  | [] => some p
  | i :: rest => (p.child? i).bind (descend? · rest)

def levels : Nat → List Place → List Place
  | 0, _ => []
  | depth + 1, places => places ++ levels depth (places.flatMap children)

mutual

def height : Element → Nat
  | .node _ _ _ children => heights children + 1

def heights : List Element → Nat
  | [] => 0
  | e :: es => max (height e) (heights es)

end

def everyPlace (p : Place) : List Place := levels (height p.element) [p]

def maxSteps : Nat := 5

def stepText (e : Element) : String := ".".intercalate (e.tag :: e.classes)

/-- The steps from an element upwards, nearest first; an id ends the walk. -/
def cssSteps : Nat → List Element → List String
  | 0, _ => []
  | _, [] => []
  | left + 1, e :: above =>
    match e.id? with
    | some id => ["#" ++ id]
    | none => stepText e :: cssSteps left above

def cssPath (p : Place) : String :=
  " > ".intercalate (cssSteps maxSteps (p.element :: p.ancestors.map (·.1))).reverse

def tagPosition (parent : Element) (i : Nat) (tag : String) : Nat :=
  ((parent.children.take i).filter fun e => e.tag == tag).length + 1

/-- The XPath of an element with the given ancestors; none if some parent on the way up to the nearest id
    does not list the child. -/
def xpathFrom : Element → List (Element × Option Nat) → Option String
  | e, [] =>
    match e.id? with
    | some id => some (anchor id)
    | none => some ("/" ++ e.tag)
  | e, (parent, position) :: above =>
    match e.id? with
    | some id => some (anchor id)
    | none => do
      let i ← position
      let front ← xpathFrom parent above
      some (front ++ "/" ++ e.tag ++ "[" ++ toString (tagPosition parent i e.tag) ++ "]")
where
  anchor (id : String) : String := "//*[@id=\"" ++ id ++ "\"]"

def xpath? (p : Place) : Option String := xpathFrom p.element p.ancestors

def textLimit : Nat := 50

def shortText? (e : Element) : Option String :=
  let text := Text.trim e.text.toList
  if 0 < text.length && text.length < textLimit then some (String.ofList text) else none

/-- Everything that describes an element; none only for an element that its parent does not list. -/
def locator? (p : Place) : Option Locator :=
  p.xpath?.map fun xpath =>
    { id := p.element.id?.map .str
      cssPath := some (.str p.cssPath)
      name := (p.element.nonempty? "name").map .str
      text := (shortText? p.element).map .str
      xpath := some (.str xpath) }

end Place

def Element.make (tag : String) (attributes : List (String × String)) (text : String)
    (children : List Element) : Element :=
  .node (Text.lower tag) attributes text children

end BrowserFlow
