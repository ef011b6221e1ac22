import BrowserFlow.Error

/-!
Locators: what is remembered of an element to find it again. A field holds what the page reported, normally
text, and is absent if the report was empty.
-/

namespace BrowserFlow

structure Locator where
  id : Option Value := none
  cssPath : Option Value := none
  name : Option Value := none
  text : Option Value := none
  xpath : Option Value := none
  deriving Inhabited

namespace Locator

def field (entries : Entries) (key : String) : Option Value := (entries.getD key).present?

/-- The CSS path may be called `css`, as captured events do, or `css_path`. -/
def ofEntries (entries : Entries) : Locator where
  id := field entries "id"
  cssPath := field entries "css" <|> field entries "css_path"
  name := field entries "name"
  text := field entries "text"
  xpath := field entries "xpath"

def entries (l : Locator) : Entries :=
  let entry (key : String) (v : Option Value) : Entries :=
    match v with
    | some v => if v.isPresent then [(key, v)] else []
    | none => []
  entry "id" l.id ++ entry "css" l.cssPath ++ entry "name" l.name ++ entry "text" l.text ++
    entry "xpath" l.xpath

def isEmpty (l : Locator) : Bool := l.entries.isEmpty

/-- The one selector that a script carries for a locator. The id comes before the CSS path, then the name,
    the XPath and the text; `body` stands for a locator that says nothing. -/
def preferred (l : Locator) : Value :=
  match l.id.bind Value.present?, l.cssPath.bind Value.present?, l.name.bind Value.present?,
      l.xpath.bind Value.present?, l.text.bind Value.present? with
  | some id, _, _, _, _ => .str ("#" ++ id.text)
  | _, some css, _, _, _ => css
  | _, _, some name, _, _ => .str ("[name=\"" ++ name.text ++ "\"]")
  | _, _, _, some xpath, _ => xpath
  | _, _, _, _, some text => .str ("text=" ++ text.text)
  | _, _, _, _, _ => .str "body"

def preferred? : Option Locator → Value
  | some l => l.preferred
  | none => .str "body"

end Locator

end BrowserFlow
