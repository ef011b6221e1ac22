import BrowserFlow.Decimal.Shortest
import BrowserFlow.Text.Quoted
import BrowserFlow.Value.Basic

/-!
Values as they appear inside messages: strings in quotes, `None`, `True` and `False` by name, lists and
dictionaries in brackets. As a text of its own (`Value.text`) a string has no quotes.
-/

namespace BrowserFlow.Value

mutual

def display : Value → String
  | .null => "None"
  | .bool b => if b then "True" else "False"
  | .int n => toString n
  | .float x => FloatStyle.display.render x
  | .str s => Text.quote s
  | .list items => "[" ++ ", ".intercalate (displayItems items) ++ "]"
  | .dict entries => "\x7b" ++ ", ".intercalate (displayEntries entries) ++ "\x7d"
  | .foreign kind => "<" ++ kind ++ ">"

def displayItems : List Value → List String
  | [] => []
  | v :: vs => display v :: displayItems vs

def displayEntries : List (String × Value) → List String
  | [] => []
  | (key, v) :: rest => (Text.quote key ++ ": " ++ display v) :: displayEntries rest

end

def text : Value → String
  | .str s => s
  | v => v.display

end BrowserFlow.Value
