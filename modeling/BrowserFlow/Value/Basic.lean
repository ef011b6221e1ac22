/-!
Values whose shape is known only when they arrive: payloads of page events, cookies, settings and command
arguments. The entries of a dictionary keep the order in which their keys first came.
-/

namespace BrowserFlow

inductive Value
  | null
  | bool (b : Bool)
  | int (n : Int)
  | float (x : Float)
  | str (s : String)
  | list (items : List Value)
  | dict (entries : List (String × Value))
  /-- a value of a kind that has no notation of its own here, such as a date in a settings file -/
  | foreign (kind : String)
  deriving Inhabited

abbrev Entries := List (String × Value)

namespace Entries

def get? (entries : Entries) (key : String) : Option Value :=
  (entries.find? fun entry => entry.1 == key).map (·.2)

/-- Writes in place if the key is there, else at the end. -/
def put : Entries → String → Value → Entries
  | [], key, v => [(key, v)]
  | (k, w) :: rest, key, v => if k == key then (k, v) :: rest else (k, w) :: put rest key v

/-- Entries as they come; a later entry replaces an earlier one of the same key. -/
def collect (pairs : List (String × Value)) : Entries :=
  pairs.foldl (fun entries pair => put entries pair.1 pair.2) []

end Entries

namespace Value

/-- What counts as present: neither nothing, false, zero nor empty. -/
def isPresent : Value → Bool
  | null => false
  | bool b => b
  | int n => n != 0
  | float x => x != 0.0
  | str s => !s.isEmpty
  | list items => !items.isEmpty
  | dict entries => !entries.isEmpty
  | foreign _ => true

def present? (v : Value) : Option Value := if v.isPresent then some v else none

def str? : Value → Option String
  | str s => some s
  | _ => none

def dict? : Value → Option Entries
  | dict entries => some entries
  | _ => none

def kind : Value → String
  | null => "NoneType"
  | bool _ => "bool"
  | int _ => "int"
  | float _ => "float"
  | str _ => "str"
  | list _ => "list"
  | dict _ => "dict"
  | foreign k => k

end Value

def Entries.getD (entries : Entries) (key : String) : Value := (entries.get? key).getD .null

end BrowserFlow
