import BrowserFlow.Value.Basic

/-!
Looking into values of which only part is of interest. What is missing or of another kind is replaced by a default.
-/

namespace BrowserFlow.Value

def entries (v : Value) : Entries := v.dict?.getD []

def items (v : Value) : List Value :=
  match v with
  | list vs => vs
  | _ => []

def field (v : Value) (key : String) : Value := v.entries.getD key

def has (v : Value) (key : String) : Bool := (v.entries.get? key).isSome

/-- The entry of a dictionary, also if it is null, or else a default. -/
def fieldOr (v : Value) (key : String) (default : Value) : Value := (v.entries.get? key).getD default

def given? (v : Value) : Option Value :=
  match v with
  | null => none
  | v => some v

def textField? (v : Value) (key : String) : Option String := (v.field key).str?

def textField (v : Value) (key : String) (default : String := "") : String := (v.textField? key).getD default

def intField? (v : Value) (key : String) : Option Int :=
  match v.field key with
  | int n => some n
  | _ => none

def intField (v : Value) (key : String) (default : Int) : Int := (v.intField? key).getD default

def boolField (v : Value) (key : String) (default : Bool := false) : Bool :=
  match v.field key with
  | bool b => b
  | _ => default

def texts (v : Value) : List String := v.items.filterMap str?

def ofTexts (ss : List String) : Value := .list (ss.map .str)

def ofText? (s : Option String) : Value :=
  match s with
  | some s => .str s
  | none => .null

end BrowserFlow.Value
