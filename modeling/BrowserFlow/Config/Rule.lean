import BrowserFlow.Value.Access
import BrowserFlow.Value.Number

/-!
Rules for single settings. A rule reads a value, which may have another kind than the setting as long as nothing
is lost, or names the way in which the value breaks it. `Checked` runs many rules and keeps every breach.
-/

namespace BrowserFlow

abbrev Rule (α : Type) := Value → Except String α

namespace Rule

/-- Blank characters without the information separators. -/
def isSpace (c : Char) : Bool := Text.isBlank c && !(0x1C ≤ c.toNat && c.toNat ≤ 0x1F)

def strip (cs : List Char) : List Char := ((cs.dropWhile isSpace).reverse.dropWhile isSpace).reverse

def readDigits : Bool → List Char → Option (List Char)
  | afterDigit, [] => if afterDigit then some [] else none
  | afterDigit, c :: cs =>
    if c.isDigit then (readDigits true cs).map (c :: ·)
    else if c == '_' && afterDigit then readDigits false cs
    else none

/-- A sign, digits, and after a point nothing but zeros. -/
def readInt (s : String) : Except String Int :=
  let cs := strip s.toList
  let (isNegative, body) := Numeral.splitSign cs
  let whole := body.takeWhile (· != '.')
  let fraction := (body.dropWhile (· != '.')).drop 1
  match readDigits false whole, fraction.all (· == '0') with
  | some ds, true =>
    if Numeral.maxDigits < cs.length then .error "int_parsing_size"
    else
      let n : Int := Numeral.natOfDigits ds
      .ok (if isNegative then -n else n)
  | _, _ => .error "int_parsing"

def wholeFloat (x : Float) : Except String Int :=
  let b := Binary.ofFloat x
  match b.truncate? with
  | none => .error "finite_number"
  | some n =>
    if !b.isWhole then .error "int_from_float"
    else if -0x8000000000000000 < n && n < 0x8000000000000000 then .ok n
    else .error "int_parsing_size"

def int : Rule Int
  | .int n => .ok n
  | .bool b => .ok (if b then 1 else 0)
  | .float x => wholeFloat x
  | .str s => readInt s
  | _ => .error "int_type"

def intBetween (low high : Int) : Rule Int := fun v => do
  let n ← int v
  if high < n then .error "less_than_equal"
  else if n < low then .error "greater_than_equal"
  else return n

def asciiFloat? (cs : List Char) : Option Float :=
  if cs.all fun c => c.toNat < 0x80 && !Text.isBlank c && c != '_' then Numeral.readFloat cs else none

def readFloat (s : String) : Except String Float :=
  let cs := s.toList
  let hasSingleUnderscores :=
    cs.head? != some '_' && cs.getLast? != some '_' && cs.contains '_' &&
      !((cs.zip (cs.drop 1)).contains ('_', '_'))
  let joined := if hasSingleUnderscores then asciiFloat? (cs.filter (· != '_')) else none
  match asciiFloat? (strip cs) <|> joined with
  | some x => .ok x
  | none => .error "float_parsing"

def number : Rule Float
  | .float x => .ok x
  | .str s => readFloat s
  | v =>
    match v.integer? with
    | some n => (Value.floatOfInt n).mapError fun _ => "float_type"
    | none => .error "float_type"

def numberBetween (above : Float) (upTo : Float) : Rule Float := fun v => do
  let x ← number v
  if !(x <= upTo) then .error "less_than_equal"
  else if !(above < x) then .error "greater_than"
  else return x

def trueWords : List String := ["1", "on", "t", "true", "y", "yes"]

def falseWords : List String := ["0", "off", "f", "false", "n", "no"]

def readTruth (s : String) : Except String Bool :=
  let word := String.ofList (s.toList.map Char.toLower)
  if trueWords.contains word then .ok true
  else if falseWords.contains word then .ok false
  else .error "bool_parsing"

def truthOfInt (n : Int) : Except String Bool :=
  if n == 1 then .ok true else if n == 0 then .ok false else .error "bool_parsing"

def truth : Rule Bool
  | .bool b => .ok b
  | .str s => readTruth s
  | .int n => if -0x8000000000000000 ≤ n && n < 0x8000000000000000 then truthOfInt n else .error "bool_type"
  | .float x =>
    match wholeFloat x with
    | .ok n => truthOfInt n
    | .error _ => .error "bool_type"
  | _ => .error "bool_type"

def text : Rule String
  | .str s => .ok s
  | _ => .error "string_type"

def optional {α : Type} (rule : Rule α) : Rule (Option α)
  | .null => .ok none
  | v => (rule v).map some

def oneOf (words : List String) : Rule String
  | .str s => if words.contains s then .ok s else .error "literal_error"
  | _ => .error "literal_error"

end Rule

/-- The result of many rules: all breaches, or a value if there are none. -/
structure Checked (α : Type) where
  faults : List SettingFault
  value? : Option α

namespace Checked

instance : Applicative Checked where
  pure a := ⟨[], some a⟩
  seq f x :=
    let y := x ()
    ⟨f.faults ++ y.faults, match f.value?, y.value? with
      | some g, some a => some (g a)
      | _, _ => none⟩

def fail {α : Type} (place : List String) (rule : String) : Checked α := ⟨[⟨place, rule⟩], none⟩

def ofRule {α : Type} (place : List String) (rule : Rule α) (v : Value) : Checked α :=
  match rule v with
  | .ok a => ⟨[], some a⟩
  | .error name => fail place name

def field {α : Type} (entries : Entries) (name : String) (rule : Rule α) (default : α) : Checked α :=
  match entries.get? name with
  | some v => ofRule [name] rule v
  | none => ⟨[], some default⟩

def within {α : Type} (name : String) (c : Checked α) : Checked α :=
  { c with faults := c.faults.map fun f => { f with place := name :: f.place } }

def run {α : Type} (c : Checked α) : Except Fault α :=
  match c.value?, c.faults with
  | some a, [] => .ok a
  | _, faults => .error (.invalidSettings faults)

end Checked

end BrowserFlow
