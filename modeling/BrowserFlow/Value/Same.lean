import BrowserFlow.Decimal.Binary
import BrowserFlow.Value.Basic

/-!
Equality of values as comparisons see it: numbers are equal by what they count, whatever their kind, and the
order of a dictionary's entries does not matter.
-/

namespace BrowserFlow.Value

/-- Truth values count as one and zero. -/
def integer? : Value → Option Int
  | .int n => some n
  | .bool b => some (if b then 1 else 0)
  | _ => none

/-- Not a number is equal to nothing. -/
def sameFloat (x : Float) : Value → Bool
  | .float y => x == y
  | v =>
    let b := Binary.ofFloat x
    match v.integer?, b.truncate? with
    | some n, some m => b.isWhole && n == m
    | _, _ => false

mutual

def same : Value → Value → Bool
  | .null, w => match w with | .null => true | _ => false
  | .str s, w => match w with | .str t => s == t | _ => false
  | .foreign s, w => match w with | .foreign t => s == t | _ => false
  | .float x, w => sameFloat x w
  | .int n, w => match w with | .float y => sameFloat y (.int n) | _ => w.integer? == some n
  | .bool b, w =>
    let n : Int := if b then 1 else 0
    match w with | .float y => sameFloat y (.int n) | _ => w.integer? == some n
  | .list items, w => match w with | .list others => sameItems items others | _ => false
  | .dict entries, w =>
    match w with | .dict others => entries.length == others.length && sameEntries entries others | _ => false

def sameItems : List Value → List Value → Bool
  | [], others => others.isEmpty
  | v :: vs, others =>
    match others with
    | [] => false
    | w :: ws => same v w && sameItems vs ws

/-- Does the second list hold the same value for every key of the first? -/
def sameEntries : List (String × Value) → List (String × Value) → Bool
  | [], _ => true
  | (key, v) :: rest, others =>
    match Entries.get? others key with
    | some w => same v w && sameEntries rest others
    | none => false

end

end BrowserFlow.Value
