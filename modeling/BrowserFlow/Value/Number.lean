import BrowserFlow.Decimal.Binary
import BrowserFlow.Decimal.Numeral
import BrowserFlow.Error
import BrowserFlow.Value.Same

/-!
Values where a number is wanted. Integers are read from numerals and cut from doubles; what cannot be
converted ends in the fault that says why.
-/

namespace BrowserFlow.Value

def truncate (x : Float) : Except Fault Int :=
  match Binary.ofFloat x with
  | .infinite _ => .error .infiniteInteger
  | .undefined => .error .undefinedInteger
  | b => .ok (b.truncate?.getD 0)

def intOfText (s : String) : Except Fault Int :=
  match Numeral.readInt s.toList with
  | .ok n => .ok n
  | .error .malformed => .error (.malformedNumeral (Text.quote s))
  | .error (.tooLong digits) => .error (.numeralTooLong digits)

def toInt : Value → Except Fault Int
  | .int n => .ok n
  | .bool b => .ok (if b then 1 else 0)
  | .float x => truncate x
  | .str s => intOfText s
  | v => .error (.wrongKind
      s!"int() argument must be a string, a bytes-like object or a real number, not '{v.kind}'")

/-- Halfway from the greatest double to the power of two after it: no number from here on has a nearest double. -/
def floatLimit : Nat := twoTo 1024 - twoTo 970

def floatOfInt (n : Int) : Except Fault Float :=
  if floatLimit ≤ n.natAbs then .error .integerTooLarge else .ok (Numeral.nearestFloat (n < 0) n.natAbs 0)

def toFloat? : Value → Except Fault (Option Float)
  | .int n => (floatOfInt n).map some
  | .bool b => .ok (some (if b then 1.0 else 0.0))
  | .float x => .ok (some x)
  | .str s => .ok (Numeral.readFloat s.toList)
  | v => .error (.wrongKind s!"float() argument must be a string or a real number, not '{v.kind}'")

def thousandth : Value → Except Fault Float
  | .float x => .ok (x / 1000.0)
  | v =>
    match v.integer? with
    | some n =>
      if floatLimit * 1000 ≤ n.natAbs then .error .quotientTooLarge
      else .ok (Numeral.nearestFloat (n < 0) n.natAbs (-3))
    | none => .error (.wrongKind s!"unsupported operand type(s) for /: '{v.kind}' and 'int'")

def divide (x : Float) : Value → Except Fault Float
  | .float y => if y == 0.0 then .error .divisionByZero else .ok (x / y)
  | v =>
    match v.integer? with
    | some 0 => .error .divisionByZero
    | some n => (floatOfInt n).map (x / ·)
    | none => .error (.wrongKind s!"unsupported operand type(s) for /: 'float' and '{v.kind}'")

def isAtMostZero : Value → Except Fault Bool
  | .float x => .ok (x <= 0.0)
  | v =>
    match v.integer? with
    | some n => .ok (n ≤ 0)
    | none => .error (.wrongKind s!"'<=' not supported between instances of '{v.kind}' and 'int'")

end BrowserFlow.Value
