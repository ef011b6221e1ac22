import BrowserFlow.Decimal.Power
import BrowserFlow.Text.Blank
import BrowserFlow.Text.Digit

/-!
Numerals in free text. `readInt` and `readFloat` admit blanks around the numeral, a sign, digits of every
script, and single underscores between digits.
-/

namespace BrowserFlow.Numeral

inductive Fault
  | malformed
  | tooLong (digits : Nat)
  deriving DecidableEq, Repr

/-- Numerals with more digits than this are not converted to integers. -/
def maxDigits : Nat := 4300

/-- A digit of any script becomes the decimal digit of the same value. -/
def toDecimalDigit (c : Char) : Char :=
  match Text.digitValue? c with
  | some d => Char.ofNat (0x30 + d)
  | none => c

/-- Removes underscores, each of which must stand between two decimal digits. The first argument is the
    character before. -/
def dropUnderscores : Char → List Char → Option (List Char)
  | previous, [] => if previous == '_' then none else some []
  | previous, c :: cs =>
    if c == '_' then if previous.isDigit then dropUnderscores c cs else none
    else if previous == '_' && !c.isDigit then none
    else (dropUnderscores c cs).map (c :: ·)

def normalize (cs : List Char) : Option (List Char) :=
  dropUnderscores ' ' ((Text.trim cs).map toDecimalDigit)

def splitSign : List Char → Bool × List Char
  | '-' :: cs => (true, cs)
  | '+' :: cs => (false, cs)
  | cs => (false, cs)

def natOfDigits (cs : List Char) : Nat := cs.foldl (fun n c => 10 * n + (c.toNat - 0x30)) 0

def readInt (cs : List Char) : Except Fault Int :=
  match normalize cs with
  | none => .error .malformed
  | some cs =>
    let (negative, ds) := splitSign cs
    if ds.isEmpty || !ds.all Char.isDigit then .error .malformed
    else if maxDigits < ds.length then .error (.tooLong ds.length)
    else .ok (if negative then -(natOfDigits ds : Int) else natOfDigits ds)

/-- The double nearest to `m * 10 ^ e`. Magnitudes beyond the range of doubles are settled by the number of
    digits alone. -/
def nearestFloat (negative : Bool) (m : Nat) (e : Int) : Float :=
  let size := ((Nat.toDigits 10 m).length : Int) + e
  let x :=
    if m == 0 || size < -400 then 0.0
    else if 400 < size then 1.0 / 0.0
    else if 0 ≤ e then Float.ofScientific (m * tenTo e.toNat) false 0
    else Float.ofScientific m true (-e).toNat
  if negative then -x else x

/-- An exponent part: `e`, a sign if there is one, and digits up to the end. No exponent part counts as
    zero. -/
def readExponent : List Char → Option Int
  | [] => some 0
  | c :: cs =>
    if c == 'e' || c == 'E' then
      let (negative, ds) := splitSign cs
      if ds.isEmpty || !ds.all Char.isDigit then none
      else some (if negative then -(natOfDigits ds : Int) else natOfDigits ds)
    else none

def readDecimal (negative : Bool) (cs : List Char) : Option Float :=
  let whole := cs.takeWhile Char.isDigit
  let (fraction, rest) := match cs.dropWhile Char.isDigit with
    | '.' :: tail => (tail.takeWhile Char.isDigit, tail.dropWhile Char.isDigit)
    | tail => ([], tail)
  if whole.isEmpty && fraction.isEmpty then none
  else (readExponent rest).map fun e =>
    nearestFloat negative (natOfDigits (whole ++ fraction)) (e - fraction.length)

def readFloat (cs : List Char) : Option Float := do
  let (negative, body) := splitSign (← normalize cs)
  let word := String.ofList (body.map Char.toLower)
  if word == "inf" || word == "infinity" then some (if negative then -1.0 / 0.0 else 1.0 / 0.0)
  else if word == "nan" then some (0.0 / 0.0)
  else readDecimal negative body

end BrowserFlow.Numeral
