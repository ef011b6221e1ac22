import BrowserFlow.Decimal.Binary
import BrowserFlow.Text.Digit

/-!
The text of a double: the fewest decimal digits that read back as the same double, laid out as a
`FloatStyle` says. Digits are found by exact search on the decimal grids of 1 to 17 digits.
-/

namespace BrowserFlow

/-- The number `digits * 10 ^ exponent`. -/
structure Decimal where
  digits : Nat
  exponent : Int
  deriving DecidableEq, Repr, Inhabited

namespace Decimal

/-- Compares `a * 10 ^ i` with `b * 2 ^ j`. -/
def compareScaled (a : Nat) (i : Int) (b : Nat) (j : Int) : Ordering :=
  compare (a * tenTo i.toNat * twoTo (-j).toNat) (b * twoTo j.toNat * tenTo (-i).toNat)

/-- Does the decimal lie among the reals that round to `m * 2 ^ q`? The ends belong to it when `m` is
    even; below a power of two the gap is half as wide. -/
def readsBackAs (d : Decimal) (m : Nat) (q : Int) : Bool :=
  let low := if m == 0x10000000000000 && q > -1074 then 4 * m - 1 else 4 * m - 2
  let ends := m % 2 == 0
  let atLow := compareScaled d.digits d.exponent low (q - 2)
  let atHigh := compareScaled d.digits d.exponent (4 * m + 2) (q - 2)
  (atLow == .gt || (ends && atLow == .eq)) && (atHigh == .lt || (ends && atHigh == .eq))

/-- The least `k` with `m * 2 ^ q < 10 ^ k`, found near an estimate from the binary logarithm. -/
def magnitude (m : Nat) (q : Int) : Int :=
  let estimate := ((m.log2 : Int) + q) * 30103 / 100000 - 1
  match (List.range 6).find? fun (i : Nat) => compareScaled 1 (estimate + i) m q == .gt with
  | some i => estimate + i
  | none => estimate

/-- The value rounded down to the grid of multiples of `10 ^ e`, in units of the grid. -/
def floorAt (m : Nat) (q e : Int) : Nat :=
  m * twoTo q.toNat * tenTo (-e).toNat / (twoTo (-q).toNat * tenTo e.toNat)

/-- The neighbour of `m * 2 ^ q` on the grid of multiples of `10 ^ e` that reads back; of two the closer,
    and of two equally close the even one. -/
def onGrid? (m : Nat) (q e : Int) : Option Decimal :=
  let below := floorAt m q e
  let down : Decimal := ⟨below, e⟩
  let up : Decimal := ⟨below + 1, e⟩
  match down.readsBackAs m q, up.readsBackAs m q with
  | true, true =>
    match compareScaled (2 * below + 1) e (2 * m) q with
    | .lt => some up
    | .gt => some down
    | .eq => some (if below % 2 == 0 then down else up)
  | true, false => some down
  | false, true => some up
  | false, false => none

def stripZeros : Nat → Decimal → Decimal
  | 0, d => d
  | fuel + 1, d =>
    if d.digits != 0 && d.digits % 10 == 0 then stripZeros fuel ⟨d.digits / 10, d.exponent + 1⟩ else d

/-- The fewest digits that read back as `m * 2 ^ q`, which is not zero. -/
def shortest (m : Nat) (q : Int) : Decimal :=
  let k := magnitude m q
  match (List.range 17).findSome? fun (n : Nat) => onGrid? m q (k - (n + 1)) with
  | some d => stripZeros 20 d
  | none => ⟨m * twoTo q.toNat * Nat.pow 5 (-q).toNat, min q 0⟩

end Decimal

structure FloatStyle where
  /-- least power of ten that is still written positionally -/
  lowest : Int
  /-- greatest power of ten that is still written positionally -/
  highest : Int
  plusSign : Bool
  exponentWidth : Nat
  infinity : String
  undefined : String

def FloatStyle.display : FloatStyle := ⟨-4, 15, true, 2, "inf", "nan"⟩

def FloatStyle.compact : FloatStyle := ⟨-5, 15, false, 1, "null", "null"⟩

namespace FloatStyle

def exponentText (style : FloatStyle) (e : Int) : String :=
  let sign := if e < 0 then "-" else if style.plusSign then "+" else ""
  sign ++ Text.padZeros style.exponentWidth (toString e.natAbs)

/-- Digits `ds` with the decimal point after `point` of them; positional notation keeps a digit on both
    sides of the point. -/
def layOut (style : FloatStyle) (ds : List Char) (point : Int) : String :=
  let top := point - 1
  if top < style.lowest || style.highest < top then
    let rest := match ds.drop 1 with
      | [] => ""
      | tail => "." ++ String.ofList tail
    String.ofList (ds.take 1) ++ rest ++ "e" ++ style.exponentText top
  else if point ≤ 0 then "0." ++ "".pushn '0' (-point).toNat ++ String.ofList ds
  else
    let whole := ds.take point.toNat
    let fraction := ds.drop point.toNat
    String.ofList whole ++ "".pushn '0' (point.toNat - whole.length) ++ "." ++
      (if fraction.isEmpty then "0" else String.ofList fraction)

def render (style : FloatStyle) (x : Float) : String :=
  match Binary.ofFloat x with
  | .undefined => style.undefined
  | .infinite negative =>
    if negative && style.infinity != style.undefined then "-" ++ style.infinity else style.infinity
  | .finite negative m q =>
    let body :=
      if m == 0 then "0.0"
      else
        let d := Decimal.shortest m q
        let ds := Nat.toDigits 10 d.digits
        style.layOut ds (ds.length + d.exponent)
    if negative then "-" ++ body else body

end FloatStyle

end BrowserFlow
