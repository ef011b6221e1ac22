import BrowserFlow.Decimal.Shortest

/-!
Doubles with a chosen number of digits, rounded half to even: so many places after the point, so many digits before
an exponent, or whichever of the two is shorter.
-/

namespace BrowserFlow.Decimal

/-- Digits with a point before the last `places` of them. `keepsPoint` shows it also if none follow. -/
def pointed (keepsPoint : Bool) (places : Nat) (n : Nat) : String :=
  let ds := (Text.padZeros (places + 1) (toString n)).toList
  let whole := String.ofList (ds.take (ds.length - places))
  if places == 0 then (if keepsPoint then whole ++ "." else whole)
  else whole ++ "." ++ String.ofList (ds.drop (ds.length - places))

def inUnits (m : Nat) (q e : Int) : Nat :=
  Binary.divHalfEven (m * twoTo q.toNat * tenTo (-e).toNat) (twoTo (-q).toNat * tenTo e.toNat)

def fixed (keepsPoint : Bool) (places m : Nat) (q : Int) : String :=
  pointed keepsPoint places (inUnits m q (-places))

def fixedOf (places : Nat) (x : Float) : String :=
  match Binary.ofFloat x with
  | .finite negative m q => (if negative then "-" else "") ++ fixed false places m q
  | .infinite negative => if negative then "-inf" else "inf"
  | .undefined => "nan"

/-- The first `places + 1` digits and the power of ten of the first of them. -/
def leading (places m : Nat) (q : Int) : Nat × Int :=
  if m == 0 then (0, 0)
  else
    let top := magnitude m q - 1
    let n := inUnits m q (top - places)
    if n == tenTo (places + 1) then (n / 10, top + 1) else (n, top)

def scientific (keepsPoint : Bool) (places m : Nat) (q : Int) : String :=
  let (n, top) := leading places m q
  pointed keepsPoint places n ++ "e" ++ (if top < 0 then "-" else "+") ++ Text.padZeros 2 (toString top.natAbs)

def trimPlaces (s : String) : String :=
  let cs := s.toList
  if cs.contains '.' then
    let back := cs.reverse.dropWhile (· == '0')
    String.ofList (if back.head? == some '.' then back.drop 1 else back).reverse
  else s

/-- So many digits at most, without an exponent if the first digit is near the point. -/
def general (keepsZeros : Bool) (digits m : Nat) (q : Int) : String :=
  let digits := max digits 1
  let (_, top) := leading (digits - 1) m q
  if -4 ≤ top && top < digits then
    let s := fixed keepsZeros (digits - 1 - top).toNat m q
    if keepsZeros then s else trimPlaces s
  else
    let s := scientific keepsZeros (digits - 1) m q
    if keepsZeros then s
    else
      let cs := s.toList
      trimPlaces (String.ofList (cs.takeWhile (· != 'e'))) ++ String.ofList (cs.dropWhile (· != 'e'))

end BrowserFlow.Decimal
