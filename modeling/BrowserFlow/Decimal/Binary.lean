import BrowserFlow.Decimal.Power

/-!
What a double stands for, as exact integers: a multiple of a power of two, an infinity, or no number.
Truncating, rounding to decimal places and comparing with integers are exact on this view.
-/

namespace BrowserFlow

/-- `finite negative m q` is the number `m * 2 ^ q`, negated if `negative`. -/
inductive Binary
  | finite (negative : Bool) (m : Nat) (q : Int)
  | infinite (negative : Bool)
  | undefined
  deriving DecidableEq, Repr, Inhabited

namespace Binary

def ofFloat (x : Float) : Binary :=
  let bits := x.toBits
  let negative := bits >>> 63 == 1
  let e := ((bits >>> 52) &&& 0x7FF).toNat
  let f := (bits &&& 0xFFFFFFFFFFFFF).toNat
  if e == 0x7FF then if f == 0 then .infinite negative else .undefined
  else if e == 0 then .finite negative f (-1074)
  else .finite negative (0x10000000000000 + f) ((e : Int) - 1075)

/-- The quotient rounded to the nearest natural number, a half going to the even neighbour. -/
def divHalfEven (n d : Nat) : Nat :=
  let k := n / d
  let r := 2 * (n % d)
  if r < d then k else if d < r then k + 1 else if k % 2 == 0 then k else k + 1

def signed (negative : Bool) (n : Nat) : Int := if negative then -(n : Int) else n

/-- The integer part, dropped towards zero; none for what is not a finite number. -/
def truncate? : Binary → Option Int
  | finite negative m q => some (signed negative (m * twoTo q.toNat / twoTo (-q).toNat))
  | _ => none

/-- The number of units of `10 ^ -places`, rounded half to even. -/
def roundPlaces? (places : Nat) : Binary → Option Int
  | finite negative m q =>
    some (signed negative (divHalfEven (m * twoTo q.toNat * tenTo places) (twoTo (-q).toNat)))
  | _ => none

def isWhole : Binary → Bool
  | finite _ m q => m * twoTo q.toNat % twoTo (-q).toNat == 0
  | _ => false

/-- Is the number above the integer `n`? Not a number is above nothing. -/
def gtInt (x : Binary) (n : Int) : Bool :=
  match x with
  | finite negative m q => n * (twoTo (-q).toNat : Nat) < signed negative (m * twoTo q.toNat)
  | infinite negative => !negative
  | undefined => false

end Binary

end BrowserFlow
