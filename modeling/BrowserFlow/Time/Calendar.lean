/-!
The proleptic Gregorian calendar for the years 1 to 9999. Days are numbered from 1 for the first day of
year 1; the ISO calendar of weeks is laid over the same numbers.
-/

namespace BrowserFlow.Calendar

structure Date where
  year : Nat
  month : Nat
  day : Nat
  deriving DecidableEq, Repr, Inhabited

def isLeap (year : Nat) : Bool := year % 4 == 0 && (year % 100 != 0 || year % 400 == 0)

def monthLengths (year : Nat) : List Nat :=
  [31, if isLeap year then 29 else 28, 31, 30, 31, 30, 31, 31, 30, 31, 30, 31]

def daysBeforeYear (year : Nat) : Nat :=
  let y := year - 1
  365 * y + y / 4 - y / 100 + y / 400

def Date.isValid (d : Date) : Bool :=
  1 ≤ d.year && d.year ≤ 9999 && 1 ≤ d.month && d.month ≤ 12 && 1 ≤ d.day &&
    d.day ≤ (monthLengths d.year).getD (d.month - 1) 0

def Date.number (d : Date) : Nat :=
  daysBeforeYear d.year + ((monthLengths d.year).take (d.month - 1)).foldl (· + ·) 0 + d.day

/-- Month and day of the month of the day `n` days after the first of the month `month`. -/
def findMonth : Nat → List Nat → Nat → Nat × Nat
  | month, [], n => (month, n + 1)
  | month, length :: rest, n => if n < length then (month, n + 1) else findMonth (month + 1) rest (n - length)

/-- The year of the day `n` days after the first day of year 1, and the days of that year before it. -/
def yearOf (n : Nat) : Nat × Nat :=
  let quarters := n / 146097
  let n := n % 146097
  let centuries := min 3 (n / 36524)
  let n := n - 36524 * centuries
  let cycles := n / 1461
  let n := n % 1461
  let years := min 3 (n / 365)
  (400 * quarters + 100 * centuries + 4 * cycles + years + 1, n - 365 * years)

def Date.ofNumber (number : Nat) : Date :=
  let (year, n) := yearOf (number - 1)
  let (month, day) := findMonth 1 (monthLengths year) n
  ⟨year, month, day⟩

def weekday (number : Nat) : Nat := (number + 6) % 7

/-- The Monday that begins week 1, the week with the year's first Thursday, counted from day 1. It may lie
    before day 1. -/
def firstMonday (year : Nat) : Int :=
  let first := daysBeforeYear year + 1
  let day := weekday first
  if day ≤ 3 then (first : Int) - day else (first : Int) + 7 - day

def hasLongIsoYear (year : Nat) : Bool :=
  let day := weekday (daysBeforeYear year + 1)
  day == 3 || (day == 2 && isLeap year)

/-- The date of a day, 1 for Monday, of a week of an ISO year. -/
def ofWeek? (year week day : Nat) : Option Date :=
  if year < 1 || 9999 < year || week < 1 || 53 < week || (week == 53 && !hasLongIsoYear year) ||
      day < 1 || 7 < day then none
  else
    let number := firstMonday year + 7 * ((week : Int) - 1) + ((day : Int) - 1)
    if number < 1 then none else some (Date.ofNumber number.toNat)

end BrowserFlow.Calendar
