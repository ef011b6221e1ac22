import BrowserFlow.Time.Calendar

/-!
Instants, counted in microseconds from the start of 1970 in universal time, and their texts: the full ISO
form of records and the millisecond form of script headers.
-/

namespace BrowserFlow

structure Instant where
  micros : Int
  deriving DecidableEq, Repr, Inhabited

namespace Instant

def epoch : Instant := ⟨0⟩

def epochDay : Int := 719163

def microsPerDay : Int := 86400000000

def isRepresentable (t : Instant) : Bool := -62135596800000000 ≤ t.micros && t.micros < 253402300800000000

def date (t : Instant) : Calendar.Date :=
  Calendar.Date.ofNumber (t.micros / microsPerDay + epochDay).toNat

def timeOfDay (t : Instant) : Nat := (t.micros % microsPerDay).toNat

def hour (t : Instant) : Nat := t.timeOfDay / 3600000000

def minute (t : Instant) : Nat := t.timeOfDay / 60000000 % 60

def second (t : Instant) : Nat := t.timeOfDay / 1000000 % 60

def microsecond (t : Instant) : Nat := t.timeOfDay % 1000000

def ofDate (d : Calendar.Date) (micros : Nat) : Instant :=
  ⟨((d.number : Int) - epochDay) * microsPerDay + micros⟩

def digits : Nat → Nat → List Char
  | 0, _ => []
  | width + 1, n => digits width (n / 10) ++ [Nat.digitChar (n % 10)]

def monthToSecond (t : Instant) (between : Char) (colon : Char) : List Char :=
  digits 2 t.date.month ++ ['-'] ++ digits 2 t.date.day ++ [between] ++ digits 2 t.hour ++ [colon] ++
    digits 2 t.minute ++ [colon] ++ digits 2 t.second

/-- The ISO form of records: microseconds only when they are not zero. -/
def isoText (t : Instant) : String :=
  let fraction := if t.microsecond == 0 then [] else '.' :: digits 6 t.microsecond
  String.ofList (digits 4 t.date.year ++ ['-'] ++ t.monthToSecond 'T' ':' ++ fraction ++ "+00:00".toList)

/-- The form of script headers: milliseconds and a final `Z`. The year has no leading zeros. -/
def headerText (t : Instant) : String :=
  String.ofList ((toString t.date.year).toList ++ ['-'] ++ t.monthToSecond 'T' ':' ++ ['.'] ++
    digits 3 (t.microsecond / 1000) ++ ['Z'])

def nameText (t : Instant) : String :=
  String.ofList ((toString t.date.year).toList ++ ['-'] ++ t.monthToSecond 'T' '-')

def logText (t : Instant) : String :=
  String.ofList ((toString t.date.year).toList ++ ['-'] ++ t.monthToSecond ' ' ':' ++ [','] ++
    digits 3 (t.microsecond / 1000))

end Instant

end BrowserFlow
