import BrowserFlow.Decimal.Power
import BrowserFlow.Text.Utf8
import BrowserFlow.Time.Instant

/-!
Reading ISO 8601 texts: calendar dates and week dates with or without dashes, one separator character of any
kind, a time of up to three two-digit parts with a fraction, and an offset of the same shape. Only the first
six digits of a fraction count.
-/

namespace BrowserFlow.Iso8601

/-- A date and time as read: the microseconds count as if they were universal time, and the offset, if one
    was given, has still to be taken off. -/
structure Reading where
  micros : Int
  offset : Option Int
  deriving DecidableEq, Repr

def digits? : Nat → Nat → List Char → Option (Nat × List Char)
  | 0, acc, cs => some (acc, cs)
  | _ + 1, _, [] => none
  | n + 1, acc, c :: cs => if c.isDigit then digits? n (10 * acc + (c.toNat - 0x30)) cs else none

def head (cs : List Char) : Char := cs.headD (Char.ofNat 0)

/-- The length of the date part, from which the separator follows. Where week dates leave a choice, digits
    decide. -/
def datePartLength? (cs : List Char) : Option Nat :=
  let at' (i : Nat) : Char := head (cs.drop i)
  let length := (Utf8.encode cs).length
  if length == 7 then some 7
  else if at' 4 == '-' then
    if at' 5 == 'W' then
      if length < 8 then none
      else if 8 < length && at' 8 == '-' then
        if length == 9 then none
        else if 10 < length && (at' 10).isDigit then some 8
        else some 10
      else some 8
    else some 10
  else if at' 4 == 'W' then
    let pos := 7 + ((cs.drop 7).takeWhile Char.isDigit).length
    if pos < 9 then some pos
    else if pos % 2 == 0 then some 7
    else some 8
  else some 8

/-- A week date after its `W`; `length` is the length of the whole date part and `read` what has been read. -/
def weekDate? (year : Nat) (dashed : Bool) (length read : Nat) (cs : List Char) : Option Calendar.Date := do
  let (week, cs) ← digits? 2 0 cs
  if read + 2 < length then
    let cs ← if dashed then (if head cs == '-' then some (cs.drop 1) else none) else some cs
    let (day, _) ← digits? 1 0 cs
    Calendar.ofWeek? year week day
  else Calendar.ofWeek? year week 1

def date? (length : Nat) (cs : List Char) : Option Calendar.Date := do
  let (year, cs) ← digits? 4 0 cs
  let dashed := head cs == '-'
  let cs := if dashed then cs.drop 1 else cs
  let read := if dashed then 5 else 4
  if head cs == 'W' then weekDate? year dashed length (read + 1) (cs.drop 1)
  else
    let (month, cs) ← digits? 2 0 cs
    let cs ← if dashed then (if head cs == '-' then some (cs.drop 1) else none) else some cs
    let (day, _) ← digits? 2 0 cs
    if (if dashed then 10 else 8) == length then some ⟨year, month, day⟩ else none

/-- Hours, minutes, seconds and microseconds, and whether text remains that belongs to none of them. -/
structure Clock where
  hour : Nat
  minute : Nat
  second : Nat
  micro : Nat
  remains : Bool

def fraction? (n : Nat) (cs : List Char) : Option (Nat × Bool) := do
  let width := min 6 n
  let (value, cs) ← digits? width 0 cs
  some (value * tenTo (6 - width), head (cs.dropWhile Char.isDigit) != Char.ofNat 0)

/-- The parts of a time that ends `n` bytes further on. Whether parts are separated by colons is decided
    after the first; `parts` holds those read so far, latest first, and `left` how many may follow. -/
def clockParts (colons : Bool) (parts : List Nat) : Nat → Nat → List Char → Option Clock
  | 0, n, cs => do
    let (micro, remains) ← fraction? n cs
    finish parts micro remains
  | left + 1, n, cs => do
    let (value, cs) ← digits? 2 0 cs
    let c := head cs
    let colons := if parts.isEmpty then c == ':' else colons
    let parts := value :: parts
    if n ≤ 3 then finish parts 0 (c != Char.ofNat 0)
    else if colons && c == ':' then clockParts colons parts left (n - 3) (cs.drop 1)
    else if c == '.' || c == ',' then do
      let (micro, remains) ← fraction? (n - 3) (cs.drop 1)
      finish parts micro remains
    else if !colons then clockParts colons parts left (n - 2) cs
    else none
where
  finish (parts : List Nat) (micro : Nat) (remains : Bool) : Option Clock :=
    match parts.reverse with
    | [h] => some ⟨h, 0, 0, micro, remains⟩
    | [h, m] => some ⟨h, m, 0, micro, remains⟩
    | [h, m, s] => some ⟨h, m, s, micro, remains⟩
    | _ => none

/-- A time and the offset after it; an offset of a whole day or more is refused. -/
def time? (cs : List Char) : Option (Clock × Option Int) := do
  let isMark (c : Char) : Bool := c == '+' || c == '-' || c == 'Z'
  let (time, shift) := cs.span (!isMark ·)
  let clock ← clockParts true [] 3 (Utf8.encode time).length cs
  match shift with
  | [] => if clock.remains then none else some (clock, none)
  | 'Z' :: rest => if head rest == Char.ofNat 0 then some (clock, some 0) else none
  | sign :: rest => do
    let shift ← clockParts true [] 3 (Utf8.encode rest).length rest
    if shift.remains then none
    else
      let seconds := (shift.hour * 3600 + shift.minute * 60 + shift.second : Nat)
      let micros : Int := if seconds == 0 then 0 else seconds * 1000000 + shift.micro
      if 86400000000 ≤ micros then none
      else some (clock, some (if sign == '-' then -micros else micros))

def read? (cs : List Char) : Option Reading := do
  let length ← datePartLength? cs
  let date ← date? length cs
  let rest := cs.drop length
  let (clock, offset) ←
    if rest.isEmpty then some (⟨0, 0, 0, 0, false⟩, none) else time? (rest.drop 1)
  if date.isValid && clock.hour < 24 && clock.minute < 60 && clock.second < 60 then
    let micros := ((clock.hour * 60 + clock.minute) * 60 + clock.second) * 1000000 + clock.micro
    some ⟨(Instant.ofDate date micros).micros, offset⟩
  else none

end BrowserFlow.Iso8601
