import BrowserFlow.Error
import BrowserFlow.Time.Calendar
import BrowserFlow.Yaml.Cursor

/-!
Dates and times of day in YAML scalars.
-/

namespace BrowserFlow.Yaml

/-- A time of day, and how many minutes the clock is ahead of universal time if that is said in numbers. -/
structure ClockTime where
  hour : Nat
  minute : Nat
  second : Nat
  ahead? : Option Int

structure Timestamp where
  date : Calendar.Date
  isPadded : Bool
  time? : Option ClockTime

namespace Timestamp

/-- Between so many and so many digits, as many as there are, and what follows. -/
def digits? (least most : Nat) (cs : List Char) : Option (Nat × List Char) :=
  let ds := (cs.take most).takeWhile Char.isDigit
  if ds.length < least then none
  else some (ds.foldl (fun n c => 10 * n + (c.toNat - 0x30)) 0, cs.drop ds.length)

def after? (c : Char) (cs : List Char) : Option (List Char) :=
  match cs with
  | d :: rest => if c == d then some rest else none
  | [] => none

def isSpace (c : Char) : Bool := c == ' ' || c == '\t'

def zone? (cs : List Char) : Option (Option Int) :=
  match cs.dropWhile isSpace with
  | [] => if cs.isEmpty then some none else none
  | ['Z'] => some none
  | sign :: rest =>
    if sign == '+' || sign == '-' then do
      let (hours, rest) ← digits? 1 2 rest
      let (minutes, rest) ← match rest with
        | ':' :: rest => digits? 2 2 rest
        | rest => some (0, rest)
      let ahead : Int := 60 * hours + minutes
      if rest.isEmpty then some (some (if sign == '-' then -ahead else ahead)) else none
    else none

def clockTime? (cs : List Char) : Option ClockTime := do
  let (hour, rest) ← digits? 1 2 cs
  let (minute, rest) ← digits? 2 2 (← after? ':' rest)
  let (second, rest) ← digits? 2 2 (← after? ':' rest)
  let rest := match rest with
    | '.' :: rest => rest.dropWhile Char.isDigit
    | rest => rest
  return ⟨hour, minute, second, ← zone? rest⟩

def read? (cs : List Char) : Option Timestamp := do
  let (year, rest) ← digits? 4 4 cs
  let rest ← after? '-' rest
  let (month, afterMonth) ← digits? 1 2 rest
  let (day, afterDay) ← digits? 1 2 (← after? '-' afterMonth)
  let isPadded := cs.length - afterDay.length == 10
  match afterDay with
  | [] => return ⟨⟨year, month, day⟩, isPadded, none⟩
  | c :: rest =>
    if c == 'T' || c == 't' then return ⟨⟨year, month, day⟩, isPadded, some (← clockTime? rest)⟩
    else if isSpace c then return ⟨⟨year, month, day⟩, isPadded, some (← clockTime? (rest.dropWhile isSpace))⟩
    else none

/-- Is the text a timestamp also where no tag says so? A date alone must be padded. -/
def isPlain (cs : List Char) : Bool :=
  match read? cs with
  | some t => t.time?.isSome || t.isPadded
  | none => false

def showMinutes (minutes : Int) : String :=
  let days := minutes.fdiv 1440
  let seconds := 60 * minutes.fmod 1440
  let parts := (if days == 0 then [] else [s!"days={days}"]) ++ (if seconds == 0 then [] else [s!"seconds={seconds}"])
  "datetime.timedelta(" ++ (if parts.isEmpty then "0" else ", ".intercalate parts) ++ ")"

def refusal? (t : Timestamp) : Option String :=
  let checks : List (Bool × String) :=
    (match t.time? with
      | some ⟨_, _, _, some ahead⟩ =>
        [(decide (ahead.natAbs < 1440), "offset must be a timedelta strictly between -timedelta(hours=24) and " ++
          s!"timedelta(hours=24), not {showMinutes ahead}")]
      | _ => []) ++
    [(decide (1 ≤ t.date.year), s!"year {t.date.year} is out of range"),
      (decide (1 ≤ t.date.month && t.date.month ≤ 12), "month must be in 1..12"),
      (t.date.isValid, "day is out of range for month")] ++
    (match t.time? with
      | some time =>
        [(decide (time.hour < 24), "hour must be in 0..23"), (decide (time.minute < 60), "minute must be in 0..59"),
          (decide (time.second < 60), "second must be in 0..59")]
      | none => [])
  (checks.find? fun check => !check.1).map (·.2)

end Timestamp

end BrowserFlow.Yaml
