import BrowserFlow.Decimal.Numeral
import BrowserFlow.Value.Basic

/-!
Reading JSON text. Beside the standard, `NaN`, `Infinity` and `-Infinity` are numbers; integers are exact up
to the length that is converted at all; of entries with the same key the last counts. Raw control
characters in strings and text after the value are refused. Half of a surrogate pair reads as U+FFFD.
-/

namespace BrowserFlow.Json

def isSpace (c : Char) : Bool := c == ' ' || c == '\t' || c == '\n' || c == '\r'

def skipSpace (cs : List Char) : List Char := cs.dropWhile isSpace

def hexValue? (c : Char) : Option Nat :=
  if c.isDigit then some (c.toNat - 0x30)
  else if 'a' ≤ c && c ≤ 'f' then some (c.toNat - 0x61 + 10)
  else if 'A' ≤ c && c ≤ 'F' then some (c.toNat - 0x41 + 10)
  else none

def hex4? : List Char → Option (Nat × List Char)
  | a :: b :: c :: d :: rest => do
    let n := (← hexValue? a) * 4096 + (← hexValue? b) * 256 + (← hexValue? c) * 16 + (← hexValue? d)
    some (n, rest)
  | _ => none

def isHighHalf (n : Nat) : Bool := 0xD800 ≤ n && n < 0xDC00

def isLowHalf (n : Nat) : Bool := 0xDC00 ≤ n && n < 0xE000

def replacement : Char := Char.ofNat 0xFFFD

/-- The character after `\u`: a high half takes the low half that follows it. -/
def unicodeEscape? (cs : List Char) : Option (Char × List Char) := do
  let (n, rest) ← hex4? cs
  if isHighHalf n then
    match rest with
    | '\\' :: 'u' :: tail =>
      match hex4? tail with
      | some (low, rest') =>
        if isLowHalf low then some (Char.ofNat (0x10000 + (n - 0xD800) * 0x400 + (low - 0xDC00)), rest')
        else some (replacement, rest)
      | none => some (replacement, rest)
    | _ => some (replacement, rest)
  else if isLowHalf n then some (replacement, rest)
  else some (Char.ofNat n, rest)

def simpleEscape? : Char → Option Char
  | '"' => some '"'
  | '\\' => some '\\'
  | '/' => some '/'
  | 'b' => some (Char.ofNat 8)
  | 'f' => some (Char.ofNat 12)
  | 'n' => some '\n'
  | 'r' => some '\r'
  | 't' => some '\t'
  | _ => none

def readString : Nat → List Char → Option (List Char × List Char)
  | 0, _ => none
  | _, [] => none
  | fuel + 1, c :: cs =>
    if c == '"' then some ([], cs)
    else if c.toNat < 0x20 then none
    else if c == '\\' then
      match cs with
      | 'u' :: rest => do
        let (d, rest) ← unicodeEscape? rest
        let (text, rest) ← readString fuel rest
        some (d :: text, rest)
      | e :: rest => do
        let d ← simpleEscape? e
        let (text, rest) ← readString fuel rest
        some (d :: text, rest)
      | [] => none
    else do
      let (text, rest) ← readString fuel cs
      some (c :: text, rest)

/-- Digits of a number without leading zeros. -/
def readWhole : List Char → Option (List Char × List Char)
  | '0' :: rest => some (['0'], rest)
  | cs =>
    let ds := cs.takeWhile Char.isDigit
    if ds.isEmpty then none else some (ds, cs.dropWhile Char.isDigit)

def readFraction : List Char → List Char × List Char
  | '.' :: cs =>
    let ds := cs.takeWhile Char.isDigit
    if ds.isEmpty then ([], '.' :: cs) else (ds, cs.dropWhile Char.isDigit)
  | cs => ([], cs)

def readExponent (cs : List Char) : Option Int × List Char :=
  match cs with
  | c :: rest =>
    if c == 'e' || c == 'E' then
      let (negative, tail) := Numeral.splitSign rest
      let ds := tail.takeWhile Char.isDigit
      if ds.isEmpty then (none, cs)
      else
        let n := Numeral.natOfDigits ds
        (some (if negative then -(n : Int) else n), tail.dropWhile Char.isDigit)
    else (none, cs)
  | [] => (none, cs)

def readNumber (negative : Bool) (cs : List Char) : Option (Value × List Char) := do
  let (whole, rest) ← readWhole cs
  let (fraction, rest) := readFraction rest
  let (exponent, rest) := readExponent rest
  if fraction.isEmpty && exponent.isNone then
    if Numeral.maxDigits < whole.length then none
    else
      let n := Numeral.natOfDigits whole
      some (.int (if negative then -(n : Int) else n), rest)
  else
    let e := exponent.getD 0 - fraction.length
    some (.float (Numeral.nearestFloat negative (Numeral.natOfDigits (whole ++ fraction)) e), rest)

def afterWord? (word : String) (cs : List Char) : Option (List Char) :=
  if word.toList.isPrefixOf cs then some (cs.drop word.length) else none

def readWord (cs : List Char) : Option (Value × List Char) :=
  let words : List (String × Value) :=
    [("null", .null), ("true", .bool true), ("false", .bool false), ("NaN", .float (0.0 / 0.0)),
      ("Infinity", .float (1.0 / 0.0)), ("-Infinity", .float (-1.0 / 0.0))]
  words.findSome? fun (word, v) => (afterWord? word cs).map (v, ·)

mutual

def readValue : Nat → List Char → Option (Value × List Char)
  | 0, _ => none
  | fuel + 1, cs =>
    match cs with
    | [] => none
    | '"' :: rest => do
      let (text, rest) ← readString fuel rest
      some (.str (String.ofList text), rest)
    | '[' :: rest =>
      match skipSpace rest with
      | ']' :: rest => some (.list [], rest)
      | rest => do
        let (items, rest) ← readItems fuel rest
        some (.list items, rest)
    | '\x7b' :: rest =>
      match skipSpace rest with
      | '\x7d' :: rest => some (.dict [], rest)
      | rest => do
        let (pairs, rest) ← readPairs fuel rest
        some (.dict (Entries.collect pairs), rest)
    | c :: rest =>
      match readWord cs with
      | some found => some found
      | none => if c == '-' then readNumber true rest else readNumber false cs

def readItems : Nat → List Char → Option (List Value × List Char)
  | 0, _ => none
  | fuel + 1, cs => do
    let (v, rest) ← readValue fuel cs
    match skipSpace rest with
    | ']' :: rest => some ([v], rest)
    | ',' :: rest => do
      let (vs, rest) ← readItems fuel (skipSpace rest)
      some (v :: vs, rest)
    | _ => none

def readPairs : Nat → List Char → Option (List (String × Value) × List Char)
  | 0, _ => none
  | fuel + 1, cs => do
    match cs with
    | '"' :: rest => do
      let (key, rest) ← readString fuel rest
      match skipSpace rest with
      | ':' :: rest => do
        let (v, rest) ← readValue fuel (skipSpace rest)
        match skipSpace rest with
        | '\x7d' :: rest => some ([(String.ofList key, v)], rest)
        | ',' :: rest => do
          let (pairs, rest) ← readPairs fuel (skipSpace rest)
          some ((String.ofList key, v) :: pairs, rest)
        | _ => none
      | _ => none
    | _ => none

end

def parse? (cs : List Char) : Option Value := do
  let (v, rest) ← readValue (2 * cs.length + 2) (skipSpace cs)
  if (skipSpace rest).isEmpty then some v else none

end BrowserFlow.Json
