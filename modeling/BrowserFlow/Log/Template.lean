import BrowserFlow.Decimal.Fixed
import BrowserFlow.Text.Fields
import BrowserFlow.Value.Number

/-!
Templates of log messages. `%s` and its like stand for the values that come with a message, one after the other or
by their keys.
-/

namespace BrowserFlow.Template

/-- The values of a message: one after the other, or one dictionary, which counts once as a whole. -/
inductive Arguments
  | items (rest : List Value)
  | named (entries : Entries) (isUsed : Bool)

def missing : Fault := .wrongKind "not enough arguments for format string"

def Arguments.next : Arguments → Except Fault (Value × Arguments)
  | items [] => .error missing
  | items (v :: rest) => .ok (v, items rest)
  | named _ true => .error missing
  | named entries false => .ok (.dict entries, named entries true)

structure Slot where
  isLeft : Bool := false
  hasPlus : Bool := false
  hasSpace : Bool := false
  isAlternate : Bool := false
  hasZeros : Bool := false
  width : Nat := 0
  precision : Option Nat := none

def Slot.withFlag? (slot : Slot) : Char → Option Slot
  | '-' => some { slot with isLeft := true }
  | '+' => some { slot with hasPlus := true }
  | ' ' => some { slot with hasSpace := true }
  | '#' => some { slot with isAlternate := true }
  | '0' => some { slot with hasZeros := true }
  | _ => none

def readFlags (slot : Slot) : List Char → Slot × List Char
  | [] => (slot, [])
  | c :: cs =>
    match slot.withFlag? c with
    | some slot => readFlags slot cs
    | none => (slot, c :: cs)

/-- A number, or a star for one of the values. -/
def readSize (cs : List Char) (args : Arguments) : Except Fault (Int × List Char × Arguments) :=
  match cs with
  | '*' :: rest => do
    let (v, args) ← args.next
    match v.integer? with
    | some n => return (n, rest, args)
    | none => throw (.wrongKind "* wants int")
  | cs =>
    let ds := cs.takeWhile Char.isDigit
    .ok (Numeral.natOfDigits ds, cs.drop ds.length, args)

def untilClosing : Nat → List Char → Option (List Char × List Char)
  | _, [] => none
  | depth, c :: cs =>
    if c == ')' && depth == 0 then some ([], cs)
    else
      let depth := if c == '(' then depth + 1 else if c == ')' then depth - 1 else depth
      (untilClosing depth cs).map fun (key, rest) => (c :: key, rest)

def readKey (cs : List Char) (args : Arguments) : Except Fault (Option Value × List Char × Arguments) :=
  match cs, args with
  | '(' :: rest, .named entries _ =>
    match untilClosing 0 rest with
    | none => .error (.malformedTemplate "incomplete format key")
    | some (key, rest) =>
      match Entries.get? entries (String.ofList key) with
      | some v => .ok (some v, rest, .named entries true)
      | none => .error (.missingKey (Text.quote (String.ofList key)))
  | '(' :: _, .items _ => .error (.wrongKind "format requires a mapping")
  | cs, args => .ok (none, cs, args)

def place (slot : Slot) (s : String) : String :=
  let gap := "".pushn ' ' (slot.width - s.length)
  if slot.isLeft then s ++ gap else gap ++ s

def placeNumber (slot : Slot) (isNegative : Bool) (mark body : String) : String :=
  let sign := if isNegative then "-" else if slot.hasPlus then "+" else if slot.hasSpace then " " else ""
  if slot.hasZeros && !slot.isLeft then sign ++ mark ++ Text.padZeros (slot.width - (sign ++ mark).length) body
  else place slot (sign ++ mark ++ body)

def asciiOnly (s : String) : String :=
  String.ofList (s.toList.flatMap fun c =>
    let n := c.toNat
    if n < 0x80 then [c]
    else if n < 0x100 then '\\' :: 'x' :: Text.hexDigits 2 n
    else if n < 0x10000 then '\\' :: 'u' :: Text.hexDigits 4 n
    else '\\' :: 'U' :: Text.hexDigits 8 n)

def upper (s : String) : String := String.ofList (s.toList.map Char.toUpper)

def placeText (slot : Slot) (s : String) : String :=
  place slot (match slot.precision with
    | some n => String.ofList (s.toList.take n)
    | none => s)

def placeInteger (slot : Slot) (base : Nat) (mark : String) (n : Int) : String :=
  placeNumber slot (n < 0) (if slot.isAlternate then mark else "")
    (Text.padZeros (slot.precision.getD 1) (String.ofList (Nat.toDigits base n.natAbs)))

def placeFloat (slot : Slot) (kind : Char) (x : Float) : String :=
  let precision := slot.precision.getD 6
  match Binary.ofFloat x with
  | .undefined => placeNumber slot false "" "nan"
  | .infinite isNegative => placeNumber slot isNegative "" "inf"
  | .finite isNegative m q =>
    placeNumber slot isNegative "" <|
      if kind == 'f' then Decimal.fixed slot.isAlternate precision m q
      else if kind == 'e' then Decimal.scientific slot.isAlternate precision m q
      else Decimal.general slot.isAlternate precision m q

def wholeNumber (kind : Char) (v : Value) : Except Fault Int :=
  match v.integer? with
  | some n => .ok n
  | none => .error (.wrongKind s!"%{kind} format: an integer is required, not {v.kind}")

def decimalNumber (kind : Char) (v : Value) : Except Fault Int :=
  match v, v.integer? with
  | .float x, _ => Value.truncate x
  | _, some n => .ok n
  | _, none => .error (.wrongKind s!"%{kind} format: a real number is required, not {v.kind}")

def realNumber (v : Value) : Except Fault Float :=
  match v, v.integer? with
  | .float x, _ => .ok x
  | _, some n => Value.floatOfInt n
  | _, none => .error (.wrongKind s!"must be real number, not {v.kind}")

def character (v : Value) : Except Fault String :=
  match v, v.integer? with
  | .str s, _ => if s.length == 1 then .ok s else .error (.wrongKind "%c requires int or char")
  | _, some n =>
    if 0 ≤ n && n < 0x110000 then .ok (String.singleton (Char.ofNat n.toNat))
    else .error .noCharacter
  | _, none => .error (.wrongKind "%c requires int or char")

/-- A value as the letter after the slot wants it; `position` is where the letter stands. -/
def render (slot : Slot) (kind : Char) (position : Nat) (v : Value) : Except Fault String :=
  match kind with
  | 's' => .ok (placeText slot v.text)
  | 'r' => .ok (placeText slot v.display)
  | 'a' => .ok (placeText slot (asciiOnly v.display))
  | 'd' | 'i' | 'u' => (decimalNumber kind v).map (placeInteger slot 10 "")
  | 'x' => (wholeNumber kind v).map (placeInteger slot 16 "0x")
  | 'X' => (wholeNumber kind v).map fun n => upper (placeInteger slot 16 "0x" n)
  | 'o' => (wholeNumber kind v).map (placeInteger slot 8 "0o")
  | 'e' | 'f' | 'g' => (realNumber v).map (placeFloat slot kind)
  | 'E' | 'F' | 'G' => (realNumber v).map fun x => upper (placeFloat slot kind.toLower x)
  | 'c' => (character v).map (place slot)
  | c =>
    let shown := if 0x1F ≤ c.toNat && c.toNat ≤ 0x7E then c else '?'
    let code := String.ofList (Nat.toDigits 16 c.toNat)
    .error (.malformedTemplate s!"unsupported format character '{shown}' (0x{code}) at index {position}")

def fillFrom (size : Nat) : Nat → List Char → Arguments → Except Fault String
  | 0, _, _ => .ok ""
  | fuel + 1, cs, args =>
    match cs with
    | [] =>
      match args with
      | .items (_ :: _) => .error (.wrongKind "not all arguments converted during string formatting")
      | _ => .ok ""
    | '%' :: '%' :: rest => return "%" ++ (← fillFrom size fuel rest args)
    | '%' :: rest => do
      let (v, rest, args) ← readKey rest args
      let (slot, rest) := readFlags {} rest
      let (width, rest, args) ← readSize rest args
      let slot := { slot with isLeft := slot.isLeft || width < 0, width := width.natAbs }
      let (slot, rest, args) ← match rest with
        | '.' :: rest => do
          let (n, rest, args) ← readSize rest args
          pure ({ slot with precision := some n.toNat }, rest, args)
        | rest => pure (slot, rest, args)
      let rest := match rest with
        | c :: tail => if c == 'h' || c == 'l' || c == 'L' then tail else rest
        | [] => []
      match rest with
      | [] => throw (.malformedTemplate "incomplete format")
      | kind :: rest =>
        let (v, args) ← match v with
          | some v => pure (v, args)
          | none => args.next
        let text ← render slot kind (size - rest.length - 1) v
        return text ++ (← fillFrom size fuel rest args)
    | c :: rest => do return String.singleton c ++ (← fillFrom size fuel rest args)

/-- A message from its template. Without values a template is a message as it stands. -/
def fill (template : String) (values : List Value) : Except Fault String :=
  let args : Arguments := match values with
    | [.dict (entry :: entries)] => .named (entry :: entries) false
    | values => .items values
  if values.isEmpty then .ok template
  else fillFrom template.length (template.length + 1) template.toList args

end BrowserFlow.Template
