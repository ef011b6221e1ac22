import BrowserFlow.Text.Case
import BrowserFlow.Text.Fields
import BrowserFlow.Value.Number
import BrowserFlow.Yaml.Quoted
import BrowserFlow.Yaml.Timestamp

/-!
What scalars denote. A plain scalar without a tag gets the first tag whose notation it has: a truth value, a number, the
merge key, nothing, a timestamp or the default key; otherwise it is a string.
-/

namespace BrowserFlow.Yaml

def coreTag (name : String) : String := "tag:yaml.org,2002:" ++ name

namespace Scalar

def truths : List (String × Bool) :=
  [("yes", true), ("no", false), ("true", true), ("false", false), ("on", true), ("off", false)]

def isCaseOf (word : String) (cs : List Char) : Bool :=
  let small := word.toList
  let capital := match small with
    | c :: rest => c.toUpper :: rest
    | [] => []
  [small, capital, small.map Char.toUpper].contains cs

def dropSign (cs : List Char) : List Char :=
  match cs with
  | '+' :: rest => rest
  | '-' :: rest => rest
  | _ => cs

def isDigits (cs : List Char) : Bool := !cs.isEmpty && cs.all Char.isDigit

def isGrouped (cs : List Char) : Bool :=
  match cs with
  | c :: rest => c.isDigit && rest.all fun d => d.isDigit || d == '_'
  | [] => false

def isSixtieth (cs : List Char) : Bool :=
  match cs with
  | [c] => c.isDigit
  | [c, d] => '0' ≤ c && c ≤ '5' && d.isDigit
  | _ => false

def isSexagesimal (cs : List Char) : Bool :=
  match Text.splitOn ':' cs with
  | first :: rest => isGrouped first && !rest.isEmpty && rest.all isSixtieth
  | [] => false

def isInt (cs : List Char) : Bool :=
  match dropSign cs with
  | '0' :: 'b' :: ds => !ds.isEmpty && ds.all fun c => c == '0' || c == '1' || c == '_'
  | '0' :: 'x' :: ds => !ds.isEmpty && ds.all fun c => (hexValue? c).isSome || c == '_'
  | '0' :: ds => ds.all fun c => ('0' ≤ c && c ≤ '7') || c == '_'
  | ds => isGrouped ds || isSexagesimal ds

def isExponent (cs : List Char) : Bool :=
  match cs with
  | [] => true
  | c :: sign :: ds => (c == 'e' || c == 'E') && (sign == '+' || sign == '-') && isDigits ds
  | _ => false

def isFloat (cs : List Char) : Bool :=
  let body := dropSign cs
  let isFractionChar (c : Char) : Bool := c.isDigit || c == '_'
  match cs, body with
  | '.' :: rest, _ =>
    (isGrouped (rest.takeWhile isFractionChar) && isExponent (rest.dropWhile isFractionChar)) ||
      isCaseOf "inf" rest || ["nan".toList, "NaN".toList, "NAN".toList].contains rest
  | _, '.' :: rest => isCaseOf "inf" rest
  | _, _ =>
    let whole := body.takeWhile (· != '.')
    match body.dropWhile (· != '.') with
    | '.' :: rest =>
      let tail := rest.dropWhile isFractionChar
      (isGrouped whole && isExponent tail) || (isSexagesimal whole && tail.isEmpty)
    | _ => false

def plainTag (cs : List Char) : String :=
  coreTag <|
    if truths.any fun entry => isCaseOf entry.1 cs then "bool"
    else if isFloat cs then "float"
    else if isInt cs then "int"
    else if cs == ['<', '<'] then "merge"
    else if cs.isEmpty || cs == ['~'] || isCaseOf "null" cs then "null"
    else if Timestamp.isPlain cs then "timestamp"
    else if cs == ['='] then "value"
    else "str"

def readBase (base : Nat) (cs : List Char) : Except Refusal Int :=
  let digit? (c : Char) : Option Nat := (hexValue? c).filter (· < base)
  match cs.foldlM (fun n c => (digit? c).map (base * n + ·)) 0, cs.isEmpty with
  | some n, false => .ok n
  | _, _ => .error (.scalar (.scalar (.malformedInteger base (Text.quote (String.ofList cs)))))

def readDecimal (cs : List Char) : Except Refusal Int := (Value.intOfText (String.ofList cs)).mapError .scalar

/-- Without underscores, with the sign apart. A numeral has a first character. -/
def signed (cs : List Char) : Except Refusal (Bool × List Char) :=
  match cs.filter (· != '_') with
  | [] => .error (.scalar (.scalar .emptyNumeral))
  | c :: rest => .ok (c == '-', if c == '+' || c == '-' then rest else c :: rest)

def readInt (cs : List Char) : Except Refusal Int := do
  let (isNegative, ds) ← signed cs
  let n ← match ds with
    | [] => throw (.scalar (.scalar .emptyNumeral))
    | ['0'] => pure 0
    | '0' :: 'b' :: ds => readBase 2 ds
    | '0' :: 'x' :: ds => readBase 16 ds
    | '0' :: 'o' :: ds => readBase 8 ds
    | '0' :: _ => readBase 8 ds
    | ds =>
      if ds.contains ':' then do
        let parts ← (Text.splitOn ':' ds).mapM readDecimal
        pure (parts.foldl (fun n part => 60 * n + part) 0)
      else readDecimal ds
  return if isNegative then -n else n

def readNumber (cs : List Char) : Except Refusal Float :=
  match Numeral.readFloat cs with
  | some x => .ok x
  | none => .error (.scalar (.scalar (.malformedNumber (Text.quote (String.ofList cs)))))

def readFloat (cs : List Char) : Except Refusal Float := do
  let (isNegative, ds) ← signed (Text.lower (String.ofList cs)).toList
  let x ← if ds == ".inf".toList then pure (1.0 / 0.0)
    else if ds == ".nan".toList then pure (0.0 / 0.0)
    else if ds.contains ':' then do
      let parts ← (Text.splitOn ':' ds).mapM readNumber
      let sum := parts.reverse.foldl (fun (sum, base) part => (sum + part * base, 60.0 * base)) ((0.0 : Float), 1.0)
      pure sum.1
    else readNumber ds
  return if isNegative then -x else x

def readTruth (s : String) : Except Refusal Bool :=
  let word := Text.lower s
  match truths.find? fun entry => entry.1 == word with
  | some (_, b) => .ok b
  | none => .error (.scalar (.missingKey (Text.quote word)))

def readTimestamp (cs : List Char) : Except Refusal Value :=
  match Timestamp.read? cs with
  | none => .error (.scalar (.noMember "NoneType" "groupdict"))
  | some t =>
    match t.refusal? with
    | some text => .error (.scalar (.scalar (.date text)))
    | none => .ok (.foreign (if t.time?.isSome then "datetime" else "date"))

/-- Do the letters of a base64 text come in groups of four, of which the last may be filled? -/
def isBase64 (cs : List Char) : Bool :=
  let count (state : Nat × Nat) (c : Char) : Option (Nat × Nat) :=
    let (letters, fillers) := state
    if c.isAlphanum || c == '+' || c == '/' then some ((letters + 1) % 4, 0)
    else if c == '=' && 2 ≤ letters then if 4 ≤ letters + fillers + 1 then none else some (letters, fillers + 1)
    else some state
  match cs.foldlM count (0, 0) with
  | none => true
  | some (letters, _) => letters == 0

def value (tag text : String) : Except Refusal Value :=
  let cs := text.toList
  if tag == coreTag "str" then .ok (.str text)
  else if tag == coreTag "null" then .ok .null
  else if tag == coreTag "bool" then (readTruth text).map .bool
  else if tag == coreTag "int" then (readInt cs).map .int
  else if tag == coreTag "float" then (readFloat cs).map .float
  else if tag == coreTag "timestamp" then readTimestamp cs
  else if tag == coreTag "binary" then
    if cs.all (fun c => c.toNat < 0x80) && isBase64 cs then .ok (.foreign "bytes") else .error .malformed
  else .error .malformed

end Scalar

end BrowserFlow.Yaml
