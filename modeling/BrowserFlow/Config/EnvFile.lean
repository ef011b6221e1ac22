import BrowserFlow.Config.Environment
import BrowserFlow.Text.Blank

/-!
Files that set variables, one `NAME=value` after the other. Values may stand in quotes and may then go over several
lines; `${NAME}` stands for another variable. Lines that break the rules are passed over.
-/

namespace BrowserFlow.EnvFile

abbrev Binding := String × Option String

/-- A blank character that ends no line. -/
def isSpace (c : Char) : Bool := Text.isBlank c && c != '\n' && c != '\r'

def skipSpace (cs : List Char) : List Char := cs.dropWhile isSpace

def skipExport (cs : List Char) : List Char :=
  let rest := cs.drop 6
  if cs.take 6 == "export".toList && (rest.head?.any isSpace) then skipSpace rest else cs

/-- The name, or none where a comment begins. Here and below the rest of the text is returned too, also if the
    reading stops. -/
def readName (cs : List Char) : Except (List Char) (Option String × List Char) :=
  match cs with
  | '#' :: _ => .ok (none, cs)
  | '\'' :: body =>
    let name := body.takeWhile (· != '\'')
    match name.isEmpty, body.drop name.length with
    | false, _ :: rest => .ok (some (String.ofList name), rest)
    | _, _ => .error cs
  | _ =>
    let name := cs.takeWhile fun c => !(c == '=' || c == '#' || Text.isBlank c)
    if name.isEmpty then .error cs else .ok (some (String.ofList name), cs.drop name.length)

def untilQuote (quote : Char) : Char → List Char → Option (List Char × List Char)
  | _, [] => none
  | previous, c :: cs =>
    if c == quote && previous != '\\' then some ([], cs)
    else (untilQuote quote c cs).map fun (text, rest) => (c :: text, rest)

def untilLastQuote (quote : Char) (cs : List Char) : Option (List Char × List Char) :=
  let back := cs.reverse
  match back.dropWhile (· != quote) with
  | [] => none
  | _ :: text => some (text.reverse, (back.takeWhile (· != quote)).reverse)

def escaped? (quote c : Char) : Option Char :=
  if c == '\\' || c == '\'' then some c
  else if quote == '"' then
    match c with
    | '"' => some '"'
    | 'a' => some (Char.ofNat 0x07)
    | 'b' => some (Char.ofNat 0x08)
    | 'f' => some (Char.ofNat 0x0C)
    | 'n' => some '\n'
    | 'r' => some '\r'
    | 't' => some '\t'
    | 'v' => some (Char.ofNat 0x0B)
    | _ => none
  else none

def unescape (quote : Char) : List Char → List Char
  | [] => []
  | [c] => [c]
  | c :: d :: rest =>
    match if c == '\\' then escaped? quote d else none with
    | some e => e :: unescape quote rest
    | none => c :: unescape quote (d :: rest)

def cutComment : List Char → List Char
  | [] => []
  | c :: cs => if Text.isBlank c && (cs.dropWhile Text.isBlank).head? == some '#' then [] else c :: cutComment cs

def readValue (cs : List Char) : Except (List Char) (String × List Char) :=
  match cs with
  | [] => .ok ("", cs)
  | c :: body =>
    if c == '\'' || c == '"' then
      match untilQuote c ' ' body <|> untilLastQuote c body with
      | some (text, rest) => .ok (String.ofList (unescape c text), rest)
      | none => .error cs
    else
      let line := cs.takeWhile fun c => c != '\n' && c != '\r'
      .ok (String.ofList (Text.trimRight (cutComment line)), cs.drop line.length)

def skipComment (cs : List Char) : List Char :=
  match skipSpace cs with
  | '#' :: rest => rest.dropWhile fun c => c != '\n' && c != '\r'
  | _ => cs

def readEnd (cs : List Char) : Except (List Char) (List Char) :=
  match skipSpace cs with
  | [] => .ok []
  | c :: rest => if c == '\n' || c == '\r' then .ok rest else .error cs

def readBinding (cs : List Char) : Except (List Char) (Option Binding × List Char) := do
  let (name, rest) ← readName (skipExport cs)
  let (value, rest) ← match skipSpace rest with
    | '=' :: rest => (readValue (skipSpace rest)).map fun (s, rest) => (some s, rest)
    | rest => .ok (none, rest)
  let rest ← readEnd (skipComment rest)
  return (name.map (·, value), rest)

/-- All bindings. After a line that breaks the rules the reading goes on with the next line. -/
def readBindings : Nat → List Char → List Binding
  | 0, _ => []
  | fuel + 1, cs =>
    match cs.dropWhile Text.isBlank with
    | [] => []
    | cs =>
      match readBinding cs with
      | .ok (some binding, rest) => binding :: readBindings fuel rest
      | .ok (none, rest) => readBindings fuel rest
      | .error rest => readBindings fuel ((rest.dropWhile fun c => c != '\n' && c != '\r').drop 1)

/-- A reference to a variable, after the dollar sign and the brace: its name and the text for want of it. -/
def reference? (cs : List Char) : Option (String × String × List Char) :=
  let name := cs.takeWhile fun c => c != '\x7d' && c != ':'
  match cs.drop name.length with
  | '\x7d' :: rest => some (String.ofList name, "", rest)
  | ':' :: '-' :: rest =>
    let default := rest.takeWhile (· != '\x7d')
    match rest.drop default.length with
    | _ :: rest => some (String.ofList name, String.ofList default, rest)
    | [] => none
  | _ => none

def interpolate (look : String → Option String) : Nat → List Char → List Char
  | 0, cs => cs
  | fuel + 1, cs =>
    match cs with
    | [] => []
    | '$' :: '\x7b' :: rest =>
      match reference? rest with
      | some (name, default, rest) => ((look name).getD default).toList ++ interpolate look fuel rest
      | none => '$' :: interpolate look fuel ('\x7b' :: rest)
    | c :: rest => c :: interpolate look fuel rest

/-- The bindings with references replaced. A reference means the environment first and then the bindings before. -/
def resolve (env : Environment) : List Binding → List Binding → List Binding
  | found, [] => found
  | found, (name, value) :: rest =>
    let earlier (name : String) : Option String :=
      (found.find? fun binding => binding.1 == name).map fun binding => binding.2.getD ""
    let look (name : String) : Option String := env.get? name <|> earlier name
    let value := value.map fun s => String.ofList (interpolate look (s.length + 1) s.toList)
    let found := if found.any fun binding => binding.1 == name then
      found.map fun binding => if binding.1 == name then (name, value) else binding
    else found ++ [(name, value)]
    resolve env found rest

/-- The environment with the variables of a file that it does not have itself. -/
def provide (env : Environment) (cs : List Char) : Environment :=
  (resolve env [] (readBindings (cs.length + 1) cs)).foldl (fun env (name, value) =>
    match value with
    | some s => env.provide name s
    | none => env) env

end BrowserFlow.EnvFile
