import BrowserFlow.Script.Statement
import BrowserFlow.Text.Blank
import BrowserFlow.Text.Digit
import BrowserFlow.Text.Lines

/-!
Reading commands back from a script. A line is a command if it begins like one: what follows the recognised
part, such as a comment, is ignored. All other lines are inert, so scripts edited by hand can still be read.
-/

namespace BrowserFlow.Script

def expect : List Char → List Char → Option (List Char)
  | [], cs => some cs
  | _ :: _, [] => none
  | w :: ws, c :: cs => if c == w then expect ws cs else none

/-- The text after an optional `await`, which needs a blank after it. -/
def skipAwait (cs : List Char) : List Char :=
  match expect "await".toList cs with
  | some (c :: rest) => if Text.isBlank c then Text.trimLeft rest else cs
  | _ => cs

def call? (name : String) (cs : List Char) : Option (List Char) := do
  let cs ← expect "page.".toList (skipAwait cs)
  let cs ← expect name.toList cs
  let cs ← expect ['('] cs
  return Text.trimLeft cs

def unescapedText (body : List Char) : String := String.ofList (unescape body)

def textCall? (name : String) (cs : List Char) : Option String := do
  let (body, _) ← literal (← call? name cs)
  return unescapedText body

def textsCall? (name : String) (cs : List Char) : Option (String × String) := do
  let (first, cs) ← literal (← call? name cs)
  let cs ← expect [','] cs
  let (second, _) ← literal (Text.trimLeft cs)
  return (unescapedText first, unescapedText second)

def digits? (cs : List Char) : Option (List Char × List Char) :=
  let ds := cs.takeWhile Text.isDigit
  if ds.isEmpty then none else some (ds, cs.dropWhile Text.isDigit)

def signedDigits? : List Char → Option (List Char × List Char)
  | '-' :: cs => (digits? cs).map fun (ds, rest) => ('-' :: ds, rest)
  | cs => digits? cs

def expectSpaced (word : String) (cs : List Char) : Option (List Char) := expect word.toList (Text.trimLeft cs)

def scrollCall? (cs : List Char) : Option (String × String) := do
  let cs ← call? "evaluate" cs
  let cs ← expect "()".toList cs
  let cs ← expectSpaced "=>" cs
  let cs ← expectSpaced "window.scrollTo(" cs
  let (x, cs) ← signedDigits? (Text.trimLeft cs)
  let cs ← expectSpaced "," cs
  let (y, cs) ← signedDigits? (Text.trimLeft cs)
  let _ ← expectSpaced ")" cs
  return (String.ofList x, String.ofList y)

def waitCall? (cs : List Char) : Option String := do
  let (ms, cs) ← digits? (← call? "waitForTimeout" cs)
  let _ ← expectSpaced ")" cs
  return String.ofList ms

def Statement.ofCall? (cs : List Char) : Option Statement :=
  (textCall? "goto" cs).map .navigate <|>
  (textCall? "click" cs).map .click <|>
  (textsCall? "fill" cs).map (fun (selector, value) => .fill selector value) <|>
  (textCall? "keyboard.press" cs).map .keyPress <|>
  (textsCall? "selectOption" cs).map (fun (selector, value) => .select selector value) <|>
  (scrollCall? cs).map (fun (x, y) => .scroll x y) <|>
  (waitCall? cs).map .wait

/-- The statement of a line without blanks around it. Of comments only steps by hand are statements. -/
def Statement.ofLine? (line : List Char) : Option Statement :=
  if (expect "import ".toList line).isSome then none
  else if (expect "//".toList line).isSome then
    (expect manualStepMarker.toList line).map fun rest => .manualStep (String.ofList (Text.trim rest))
  else Statement.ofCall? line

def Command.ofLine? (number : Nat) (raw : List Char) : Option Command :=
  let line := Text.trim raw
  (Statement.ofLine? line).map fun statement => ⟨statement, number, String.ofList line⟩

def commands (text : String) : List Command :=
  ((Text.splitLines text.toList).zipIdx 1).filterMap fun (raw, number) => Command.ofLine? number raw

end BrowserFlow.Script
