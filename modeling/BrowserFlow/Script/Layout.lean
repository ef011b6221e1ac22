import BrowserFlow.Recording
import BrowserFlow.Script.Step
import BrowserFlow.Value.Same

/-!
The text of a whole script: a header of comments, the test block, the first navigation and one line per
step. Adjacent inputs into the same element become one line with the last value, and a comment marks every
change of the page.
-/

namespace BrowserFlow.Script

def importLine : String := "import \x7b test, expect \x7d from '@playwright/test';"

def idMarker : String := "// Recording ID:"

def createdMarker : String := "// Created:"

def descriptionMarker : String := "// Description:"

def indent : String := "  "

structure Header where
  id : String
  name : Value
  createdAt : Instant
  description : Option Value := none
  targetSite : Option String := none

def Header.ofRecording (r : Recording) : Header :=
  ⟨r.id, r.name, r.createdAt, r.description, r.targetSite⟩

def Header.lines (h : Header) : Except Fault (List String) := do
  let description ← match h.description.bind Value.present? with
    | some v => do
      let text ← quotable v
      pure [descriptionMarker ++ " " ++ String.ofList (escape text.toList)]
    | none => pure []
  let name ← quotableOr "" h.name.given?
  return [importLine, "", idMarker ++ " " ++ h.id, createdMarker ++ " " ++ h.createdAt.headerText] ++
    description ++ ["", "test(" ++ quoted name ++ ", async (\x7b page \x7d) => \x7b"]

def startLines (targetSite : Option String) : List String :=
  match targetSite with
  | some url =>
    if url.isEmpty then []
    else [indent ++ "// Navigate to starting URL", indent ++ (Statement.navigate url).line, ""]
  | none => []

/-- The page of an action, if it is known and another than the last one. -/
def newPage? (last : Option String) (a : Action) : Option String :=
  a.pageUrl.filter fun url => !url.isEmpty && some url != last

def pageComment (last : Option String) (a : Action) : List String :=
  (newPage? last a).toList.map ("// Page navigated to: " ++ ·)

def pageAfter (last : Option String) (a : Action) : Option String := newPage? last a <|> last

def heldLine (held : Option Action) : Except Fault (List String) :=
  match held with
  | some a => do return [(← Step.ofAction a).line]
  | none => .ok []

def continues (held : Option Action) (a : Action) : Bool :=
  match held with
  | some b => (Locator.preferred? b.locator).same (Locator.preferred? a.locator)
  | none => false

/-- The lines of the steps. An input is held back until the next action shows that no later value replaces
    its own; `last` is the page that the script has reached. -/
def bodyLines : Option String → Option Action → List Action → Except Fault (List String)
  | _, held, [] => heldLine held
  | last, held, a :: rest =>
    if a.kind == .input && continues held a then bodyLines last (some a) rest
    else do
      let before ← heldLine held
      if a.kind == .input then
        return before ++ pageComment last a ++ (← bodyLines (pageAfter last a) (some a) rest)
      else
        let step ← Step.ofAction a
        return before ++ pageComment last a ++ [step.line] ++ (← bodyLines (pageAfter last a) none rest)

def joinLines (lines : List String) : String := String.join (lines.map (· ++ "\n"))

/-- The script of a recording; the only record of it that is kept. -/
def render (h : Header) (actions : List Action) : Except Fault String := do
  let header ← h.lines
  let body ← bodyLines h.targetSite none actions
  return joinLines (header ++ startLines h.targetSite ++ body.map (indent ++ ·) ++ ["\x7d);"])

def ofRecording (r : Recording) : Except Fault String := render (Header.ofRecording r) r.actions

end BrowserFlow.Script
