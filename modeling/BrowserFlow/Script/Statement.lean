import BrowserFlow.Script.Literal

/-!
What a line of a script can say. `Statement.line` writes a statement the way scripts have it; numbers are kept
as the digits they are written with.
-/

namespace BrowserFlow.Script

inductive Statement
  | navigate (url : String)
  | click (selector : String)
  | fill (selector value : String)
  | keyPress (key : String)
  | select (selector value : String)
  | scroll (x y : String)
  | wait (ms : String)
  | manualStep (description : String)
  deriving DecidableEq, Repr, Inhabited

def manualStepMarker : String := "// MANUAL STEP:"

def quoted (s : String) : String := "'" ++ String.ofList (escape s.toList) ++ "'"

namespace Statement

def word : Statement → String
  | navigate _ => "navigate"
  | click _ => "click"
  | fill _ _ => "fill"
  | keyPress _ => "key_press"
  | select _ _ => "select"
  | scroll _ _ => "scroll"
  | wait _ => "wait"
  | manualStep _ => "manual_step"

def arguments : Statement → List String
  | navigate url => [url]
  | click selector => [selector]
  | fill selector value => [selector, value]
  | keyPress key => [key]
  | select selector value => [selector, value]
  | scroll x y => [x, y]
  | wait ms => [ms]
  | manualStep description => [description]

def isExecutable : Statement → Bool
  | manualStep _ => false
  | _ => true

def line : Statement → String
  | navigate url => "await page.goto(" ++ quoted url ++ ");"
  | click selector => "await page.click(" ++ quoted selector ++ ");"
  | fill selector value => "await page.fill(" ++ quoted selector ++ ", " ++ quoted value ++ ");"
  | keyPress key => "await page.keyboard.press(" ++ quoted key ++ ");"
  | select selector value => "await page.selectOption(" ++ quoted selector ++ ", " ++ quoted value ++ ");"
  | scroll x y => "await page.evaluate(() => window.scrollTo(" ++ x ++ ", " ++ y ++ "));"
  | wait ms => "await page.waitForTimeout(" ++ ms ++ ");"
  | manualStep description => manualStepMarker ++ " " ++ description

end Statement

/-- A statement at its line of a script, counted from 1; `source` is the line without blanks around it. -/
structure Command where
  statement : Statement
  line : Nat
  source : String
  deriving DecidableEq, Repr, Inhabited

end BrowserFlow.Script
