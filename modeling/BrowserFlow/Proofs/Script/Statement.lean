import BrowserFlow.Proofs.Decimal.Numeral
import BrowserFlow.Proofs.Script.Grammar
import BrowserFlow.Script.Layout

/-!
The lines of commands are texts of the grammar, with their arguments escaped.
-/

namespace BrowserFlow

namespace Text

theorem AreDigits.run {ds : List Char} (digits : AreDigits ds) : IsRun ds :=
  ⟨digits.1, fun d member => isDigit_ascii (digits.2 d member)⟩

theorem IsSignedNumeral.signedRun {ds : List Char} (numeral : IsSignedNumeral ds) : IsSignedRun ds :=
  numeral.imp AreDigits.run fun ⟨run, sign, digits⟩ => ⟨run, sign, digits.run⟩

end Text

namespace Script

namespace Statement

/-- The arguments have the form that lines have them in: numbers are numerals, a wait is not negative, and a
    step by hand has no blanks at its ends. Quoted arguments may be any text. -/
def Readable : Statement → Prop
  | scroll x y => Text.IsSignedNumeral x.toList ∧ Text.IsSignedNumeral y.toList
  | wait ms => Text.AreDigits ms.toList
  | manualStep description => Text.Trimmed description.toList
  | _ => True

/-- The statement with its arguments as a line has them. -/
def encoded : Statement → Statement
  | navigate url => navigate (String.ofList (escape url.toList))
  | click selector => click (String.ofList (escape selector.toList))
  | fill selector value => fill (String.ofList (escape selector.toList)) (String.ofList (escape value.toList))
  | keyPress key => keyPress (String.ofList (escape key.toList))
  | select selector value => select (String.ofList (escape selector.toList)) (String.ofList (escape value.toList))
  | s => s

end Statement

theorem quoted_trimLeft (s : String) (rest : List Char) :
    Text.trimLeft ((quoted s).toList ++ rest) = (quoted s).toList ++ rest := by
  rw [toList_quoted]
  exact Text.trimLeft_visible (by decide) _

theorem unescapedText_escape (s : String) : unescapedText (escape s.toList) = s := by
  rw [unescapedText, unescape_escape, String.ofList_toList]

namespace Statement

@[simp] theorem line_navigate (url : String) :
    (navigate url).line = "await page.goto(" ++ quoted url ++ ");" := rfl

@[simp] theorem line_click (selector : String) :
    (click selector).line = "await page.click(" ++ quoted selector ++ ");" := rfl

@[simp] theorem line_fill (selector value : String) :
    (fill selector value).line = "await page.fill(" ++ quoted selector ++ ", " ++ quoted value ++ ");" := rfl

@[simp] theorem line_keyPress (key : String) :
    (keyPress key).line = "await page.keyboard.press(" ++ quoted key ++ ");" := rfl

@[simp] theorem line_select (selector value : String) : (select selector value).line =
    "await page.selectOption(" ++ quoted selector ++ ", " ++ quoted value ++ ");" := rfl

@[simp] theorem line_scroll (x y : String) :
    (scroll x y).line = "await page.evaluate(() => window.scrollTo(" ++ x ++ ", " ++ y ++ "));" := rfl

@[simp] theorem line_wait (ms : String) : (wait ms).line = "await page.waitForTimeout(" ++ ms ++ ");" := rfl

@[simp] theorem line_manualStep (description : String) :
    (manualStep description).line = manualStepMarker ++ " " ++ description := rfl

end Statement

theorem encoded_decoded (s : Statement) : s.encoded.decoded = s := by
  cases s <;> simp [Statement.encoded, Statement.decoded, unescapedText_escape]

/-- The line of a command is a call by its name. What it gives the call are its arguments, escaped, if they have the
    form that lines have them in. -/
theorem line_opens {s : Statement} (act : s.isExecutable = true) : ∃ front arguments after,
    Opens s.method front ∧ s.line.toList = front ++ (arguments ++ after) ∧
      (s.Readable → HasArguments s.encoded arguments) := by
  have blank : Text.AreBlanks [' '] := List.forall_mem_singleton.mpr (by decide)
  have noBlank : Text.AreBlanks [] := List.forall_mem_nil _
  have opens : Opens s.method _ := .intro (.await (List.cons_ne_nil _ _) blank) noBlank
  have body (text : String) : IsBody (String.ofList (escape text.toList)).toList := by
    simpa using escape_isBody text.toList
  cases s with
  | navigate url =>
    exact ⟨_, _, ");".toList, opens, by simp [Statement.method, quote], fun _ => .navigate (body url)⟩
  | click selector =>
    exact ⟨_, _, ");".toList, opens, by simp [Statement.method, quote], fun _ => .click (body selector)⟩
  | fill selector value =>
    exact ⟨_, _, ");".toList, opens, by simp [Statement.method, quote],
      fun _ => .fill (body selector) (body value) blank⟩
  | keyPress key =>
    exact ⟨_, _, ");".toList, opens, by simp [Statement.method, quote], fun _ => .keyPress (body key)⟩
  | select selector value =>
    exact ⟨_, _, ");".toList, opens, by simp [Statement.method, quote],
      fun _ => .select (body selector) (body value) blank⟩
  | scroll x y =>
    have gaps : ∀ gap ∈ [[' '], [' '], [], [], [' '], []], Text.AreBlanks gap := by simp [blank, noBlank]
    exact ⟨_, _, ");".toList, opens, by simp [Statement.method],
      fun readable => .scroll readable.1.signedRun readable.2.signedRun gaps⟩
  | wait ms => exact ⟨_, _, ";".toList, opens, by simp [Statement.method], fun readable => .wait readable.run noBlank⟩
  | manualStep description => cases act

theorem method_plain (s : Statement) : '(' ∉ s.method.toList := by
  cases s <;> simp [Statement.method]

/-- A line is not a call by another name. -/
theorem textCall?_other {s : Statement} (act : s.isExecutable = true) {name : String} (plain : '(' ∉ name.toList)
    (differ : s.method ≠ name) (rest : List Char) : textCall? name (s.line.toList ++ rest) = none := by
  obtain ⟨front, arguments, after, opens, shape, _⟩ := line_opens act
  rw [shape, List.append_assoc, textCall?, call?_other (method_plain s) plain differ opens]
  rfl

theorem textCall?_navigate (url : String) (rest : List Char) :
    textCall? "goto" ((Statement.navigate url).line.toList ++ rest) = some url := by
  obtain ⟨front, arguments, after, opens, shape, given⟩ := line_opens (s := .navigate url) rfl
  cases given trivial with
  | navigate body =>
    have opened (cs : List Char) : call? "goto" (front ++ cs) = some (Text.trimLeft cs) := call?_opens opens cs
    rw [shape, List.append_assoc, List.append_assoc, textCall?, opened, quote_trimLeft, Option.bind_eq_bind,
      Option.bind_some, literal_quote body]
    simp [unescapedText_escape]

/-- A line of a command is the command, whatever follows on the line. -/
theorem ofCall?_line (s : Statement) (act : s.isExecutable = true) (readable : s.Readable) (rest : List Char) :
    Statement.ofCall? (s.line.toList ++ rest) = some s := by
  obtain ⟨front, arguments, after, opens, shape, given⟩ := line_opens act
  have named : s.encoded.method = s.method := by cases s <;> rfl
  have derives : Derives s.encoded (front ++ arguments) := .intro (named ▸ opens) (given readable)
  have here : front ++ arguments <+: s.line.toList ++ rest := ⟨after ++ rest, by simp [shape]⟩
  exact ofCall?_derives.mpr ⟨_, _, derives, here, (encoded_decoded s).symm⟩

end Script

end BrowserFlow
