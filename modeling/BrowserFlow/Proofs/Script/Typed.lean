import BrowserFlow.Proofs.Script.Summary
import Mathlib.Data.List.Forall2

/-!
What is typed or chosen on a page does not change what a script does. A value whose line boundaries are escaped stays
between its quotes: with another such value in its place, a script has the same commands in the same order and the same
summary. A line boundary that is not escaped is enough for a value to add a command.
-/

namespace BrowserFlow

/-- The same input or select with another value, where neither the values nor the selector leave their line. -/
structure Action.Retyped (a b : Action) : Prop where
  typed : a.kind ∈ [.input, .select]
  same : b = { a with value := b.value }
  selector : Script.Escapable a.selector.toList
  before : Script.Escapable a.valueText.toList
  after : Script.Escapable b.valueText.toList

def Action.Alike (a b : Action) : Prop := a = b ∨ a.Retyped b

def Action.typing (a : Action) (text : String) : Action := { a with value := some (.str text) }

@[simp] theorem Action.kind_typing (a : Action) (text : String) : (a.typing text).kind = a.kind := rfl

@[simp] theorem Action.selector_typing (a : Action) (text : String) : (a.typing text).selector = a.selector := rfl

@[simp] theorem Action.valueText_typing (a : Action) (text : String) : (a.typing text).valueText = text := by
  by_cases empty : text = ""
  · subst empty
    rfl
  · simp [valueText, typing, Value.present?, Value.isPresent, Value.text, empty]

namespace Action.Alike

variable {a b c d : Action}

theorem same (alike : a.Alike b) : b = { a with value := b.value } := by
  rcases alike with rfl | retyped
  · rfl
  · exact retyped.same

theorem joins (first : a.Alike b) (second : c.Alike d) : Script.joins b d = Script.joins a c := by
  rw [first.same, second.same]
  rfl

theorem pageUrl (alike : a.Alike b) : b.pageUrl = a.pageUrl := by rw [alike.same]

end Action.Alike

namespace Script

/-- Lines that say the same but for what they quote: commands of one kind, and nothing else for a summary. -/
structure Interchangeable (raw raw' : List Char) : Prop where
  word : (Statement.ofLine? (Text.trim raw)).map Statement.word = (Statement.ofLine? (Text.trim raw')).map Statement.word
  read : ∀ s : Scan, s.readLine raw = s.readLine raw'

theorem interchangeable_same (lines : List (List Char)) : List.Forall₂ Interchangeable lines lines :=
  List.forall₂_same.mpr fun _ _ => ⟨rfl, fun _ => rfl⟩

section Lines

variable {lines lines' : List (List Char)} (interchangeable : List.Forall₂ Interchangeable lines lines')

include interchangeable

theorem words_interchangeable : (statements lines).map Statement.word = (statements lines').map Statement.word := by
  have words (lines : List (List Char)) : (statements lines).map Statement.word =
      lines.filterMap fun raw => (Statement.ofLine? (Text.trim raw)).map Statement.word := List.map_filterMap ..
  rw [words, words]
  induction interchangeable with
  | nil => rfl
  | cons first _ ih => rw [List.filterMap_cons, List.filterMap_cons, first.word, ih]

theorem scan_interchangeable (s : Scan) : lines.foldlM Scan.readLine s = lines'.foldlM Scan.readLine s := by
  induction interchangeable generalizing s with
  | nil => rfl
  | cons first _ ih =>
    rw [List.foldlM_cons, List.foldlM_cons, first.read s]
    exact bind_congr ih

end Lines

/-- A line of a command ends the header, and if the command is no navigation, it says nothing else to a summary. -/
theorem Scan.readLine_call (s : Scan) {raw inner : List Char} (line : Text.trim raw = "await page.".toList ++ inner)
    (inert : Inert (Text.trim raw)) : s.readLine raw = .ok { s with inHeader := false } := by
  have unmarked : Unmarked (Text.trim raw) := by
    rw [line]
    exact ⟨rfl, rfl, rfl⟩
  have unnamed : testName? (Text.trim raw) = none := by rw [line]; rfl
  have ends : isHeaderLine (Text.trim raw) = false := by rw [line]; rfl
  rw [readLine_unmarked s unmarked, readBody_unnamed inert (.inr unnamed), ends, Bool.and_false]

section Step

variable {a : Action} (typed : a.kind ∈ [.input, .select]) {step : Step} (written : Step.ofAction a = .ok step)

include typed

theorem Statement.ofAction_typed : Statement.ofAction a =
    if a.kind = .input then .fill a.selector a.valueText else .select a.selector a.valueText := by
  have either : a.kind = .input ∨ a.kind = .select := by simpa using typed
  rw [Statement.ofAction]
  rcases either with kind | kind <;> rw [kind] <;> rfl

include written

theorem Step.word_typed : (Statement.ofLine? (Text.trim (indent ++ step.line).toList)).map Statement.word =
    some (if a.kind = .input then "fill" else "select") := by
  have convertible : a.Convertible := by
    constructor <;> intro kind <;> simp [kind] at typed
  rw [toList_indent, trim_indent, ofLine?_step convertible written, Option.map_some, Statement.ofAction_typed typed]
  split <;> rfl

theorem Step.readLine_typed (s : Scan) :
    s.readLine (indent ++ step.line).toList = .ok { s with inHeader := false } := by
  have other : a.kind ≠ .manualStep := by
    rintro kind
    simp [kind] at typed
  obtain ⟨statement, _, _⟩ := Step.ofAction_ok written
  have act : (Statement.ofAction a).isExecutable = true := by
    rw [Statement.ofAction_typed typed]
    split <;> rfl
  have line : Text.trim (indent ++ step.line).toList =
      (Statement.ofAction a).line.toList ++ Text.trimRight step.remark.toList := by
    rw [toList_indent, trim_indent, Step.line, statement, String.toList_append, trim_line act]
  have call : ∃ inner, (Statement.ofAction a).line.toList = "await page.".toList ++ inner := by
    rw [Statement.ofAction_typed typed]
    split
    · exact ⟨"fill(".toList ++ (quoted a.selector).toList ++ ", ".toList ++ (quoted a.valueText).toList ++ ");".toList,
        by simp⟩
    · exact ⟨"selectOption(".toList ++ (quoted a.selector).toList ++ ", ".toList ++ (quoted a.valueText).toList ++
        ");".toList, by simp⟩
  obtain ⟨inner, begins⟩ := call
  have inert : Scan.Inert (Text.trim (indent ++ step.line).toList) := by
    rw [line]
    exact Scan.inert_line other _
  have shape : Text.trim (indent ++ step.line).toList =
      "await page.".toList ++ (inner ++ Text.trimRight step.remark.toList) := by
    rw [line, begins, List.append_assoc]
  exact Scan.readLine_call s shape inert

theorem Step.pieces_typed (selector : Escapable a.selector.toList) (value : Escapable a.valueText.toList) :
    pieces (indent ++ step.line) = [(indent ++ step.line).toList] := by
  have noKey (kind : a.kind = .keypress) : Escapable a.key.toList := by simp [kind] at typed
  -- the page of an action is on another line
  have safe : Action.LineSafe { a with pageUrl := none } := ⟨by simp, fun _ => selector, fun _ => value, noKey⟩
  have unbroken : Text.Unbroken step.line.toList := Step.line_unbroken safe written
  apply pieces_unbroken
  rw [toList_indent]
  exact .cons (by decide) (.cons (by decide) unbroken)

end Step

theorem Step.interchangeable {a b : Action} (alike : a.Alike b) {step step' : Step}
    (written : Step.ofAction a = .ok step) (written' : Step.ofAction b = .ok step') :
    List.Forall₂ Interchangeable (pieces (indent ++ step.line)) (pieces (indent ++ step'.line)) := by
  rcases alike with rfl | retyped
  · cases written.symm.trans written'
    exact interchangeable_same _
  · have kind : b.kind = a.kind := by rw [retyped.same]
    have selector : b.selector = a.selector := by
      rw [retyped.same]
      rfl
    have typed := retyped.typed
    have typed' : b.kind ∈ [.input, .select] := kind ▸ typed
    rw [Step.pieces_typed typed written retyped.selector retyped.before,
      Step.pieces_typed typed' written' (selector ▸ retyped.selector) retyped.after]
    refine .cons ⟨?_, fun s => ?_⟩ .nil
    · rw [Step.word_typed typed written, Step.word_typed typed' written', kind]
    · rw [Step.readLine_typed typed written, Step.readLine_typed typed' written']

/-- Blocks whose first actions are alike, and whose last ones are. -/
structure Block.Alike (b c : Block) : Prop where
  first : b.first.Alike c.first
  last : b.last.Alike c.last

theorem extend_alike {a b : Action} (alike : a.Alike b) {bs cs : List Block} (blocks : List.Forall₂ Block.Alike bs cs) :
    List.Forall₂ Block.Alike (extend a bs) (extend b cs) := by
  have alone : Block.Alike ⟨a, []⟩ ⟨b, []⟩ := ⟨alike, alike⟩
  cases blocks with
  | nil => exact .cons alone .nil
  | @cons b' c' bs cs head tail =>
    have last (a : Action) (b : Block) : Block.last ⟨a, b.actions⟩ = b.last := by simp [Block.last, Block.actions]
    rw [extend, extend, alike.joins head.first]
    split
    · exact .cons ⟨alike, by rw [last, last]; exact head.last⟩ tail
    · exact .cons alone (.cons head tail)

theorem blocks_alike {as bs : List Action} (alike : List.Forall₂ Action.Alike as bs) :
    List.Forall₂ Block.Alike (blocks as) (blocks bs) := by
  induction alike with
  | nil => exact .nil
  | cons head _ ih => exact extend_alike head ih

theorem blockLines_interchangeable {bs cs : List Block} (alike : List.Forall₂ Block.Alike bs cs) {last : Option String}
    {body body' : List String} (written : blockLines last bs = .ok body) (written' : blockLines last cs = .ok body') :
    List.Forall₂ Interchangeable ((body.map (indent ++ ·)).flatMap pieces) ((body'.map (indent ++ ·)).flatMap pieces) := by
  induction alike generalizing last body body' with
  | nil =>
    cases written
    cases written'
    exact .nil
  | @cons b c bs cs head _ ih =>
    rw [blockLines] at written written'
    obtain ⟨step, line, written⟩ := bind_ok written
    obtain ⟨step', line', written'⟩ := bind_ok written'
    obtain ⟨rest, after, written⟩ := bind_ok written
    obtain ⟨rest', after', written'⟩ := bind_ok written'
    cases written
    cases written'
    have page : c.first.pageUrl = b.first.pageUrl := head.first.pageUrl
    have comment : pageComment last c.first = pageComment last b.first := by
      rw [pageComment, newPage?, page]
      rfl
    have same : pageAfter last c.first = pageAfter last b.first := by
      rw [pageAfter, newPage?, page]
      rfl
    rw [same] at after'
    simp only [comment, List.map_append, List.map_cons, List.flatMap_append, List.flatMap_cons]
    exact List.rel_append (interchangeable_same _)
      (List.rel_append (Step.interchangeable head.last line line') (ih after after'))

theorem render_interchangeable {h : Header} {as bs : List Action} (alike : List.Forall₂ Action.Alike as bs)
    {script script' : String} (rendered : render h as = .ok script) (rendered' : render h bs = .ok script') :
    List.Forall₂ Interchangeable (Text.splitLines script.toList) (Text.splitLines script'.toList) := by
  obtain ⟨lines, body, headed, written, rfl⟩ := render_ok rendered
  obtain ⟨lines', body', headed', written', rfl⟩ := render_ok rendered'
  cases headed.symm.trans headed'
  simp only [splitLines_pieces, List.flatMap_append]
  exact List.rel_append (List.rel_append (interchangeable_same _)
    (blockLines_interchangeable (blocks_alike alike) written written')) (interchangeable_same _)

theorem escape_boundary {b : Char} (boundary : Text.isLineBoundary b = true) (notFeed : b ≠ '\n') (notReturn : b ≠ '\r')
    (cs : List Char) : escape (b :: cs) = b :: escape cs := by
  rw [escape_cons]
  unfold escapeChar
  split <;> simp_all [Text.isLineBoundary]

theorem Step.remark_typing {a : Action} (typed : a.kind ∈ [.input, .select]) : ∃ remark : String,
    Text.Unbroken remark.toList ∧ ∀ text step, Step.ofAction (a.typing text) = .ok step → step.remark = remark := by
  have either : a.kind = .input ∨ a.kind = .select := by simpa using typed
  rcases either with kind | kind
  · cases found : textRemark a.locator with
    | error fault =>
      refine ⟨"", .nil, fun text step written => ?_⟩
      simp only [Step.ofAction, Action.typing, kind, found] at written
      obtain ⟨_, _, written⟩ := bind_ok written
      obtain ⟨_, _, written⟩ := bind_ok written
      cases written
    | ok remark =>
      refine ⟨remark, textRemark_unbroken found, fun text step written => ?_⟩
      simp only [Step.ofAction, Action.typing, kind, found] at written
      obtain ⟨_, _, written⟩ := bind_ok written
      obtain ⟨_, _, written⟩ := bind_ok written
      cases written
      rfl
  · refine ⟨"", .nil, fun text step written => ?_⟩
    simp only [Step.ofAction, Action.typing, kind] at written
    obtain ⟨_, _, written⟩ := bind_ok written
    obtain ⟨_, _, written⟩ := bind_ok written
    cases written
    rfl

/-- What stands around the value on the line of an input or a select. -/
theorem Step.line_typing {a : Action} (typed : a.kind ∈ [.input, .select]) : ∃ front back, Text.Unbroken back ∧
    ∀ text step, Step.ofAction (a.typing text) = .ok step →
      step.line.toList = front ++ escape text.toList ++ '\'' :: back := by
  obtain ⟨remark, unbroken, remarked⟩ := Step.remark_typing typed
  have call : ∃ front, ∀ text,
      (Statement.ofAction (a.typing text)).line.toList = front ++ escape text.toList ++ "');".toList := by
    have either : a.kind = .input ∨ a.kind = .select := by simpa using typed
    rcases either with kind | kind
    · refine ⟨"await page.fill(".toList ++ (quoted a.selector).toList ++ ", '".toList, fun text => ?_⟩
      have same : Statement.ofAction (a.typing text) = .fill a.selector text := by
        simp [Statement.ofAction_typed (a := a.typing text) typed, kind]
      simp [same]
    · refine ⟨"await page.selectOption(".toList ++ (quoted a.selector).toList ++ ", '".toList, fun text => ?_⟩
      have same : Statement.ofAction (a.typing text) = .select a.selector text := by
        simp [Statement.ofAction_typed (a := a.typing text) typed, kind]
      simp [same]
  obtain ⟨front, call⟩ := call
  refine ⟨front, ");".toList ++ remark.toList, Text.Unbroken.append (by decide) unbroken, fun text step written => ?_⟩
  obtain ⟨statement, _, _⟩ := Step.ofAction_ok written
  rw [Step.line, statement, String.toList_append, call, remarked text step written]
  simp

/-- A boundary that is not escaped cuts the line of a value: what follows it there is on a line of its own. -/
theorem pieces_typing {a : Action} (typed : a.kind ∈ [.input, .select]) {b : Char}
    (boundary : Text.isLineBoundary b = true) (notFeed : b ≠ '\n') (notReturn : b ≠ '\r') :
    ∃ cut back, Text.Unbroken back ∧ ∀ cs step, Escapable cs →
      Step.ofAction (a.typing (String.ofList (b :: cs))) = .ok step →
        pieces (indent ++ step.line) = cut ++ [escape cs ++ '\'' :: back] := by
  obtain ⟨front, back, unbroken, line⟩ := Step.line_typing typed
  refine ⟨Text.splitLines (' ' :: ' ' :: front ++ [b]), back, unbroken, fun cs step safe written => ?_⟩
  have shape : (indent ++ step.line).toList ++ ['\n'] =
      (' ' :: ' ' :: front) ++ b :: (escape cs ++ '\'' :: back ++ '\n' :: []) := by
    rw [toList_indent, line _ _ written, String.toList_ofList, escape_boundary boundary notFeed notReturn]
    simp
  have whole : Text.Unbroken (escape cs ++ '\'' :: back) :=
    (escape_unbroken safe).append (.cons (by decide) unbroken)
  rw [pieces, shape, Text.splitLines_append _ _ boundary notReturn, Text.splitLines_line _ _ whole]
  rfl

theorem trim_quote (cs : List Char) : Text.trim ('\'' :: cs) = '\'' :: Text.trimRight cs := by
  rw [Text.trim, Text.trimLeft_visible (by decide)]
  exact Text.trimRight_visible (by decide) [] cs

theorem trim_mark (cs : List Char) :
    Text.trim (manualStepMarker.toList ++ '\'' :: cs) = manualStepMarker.toList ++ '\'' :: Text.trimRight cs := by
  rw [Scan.trim_marked "/ MANUAL STEP".toList (by rfl)]
  exact congrArg _ (Text.trimRight_visible (by decide) [] cs)

section Added

variable {a : Action} (typed : a.kind ∈ [.input, .select]) {b : Char} (boundary : Text.isLineBoundary b = true)
  (notFeed : b ≠ '\n') (notReturn : b ≠ '\r') {h : Header} {script script' : String}
  (rendered : render h [a.typing (String.ofList [b])] = .ok script)
  (rendered' : render h [a.typing (String.ofList (b :: manualStepMarker.toList))] = .ok script')

include typed boundary notFeed notReturn rendered rendered'

/-- The lines of two scripts whose only value begins with the boundary, and has a mark after it in the second one. -/
theorem splitLines_typing : ∃ cut back, Text.splitLines script.toList = cut ++ ['\'' :: back, "\x7d);".toList] ∧
    Text.splitLines script'.toList = cut ++ [manualStepMarker.toList ++ '\'' :: back, "\x7d);".toList] := by
  obtain ⟨cut, back, _, pieces_value⟩ := pieces_typing typed boundary notFeed notReturn
  obtain ⟨lines, body, headed, written, rfl⟩ := render_ok rendered
  obtain ⟨lines', body', headed', written', rfl⟩ := render_ok rendered'
  cases headed.symm.trans headed'
  obtain ⟨step, line, written⟩ := bind_ok written
  obtain ⟨step', line', written'⟩ := bind_ok written'
  cases written
  cases written'
  have value := pieces_value [] step (by decide) line
  have value' := pieces_value manualStepMarker.toList step' (by decide) line'
  have mark : escape manualStepMarker.toList = manualStepMarker.toList := by decide
  have closing : pieces "\x7d);" = ["\x7d);".toList] := by decide
  have comment (text : String) : pageComment h.targetSite (a.typing text) = pageComment h.targetSite a := rfl
  refine ⟨(lines ++ startLines h.targetSite ++ (pageComment h.targetSite a).map (indent ++ ·)).flatMap pieces ++ cut,
    back, ?_, ?_⟩
  · rw [splitLines_pieces]
    simp only [comment, List.map_append, List.map_cons, List.map_nil, List.flatMap_append, List.flatMap_cons,
      List.flatMap_nil, value, closing, escape, List.flatMap_nil, List.nil_append, List.append_assoc, List.append_nil,
      List.cons_append]
  · rw [splitLines_pieces]
    simp only [comment, List.map_append, List.map_cons, List.map_nil, List.flatMap_append, List.flatMap_cons,
      List.flatMap_nil, value', mark, closing, List.append_assoc, List.append_nil, List.cons_append, List.nil_append]

theorem length_commands_typing : (commands script').length = (commands script).length + 1 := by
  obtain ⟨cut, back, lines, lines'⟩ := splitLines_typing typed boundary notFeed notReturn rendered rendered'
  have count (text : String) : (commands text).length = (statements (Text.splitLines text.toList)).length := by
    rw [← commands_statements, List.length_map]
  have closing : statements ["\x7d);".toList] = [] := by decide
  have rest : statements ['\'' :: back, "\x7d);".toList] = [] := by
    rw [statements_none, closing]
    rw [trim_quote]
    rfl
  have mark : Statement.ofLine? (Text.trim (manualStepMarker.toList ++ '\'' :: back)) =
      some (.manualStep (String.ofList (Text.trim ('\'' :: Text.trimRight back)))) := by
    rw [trim_mark]
    calc Statement.ofLine? (manualStepMarker.toList ++ '\'' :: Text.trimRight back)
        = (expect manualStepMarker.toList (manualStepMarker.toList ++ '\'' :: Text.trimRight back)).map
            fun rest => .manualStep (String.ofList (Text.trim rest)) := rfl
      _ = _ := by rw [expect_append, Option.map_some]
  rw [count, count, lines, lines', statements_append, statements_append, rest, statements_some mark, closing,
    List.append_nil, List.length_append, List.length_singleton]

theorem summary_typing (fileName suffix : String) : summary fileName script' suffix =
    (summary fileName script suffix).map fun x => { x with manualSteps := x.manualSteps + 1 } := by
  obtain ⟨cut, back, lines, lines'⟩ := splitLines_typing typed boundary notFeed notReturn rendered rendered'
  have closing (s : Scan) : s.readLine "\x7d);".toList = .ok { s with inHeader := false } := by
    have unmarked : Scan.Unmarked (Text.trim "\x7d);".toList) := ⟨by decide, by decide, by decide⟩
    rw [Scan.readLine_unmarked s unmarked, Scan.readBody_unnamed ⟨by decide, by decide⟩ (.inr (by decide))]
    have ends : Scan.isHeaderLine (Text.trim "\x7d);".toList) = false := by decide
    rw [ends, Bool.and_false]
  have rest (s : Scan) : s.readLine ('\'' :: back) = .ok { s with inHeader := false } := by
    have unmarked : Scan.Unmarked (Text.trim ('\'' :: back)) := by
      rw [trim_quote]
      exact ⟨rfl, rfl, rfl⟩
    rw [Scan.readLine_unmarked s unmarked, trim_quote, Scan.readBody_unnamed ⟨rfl, rfl⟩ (.inr rfl)]
    have ends : Scan.isHeaderLine ('\'' :: Text.trimRight back) = false := rfl
    rw [ends, Bool.and_false]
  have mark (s : Scan) : s.readLine (manualStepMarker.toList ++ '\'' :: back) =
      .ok { s with manualSteps := s.manualSteps + 1 } := by
    have unmarked : Scan.Unmarked (Text.trim (manualStepMarker.toList ++ '\'' :: back)) := by
      rw [trim_mark]
      exact ⟨rfl, rfl, rfl⟩
    have goesOn : Scan.isHeaderLine (manualStepMarker.toList ++ '\'' :: Text.trimRight back) = true := rfl
    rw [Scan.readLine_unmarked s unmarked, trim_mark, Scan.readBody]
    simp only [expect_append, Option.isSome_some, if_true, goesOn, Bool.and_true]
  rw [summary, summary, lines, lines', List.foldlM_append, List.foldlM_append]
  cases cut.foldlM Scan.readLine { id := stem fileName suffix } with
  | error fault => rfl
  | ok s =>
    simp only [Bind.bind, Except.bind, List.foldlM_cons, List.foldlM_nil, rest, mark, closing]
    rfl

end Added

theorem words_commands (text : String) : (commands text).map (·.statement.word) =
    (statements (Text.splitLines text.toList)).map Statement.word := by
  rw [← commands_statements, List.map_map]
  rfl

theorem render_typing {h : Header} {a : Action} (header : h.Textual) (textual : a.Textual)
    (typed : a.kind ∈ [.input, .select]) (text : String) : ∃ script, render h [a.typing text] = .ok script := by
  have convertible : (a.typing text).Convertible := by
    constructor <;> rw [Action.kind_typing] <;> rintro kind <;> simp [kind] at typed
  have written : (a.typing text).Textual := ⟨textual.locator, Value.textual_text text, textual.description⟩
  exact render_total header (by simpa using written) (by simpa using convertible)

/-- What is typed is data: two scripts with one header, whose actions differ only in values that stay on their lines,
    have commands of the same kinds in the same order, and the same summary. Only line feeds and carriage returns may be
    among the line boundaries of a value: after any other one a mark in the value of an input or a select is a step by
    hand. -/
theorem structure_retyped (h : Header) :
    (∀ (as bs : List Action) (script script' : String), List.Forall₂ Action.Alike as bs →
      render h as = .ok script → render h bs = .ok script' →
        (commands script).map (·.statement.word) = (commands script').map (·.statement.word) ∧
          ∀ fileName suffix, summary fileName script suffix = summary fileName script' suffix) ∧
    ∀ b, Text.isLineBoundary b = true → b ≠ '\n' → b ≠ '\r' → ∀ a : Action, h.Textual → a.Textual →
      a.kind ∈ [.input, .select] → ∃ script script', render h [a.typing (String.ofList [b])] = .ok script ∧
        render h [a.typing (String.ofList (b :: manualStepMarker.toList))] = .ok script' ∧
          (commands script').length = (commands script).length + 1 ∧
          ∀ fileName suffix, summary fileName script' suffix =
            (summary fileName script suffix).map fun x => { x with manualSteps := x.manualSteps + 1 } := by
  refine ⟨fun as bs script script' alike rendered rendered' => ?_, ?_⟩
  · have interchangeable := render_interchangeable alike rendered rendered'
    refine ⟨?_, fun fileName suffix => ?_⟩
    · rw [words_commands, words_commands, words_interchangeable interchangeable]
    · rw [summary, summary, scan_interchangeable interchangeable]
  · intro b boundary notFeed notReturn a header textual typed
    obtain ⟨script, rendered⟩ := render_typing header textual typed (String.ofList [b])
    obtain ⟨script', rendered'⟩ := render_typing header textual typed (String.ofList (b :: manualStepMarker.toList))
    exact ⟨script, script', rendered, rendered',
      length_commands_typing typed boundary notFeed notReturn rendered rendered',
      summary_typing typed boundary notFeed notReturn rendered rendered'⟩

/-- A value that has a mark after a quote and a line feed leaves everything as it is; after a line separator the mark is
    a step by hand. -/
theorem structure_retyped_mark : ∃ script script' cut marked,
    render { id := "r1", name := .str "login", createdAt := .epoch }
      [{ kind := .input, locator := some { id := some (.str "q") }, value := some (.str "a"), time := .epoch, id := "1" },
        { kind := .click, locator := some { id := some (.str "go") }, time := .epoch, id := "2" }] = .ok script ∧
    render { id := "r1", name := .str "login", createdAt := .epoch }
      [{ kind := .input, locator := some { id := some (.str "q") }, value := some (.str "');\n// MANUAL STEP:"),
         time := .epoch, id := "1" },
        { kind := .click, locator := some { id := some (.str "go") }, time := .epoch, id := "2" }] = .ok script' ∧
    (commands script).map (·.statement.word) = (commands script').map (·.statement.word) ∧
    summary "x" script ".spec.ts" = summary "x" script' ".spec.ts" ∧
    render { id := "r1", name := .str "login", createdAt := .epoch }
      [{ kind := .input, locator := some { id := some (.str "q") }, value := some (.str "\u2028"), time := .epoch,
         id := "1" }] = .ok cut ∧
    render { id := "r1", name := .str "login", createdAt := .epoch }
      [{ kind := .input, locator := some { id := some (.str "q") }, value := some (.str "\u2028// MANUAL STEP:"),
         time := .epoch, id := "1" }] = .ok marked ∧
    (commands marked).length = (commands cut).length + 1 := by
  let header : Header := { id := "r1", name := .str "login", createdAt := .epoch }
  let typed : Action :=
    { kind := .input, locator := some { id := some (.str "q") }, value := some (.str "a"), time := .epoch, id := "1" }
  let clicked : Action := { kind := .click, locator := some { id := some (.str "go") }, time := .epoch, id := "2" }
  have textual : header.Textual := ⟨⟨_, rfl⟩, by simp [header]⟩
  have located (id : String) : Locator.Textual { id := some (.str id) } := by constructor <;> simp
  have plain : typed.Textual := ⟨by simpa [typed] using located "q", Value.textual_text _, Value.textual_none⟩
  have retyped : typed.Retyped (typed.typing "');\n// MANUAL STEP:") :=
    ⟨by simp [typed], rfl, by decide, by decide, by decide⟩
  obtain ⟨script, rendered⟩ : ∃ script, render header [typed, clicked] = .ok script := ⟨_, rfl⟩
  obtain ⟨script', rendered'⟩ : ∃ script', render header [typed.typing "');\n// MANUAL STEP:", clicked] = .ok script' :=
    ⟨_, rfl⟩
  obtain ⟨words, summaries⟩ := (structure_retyped header).1 _ _ script script'
    (.cons (.inr retyped) (.cons (.inl rfl) .nil)) rendered rendered'
  obtain ⟨cut, marked, first, second, longer, _⟩ :=
    (structure_retyped header).2 '\u2028' (by decide) (by decide) (by decide) typed textual plain (by simp [typed])
  exact ⟨script, script', cut, marked, rendered, rendered', words, summaries "x" ".spec.ts", first, second, longer⟩

end Script

end BrowserFlow
