import BrowserFlow.Proofs.Script.Layout

/-!
The commands of a script that has been written: one for the start page, if there is one, and one for each block
of actions. No other line is a command, whatever the texts on it are.
-/

namespace BrowserFlow.Script

def statements (lines : List (List Char)) : List Statement :=
  lines.filterMap fun raw => Statement.ofLine? (Text.trim raw)

theorem commands_statements (text : String) :
    (commands text).map (·.statement) = statements (Text.splitLines text.toList) := by
  have numbered : ((Text.splitLines text.toList).zipIdx 1).map Prod.fst = Text.splitLines text.toList :=
    List.zipIdx_map_fst 1 _
  rw [commands, statements, List.map_filterMap, ← numbered, List.filterMap_map, numbered]
  congr 1
  funext ⟨raw, number⟩
  simp only [Command.ofLine?, Function.comp_apply]
  cases Statement.ofLine? (Text.trim raw) <;> rfl

@[simp] theorem statements_nil : statements [] = [] := rfl

theorem statements_append (front back : List (List Char)) :
    statements (front ++ back) = statements front ++ statements back := List.filterMap_append ..

theorem statements_none {raw : List Char} (none : Statement.ofLine? (Text.trim raw) = none)
    (rest : List (List Char)) : statements (raw :: rest) = statements rest := by
  simp [statements, none]

theorem statements_some {raw : List Char} {s : Statement} (some : Statement.ofLine? (Text.trim raw) = some s)
    (rest : List (List Char)) : statements (raw :: rest) = s :: statements rest := by
  simp [statements, some]

theorem trim_indent (cs : List Char) : Text.trim (' ' :: ' ' :: cs) = Text.trim cs := by
  rw [Text.trim, Text.trimLeft_blank (by decide), Text.trimLeft_blank (by decide), Text.trim]

theorem trim_comment (mark : List Char) {c : Char} (visible : Text.isBlank c = false) (rest : List Char) :
    Text.trim ('/' :: '/' :: (mark ++ c :: rest)) = '/' :: '/' :: (mark ++ c :: Text.trimRight rest) := by
  rw [Text.trim, Text.trimLeft_visible (by decide)]
  exact Text.trimRight_visible visible ('/' :: '/' :: mark) rest

theorem ofLine?_comment (mark : List Char) {c : Char} (visible : Text.isBlank c = false)
    (other : ∀ rest, expect manualStepMarker.toList ('/' :: '/' :: (mark ++ c :: rest)) = none) (rest : List Char) :
    Statement.ofLine? (Text.trim ('/' :: '/' :: (mark ++ c :: rest))) = none := by
  rw [trim_comment mark visible, Statement.ofLine?, other]
  rfl

theorem Statement.line_ends {s : Statement} (act : s.isExecutable = true) :
    ∃ inner, s.line.toList = 'a' :: (inner ++ [';']) := by
  cases s with
  | navigate url => exact ⟨"wait page.goto(".toList ++ (quoted url).toList ++ [')'], by simp⟩
  | click selector => exact ⟨"wait page.click(".toList ++ (quoted selector).toList ++ [')'], by simp⟩
  | fill selector value =>
    exact ⟨"wait page.fill(".toList ++ (quoted selector).toList ++ ", ".toList ++ (quoted value).toList ++ [')'], by simp⟩
  | keyPress key => exact ⟨"wait page.keyboard.press(".toList ++ (quoted key).toList ++ [')'], by simp⟩
  | select selector value =>
    exact ⟨"wait page.selectOption(".toList ++ (quoted selector).toList ++ ", ".toList ++ (quoted value).toList ++ [')'],
      by simp⟩
  | scroll x y =>
    exact ⟨"wait page.evaluate(() => window.scrollTo(".toList ++ x.toList ++ ", ".toList ++ y.toList ++ "))".toList,
      by simp⟩
  | wait ms => exact ⟨"wait page.waitForTimeout(".toList ++ ms.toList ++ [')'], by simp⟩
  | manualStep description => cases act

theorem trim_line {s : Statement} (act : s.isExecutable = true) (remark : List Char) :
    Text.trim (s.line.toList ++ remark) = s.line.toList ++ Text.trimRight remark := by
  obtain ⟨inner, ends⟩ := Statement.line_ends act
  rw [ends, Text.trim, List.cons_append, Text.trimLeft_visible (by decide), List.append_assoc,
    List.singleton_append, ← List.cons_append, Text.trimRight_visible (by decide)]
  simp

/-- The line of a command is read as a call. -/
theorem ofLine?_call {s : Statement} (act : s.isExecutable = true) (remark : List Char) :
    Statement.ofLine? (Text.trim (s.line.toList ++ remark)) =
      Statement.ofCall? (s.line.toList ++ Text.trimRight remark) := by
  obtain ⟨inner, ends⟩ := Statement.line_ends act
  rw [trim_line act, ends]
  rfl

theorem ofLine?_line {s : Statement} (act : s.isExecutable = true) (readable : s.Readable) (remark : List Char) :
    Statement.ofLine? (Text.trim (s.line.toList ++ remark)) = some s := by
  rw [ofLine?_call act, ofCall?_line s act readable]

theorem ofLine?_indented {s : Statement} (act : s.isExecutable = true) (readable : s.Readable) {remark : String}
    (ends : Text.trimRight remark.toList = remark.toList) (number : ℕ) :
    Command.ofLine? number (indent ++ (s.line ++ remark)).toList = some ⟨s, number, s.line ++ remark⟩ := by
  have read := ofLine?_line act readable remark.toList
  have trimmed := trim_line act remark.toList
  rw [ends] at trimmed
  rw [Command.ofLine?, toList_indent, trim_indent, String.toList_append, read, trimmed]
  simp

theorem ofLine?_manualStep {description : String} (trimmed : Text.Trimmed description.toList) :
    Statement.ofLine? (Text.trim (Statement.manualStep description).line.toList) =
      some (.manualStep description) := by
  have shape : (Statement.manualStep description).line.toList =
      '/' :: ("/ MANUAL STEP".toList ++ ':' :: ' ' :: description.toList) := by simp [manualStepMarker]
  have mark (rest : List Char) : expect manualStepMarker.toList ('/' :: ("/ MANUAL STEP".toList ++ ':' :: rest)) =
      some rest := expect_append manualStepMarker.toList rest
  rw [shape, Text.trim, Text.trimLeft_visible (by decide), ← List.cons_append, Text.trimRight_visible (by decide),
    List.cons_append]
  have back := Text.trim_trimRight_blank (b := ' ') (by decide) trimmed
  calc Statement.ofLine? ('/' :: ("/ MANUAL STEP".toList ++ ':' :: Text.trimRight (' ' :: description.toList)))
      = (expect manualStepMarker.toList
          ('/' :: ("/ MANUAL STEP".toList ++ ':' :: Text.trimRight (' ' :: description.toList)))).map
            fun rest => .manualStep (String.ofList (Text.trim rest)) := rfl
    _ = some (.manualStep description) := by rw [mark, Option.map_some, back, String.ofList_toList]

theorem ofLine?_step {a : Action} (convertible : a.Convertible) {step : Step} (written : Step.ofAction a = .ok step) :
    Statement.ofLine? (Text.trim step.line.toList) = some (Statement.ofAction a) := by
  obtain ⟨statement, _, plain⟩ := Step.ofAction_ok written
  have readable := Statement.ofAction_readable convertible
  rw [Step.line, statement, String.toList_append]
  by_cases kind : a.kind = .manualStep
  · have step : Statement.ofAction a = .manualStep a.instruction := by rw [Statement.ofAction, kind]
    rw [plain kind, step, String.toList_empty, List.append_nil]
    exact ofLine?_manualStep (instruction_trimmed a)
  · refine ofLine?_line ?_ readable _
    unfold Statement.ofAction
    cases kind' : a.kind <;> first | rfl | exact absurd kind' kind

theorem statements_pageComment (last : Option String) (a : Action) (rest : List (List Char)) :
    statements ((pageComment last a).map (fun line => (indent ++ line).toList) ++ rest) = statements rest := by
  rcases pageComment_cases last a with none | ⟨url, _, same⟩
  · rw [none]
    rfl
  · have shape : (indent ++ ("// Page navigated to: " ++ url)).toList =
        ' ' :: ' ' :: '/' :: '/' :: (" Page navigated to".toList ++ ':' :: ' ' :: url.toList) := by
      rw [toList_indent]
      simp
    rw [same, List.map_singleton, List.singleton_append]
    refine statements_none ?_ rest
    rw [shape, trim_indent]
    exact ofLine?_comment _ (by decide) (fun _ => rfl) _

/-- The body of a script says what the last actions of its blocks say. -/
theorem statements_blockLines {last : Option String} {bs : List Block} {body : List String}
    (written : blockLines last bs = .ok body) (convertible : ∀ b ∈ bs, b.last.Convertible) :
    statements (body.map fun line => (indent ++ line).toList) = bs.map fun b => Statement.ofAction b.last := by
  refine blockLines_induction (motive := fun bs body => (∀ b ∈ bs, b.last.Convertible) →
    statements (body.map fun line => (indent ++ line).toList) = bs.map fun b => Statement.ofAction b.last)
    (fun _ => rfl) ?_ written convertible
  intro last b bs step body written ih convertible
  have here := ofLine?_step (convertible b (by simp)) written
  have after := ih fun c member => convertible c (List.mem_cons_of_mem _ member)
  rw [List.map_append, statements_pageComment, List.map_cons, List.map_cons, ← after]
  refine statements_some ?_ _
  rw [toList_indent, trim_indent]
  exact here

def startStatements (targetSite : Option String) : List Statement :=
  ((targetSite.filter (!·.isEmpty)).map .navigate).toList

theorem statements_startLines (targetSite : Option String) :
    statements ((startLines targetSite).map String.toList) = startStatements targetSite := by
  cases targetSite with
  | none => rfl
  | some url =>
    by_cases empty : url = ""
    · subst empty
      rfl
    · have navigate : Statement.ofLine? (Text.trim (indent ++ (Statement.navigate url).line).toList) =
          some (.navigate url) := by
        rw [toList_indent, trim_indent, ← List.append_nil (Statement.navigate url).line.toList]
        exact ofLine?_line (s := .navigate url) rfl trivial []
      have shape : startLines (some url) = [indent ++ "// Navigate to starting URL",
          indent ++ (Statement.navigate url).line, ""] := by simp [startLines, empty]
      rw [shape, List.map_cons, statements_none (by decide), List.map_cons, statements_some navigate, List.map_cons,
        statements_none (by decide)]
      have kept : (some url).filter (!·.isEmpty) = some url := by simp [Option.filter, empty]
      rw [startStatements, kept]
      rfl

/-- No line of a header is a command, whatever its texts are. -/
theorem statements_header {h : Header} {lines : List String} (written : h.lines = .ok lines) :
    statements (lines.map String.toList) = [] := by
  have id : Statement.ofLine? (Text.trim (idMarker ++ " " ++ h.id).toList) = none := by
    have shape : (idMarker ++ " " ++ h.id).toList =
        '/' :: '/' :: (" Recording ID".toList ++ ':' :: ' ' :: h.id.toList) := by simp [idMarker]
    rw [shape]
    exact ofLine?_comment _ (by decide) (fun _ => rfl) _
  have created : Statement.ofLine? (Text.trim (createdMarker ++ " " ++ h.createdAt.headerText).toList) = none := by
    have shape : (createdMarker ++ " " ++ h.createdAt.headerText).toList =
        '/' :: '/' :: (" Created".toList ++ ':' :: ' ' :: h.createdAt.headerText.toList) := by simp [createdMarker]
    rw [shape]
    exact ofLine?_comment _ (by decide) (fun _ => rfl) _
  have description (text : String) :
      Statement.ofLine? (Text.trim (descriptionMarker ++ " " ++ String.ofList (escape text.toList)).toList) = none := by
    have shape : (descriptionMarker ++ " " ++ String.ofList (escape text.toList)).toList =
        '/' :: '/' :: (" Description".toList ++ ':' :: ' ' :: escape text.toList) := by simp [descriptionMarker]
    rw [shape]
    exact ofLine?_comment _ (by decide) (fun _ => rfl) _
  have test : Statement.ofLine?
      (Text.trim ("test(" ++ quoted h.nameText ++ ", async (\x7b page \x7d) => \x7b").toList) = none := by
    have shape : ("test(" ++ quoted h.nameText ++ ", async (\x7b page \x7d) => \x7b").toList =
        't' :: ("est(".toList ++ (quoted h.nameText).toList ++ ", async (\x7b page \x7d) => ".toList ++ ['\x7b']) := by
      simp
    rw [shape, Text.trim, Text.trimLeft_visible (by decide), ← List.cons_append, Text.trimRight_end (by decide)]
    rfl
  rw [Header.lines_ok written, List.map_append, List.map_append, statements_append, statements_append,
    Header.descriptionLines]
  have front : statements (["", "test(" ++ quoted h.nameText ++ ", async (\x7b page \x7d) => \x7b"].map String.toList) =
      [] := by
    rw [List.map_cons, statements_none (by decide), List.map_singleton, statements_none test, statements_nil]
  have fields : statements ([importLine, "", idMarker ++ " " ++ h.id,
      createdMarker ++ " " ++ h.createdAt.headerText].map String.toList) = [] := by
    rw [List.map_cons, statements_none (by decide), List.map_cons, statements_none (by decide), List.map_cons,
      statements_none id, List.map_singleton, statements_none created, statements_nil]
  rw [front, fields]
  cases h.descriptionText? with
  | none => rfl
  | some text =>
    rw [Option.toList_some, List.map_singleton, List.map_singleton, statements_none (description text), statements_nil]
    rfl

theorem commands_of_render {h : Header} {as : List Action} {script : String} (rendered : render h as = .ok script)
    (waits : ∀ a ∈ as, a.kind = .wait → 0 ≤ a.duration) (safe : h.LineSafe) (lineSafe : ∀ a ∈ as, a.LineSafe) :
    (commands script).map (·.statement) =
      startStatements h.targetSite ++ (blocks as).map fun b => Statement.ofAction b.last := by
  obtain ⟨lines, body, headed, written, rfl⟩ := render_ok rendered
  have convertible : ∀ b ∈ blocks as, b.last.Convertible := by
    intro b member
    obtain ⟨step, stepped⟩ := blockLines_steps written b member
    exact Step.ofAction_convertible stepped (waits _ (mem_of_mem_blocks member b.last_mem))
  have closing : statements (["\x7d);"].map String.toList) = [] := by decide
  rw [commands_statements, splitLines_render headed written safe lineSafe]
  simp only [List.map_append, List.map_map, statements_append, statements_header headed, statements_startLines, closing]
  rw [← statements_blockLines written convertible]
  simp [Function.comp_def]

/-- Reading undoes writing: a script of text whose line boundaries are escaped has one command for the start page,
    if there is one, and one for each block of actions. -/
theorem commands_render (h : Header) (as : List Action) (header : h.Textual) (textual : ∀ a ∈ as, a.Textual)
    (convertible : ∀ a ∈ as, a.Convertible) (safe : h.LineSafe) (lineSafe : ∀ a ∈ as, a.LineSafe) :
    ∃ script, render h as = .ok script ∧ (commands script).map (·.statement) =
      startStatements h.targetSite ++ (blocks as).map fun b => Statement.ofAction b.last := by
  obtain ⟨script, rendered⟩ := render_total header textual convertible
  refine ⟨script, rendered, commands_of_render rendered ?_ safe lineSafe⟩
  intro a member kind
  obtain ⟨ms, read⟩ := (convertible a member).wait kind
  rw [Action.duration, read]
  exact Int.natCast_nonneg ms

theorem commands_render_login : ∃ script,
    render { id := "r1", name := .str "it's\nme", createdAt := .epoch, targetSite := some "http://x/?q='" }
      [{ kind := .input, locator := some { id := some (.str "q") }, value := some (.str "a"), time := .epoch, id := "1" },
        { kind := .input, locator := some { id := some (.str "q"), text := some (.str "*/\n'") },
          value := some (.str "\\"), time := .epoch, id := "2" },
        { kind := .manualStep, description := some (.str " log\n in "), time := .epoch, id := "3" }] = .ok script ∧
    (commands script).map (·.statement) =
      [.navigate "http://x/?q='", .fill "#q" "\\", .manualStep "log in"] := by
  refine commands_render _ _ ⟨⟨_, rfl⟩, by simp⟩ ?_ ?_ ⟨by decide, by decide, by decide, by decide⟩ ?_
  · simp only [List.forall_mem_cons, List.not_mem_nil, false_implies, implies_true, and_true]
    refine ⟨⟨?_, by simp, by simp⟩, ⟨?_, by simp, by simp⟩, ⟨by simp, by simp, by simp⟩⟩
    · rintro l ⟨⟩
      constructor <;> simp
    · rintro l ⟨⟩
      constructor <;> simp
  · simp only [List.forall_mem_cons, List.not_mem_nil, false_implies, implies_true, and_true]
    refine ⟨⟨nofun, nofun⟩, ⟨nofun, nofun⟩, ⟨nofun, nofun⟩⟩
  · simp only [List.forall_mem_cons, List.not_mem_nil, false_implies, implies_true, and_true]
    refine ⟨⟨by decide, fun _ => by decide, fun _ => by decide, nofun⟩,
      ⟨by decide, fun _ => by decide, fun _ => by decide, nofun⟩, ⟨by decide, by decide, by decide, nofun⟩⟩

end BrowserFlow.Script
