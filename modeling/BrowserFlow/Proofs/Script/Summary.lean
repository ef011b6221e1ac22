import BrowserFlow.Proofs.Script.Commands
import BrowserFlow.Proofs.Script.Payload
import BrowserFlow.Proofs.Time.Timestamp

/-!
The summary of a script that has been written is its header, with the time cut to milliseconds, and the number
of its steps by hand.
-/

namespace BrowserFlow.Script

namespace Scan

/-- Neither a step by hand nor a navigation. -/
structure Inert (line : List Char) : Prop where
  manualStep : expect manualStepMarker.toList line = none
  navigation : textCall? "goto" line = none

theorem readBody_unnamed {s : Scan} {line : List Char} (inert : Inert line)
    (unnamed : s.inHeader = false ∨ testName? line = none) :
    s.readBody line = { s with inHeader := s.inHeader && isHeaderLine line } := by
  have noName : (if s.inHeader && s.name.isNone then testName? line else none) = none := by
    rcases unnamed with body | none
    · simp [body]
    · simp [none]
  cases site : s.targetSite with
  | none => simp only [readBody, inert.manualStep, Option.isSome_none, Bool.false_eq_true, if_false, noName, site,
      inert.navigation]
  | some url => simp only [readBody, inert.manualStep, Option.isSome_none, Bool.false_eq_true, if_false, noName, site]

theorem readBody_inert {s : Scan} {line : List Char} (inert : Inert line)
    (unnamed : s.inHeader = false ∨ testName? line = none) (header : s.inHeader = false ∨ isHeaderLine line = true) :
    s.readBody line = s := by
  have kept : (s.inHeader && isHeaderLine line) = s.inHeader := by
    rcases header with body | goesOn
    · simp [body]
    · simp [goesOn]
  rw [readBody_unnamed inert unnamed, kept]

/-- None of the fields that a header has. -/
structure Unmarked (line : List Char) : Prop where
  id : expect idMarker.toList line = none
  created : expect createdMarker.toList line = none
  description : expect descriptionMarker.toList line = none

theorem readLine_unmarked (s : Scan) {raw : List Char} (unmarked : Unmarked (Text.trim raw)) :
    s.readLine raw = .ok (s.readBody (Text.trim raw)) := by
  simp only [readLine, unmarked.id, unmarked.created, unmarked.description, ite_self]

theorem readLine_body {s : Scan} (body : s.inHeader = false) (raw : List Char) :
    s.readLine raw = .ok (s.readBody (Text.trim raw)) := by simp [readLine, body]

theorem foldlM_cons {s t : Scan} {raw : List Char} (read : s.readLine raw = .ok t) (rest : List (List Char)) :
    (raw :: rest).foldlM readLine s = rest.foldlM readLine t := by
  rw [List.foldlM_cons, read]
  rfl

theorem readLine_inert {s : Scan} {raw : List Char} (inert : Inert (Text.trim raw))
    (goesOn : isHeaderLine (Text.trim raw) = true) (unmarked : Unmarked (Text.trim raw))
    (unnamed : testName? (Text.trim raw) = none) : s.readLine raw = .ok s := by
  rw [readLine_unmarked s unmarked, readBody_inert inert (.inr unnamed) (.inr goesOn)]

theorem trim_marked {marker : List Char} (inner : List Char) (ends : marker = '/' :: (inner ++ [':'])) (cs : List Char) :
    Text.trim (marker ++ cs) = marker ++ Text.trimRight cs := by
  rw [ends, Text.trim, List.cons_append, Text.trimLeft_visible (by decide), List.append_assoc, List.singleton_append,
    ← List.cons_append, Text.trimRight_visible (by decide)]
  simp

theorem readLine_id {s : Scan} (header : s.inHeader = true) {id : String} (some : id ≠ "")
    (trimmed : Text.Trimmed id.toList) : s.readLine (idMarker ++ " " ++ id).toList = .ok { s with id := id } := by
  have shape : (idMarker ++ " " ++ id).toList = idMarker.toList ++ ' ' :: id.toList := by simp
  have line : Text.trim (idMarker ++ " " ++ id).toList = idMarker.toList ++ Text.trimRight (' ' :: id.toList) := by
    rw [shape]
    exact trim_marked "/ Recording ID".toList (by rfl) _
  have kept : nonempty? id = .some id := by simp [nonempty?, some]
  rw [readLine]
  simp only [header, Bool.not_true, Bool.false_eq_true, if_false, line, expect_append,
    Text.trim_trimRight_blank (by decide : Text.isBlank ' ' = true) trimmed, String.ofList_toList, kept, Option.getD_some]

theorem readLine_created {s : Scan} (header : s.inHeader = true) {t u : Instant}
    (time : ∀ cs, Text.trim cs = t.headerText.toList → readTimestamp cs = .ok u) :
    s.readLine (createdMarker ++ " " ++ t.headerText).toList = .ok { s with createdAt := u } := by
  have shape : (createdMarker ++ " " ++ t.headerText).toList = createdMarker.toList ++ ' ' :: t.headerText.toList := by
    simp
  have line : Text.trim (createdMarker ++ " " ++ t.headerText).toList =
      createdMarker.toList ++ Text.trimRight (' ' :: t.headerText.toList) := by
    rw [shape]
    exact trim_marked "/ Created".toList (by rfl) _
  have noId (rest : List Char) : expect idMarker.toList (createdMarker.toList ++ rest) = none := rfl
  have trimmed : Text.Trimmed t.headerText.toList := Text.trimmed_of_visible t.headerText_visible
  have time := time _ (Text.trim_trimRight_blank (b := ' ') (by decide) trimmed)
  rw [readLine]
  simp only [header, Bool.not_true, Bool.false_eq_true, if_false, line, noId, expect_append, time]
  rfl

theorem readLine_description {s : Scan} (header : s.inHeader = true) {text : String} (some : text ≠ "") :
    s.readLine (descriptionMarker ++ " " ++ String.ofList (escape text.toList)).toList =
      .ok { s with description := text } := by
  have shape : (descriptionMarker ++ " " ++ String.ofList (escape text.toList)).toList =
      descriptionMarker.toList ++ ' ' :: escape text.toList := by simp
  have line : Text.trim (descriptionMarker ++ " " ++ String.ofList (escape text.toList)).toList =
      descriptionMarker.toList ++ Text.trimRight (' ' :: escape text.toList) := by
    rw [shape]
    exact trim_marked "/ Description".toList (by rfl) _
  have noId (rest : List Char) : expect idMarker.toList (descriptionMarker.toList ++ rest) = none := rfl
  have noTime (rest : List Char) : expect createdMarker.toList (descriptionMarker.toList ++ rest) = none := rfl
  have rest : (Text.trimLeft (descriptionMarker ++ " " ++ String.ofList (escape text.toList)).toList).drop
      descriptionMarker.length = ' ' :: escape text.toList := by
    rw [shape]
    exact List.drop_left' rfl
  have kept : nonempty? text = .some text := by simp [nonempty?, some]
  rw [readLine]
  simp only [header, Bool.not_true, Bool.false_eq_true, if_false, line, noId, noTime, expect_append, rest,
    readDescription, unescapedText_escape, kept]

theorem readLine_test {s : Scan} (header : s.inHeader = true) (unnamed : s.name = none) (name : String) :
    s.readLine ("test(" ++ quoted name ++ ", async (\x7b page \x7d) => \x7b").toList =
      .ok { s with name := some name, inHeader := false } := by
  let tail := ", async (\x7b page \x7d) => \x7b".toList
  have line : Text.trim ("test(" ++ quoted name ++ ", async (\x7b page \x7d) => \x7b").toList =
      "test(".toList ++ ((quoted name).toList ++ tail) := by
    have shape : ("test(" ++ quoted name ++ ", async (\x7b page \x7d) => \x7b").toList =
        't' :: ("est(".toList ++ (quoted name).toList ++ ", async (\x7b page \x7d) => ".toList ++ ['\x7b']) := by simp
    rw [shape, Text.trim, Text.trimLeft_visible (by decide), ← List.cons_append, Text.trimRight_end (by decide)]
    simp [tail]
  have noMark (rest : List Char) : expect manualStepMarker.toList ("test(".toList ++ rest) = none := rfl
  have noId (rest : List Char) : expect idMarker.toList ("test(".toList ++ rest) = none := rfl
  have noTime (rest : List Char) : expect createdMarker.toList ("test(".toList ++ rest) = none := rfl
  have noDescription (rest : List Char) : expect descriptionMarker.toList ("test(".toList ++ rest) = none := rfl
  have named (rest : List Char) : testName? ("test(".toList ++ ((quoted name).toList ++ rest)) = some name := by
    rw [testName?, expect_append, Option.bind_eq_bind, Option.bind_some, quoted_trimLeft, literal_quoted]
    simp [unescapedText_escape]
  have body (rest : List Char) : isHeaderLine ("test(".toList ++ rest) = false := rfl
  rw [readLine]
  simp only [header, Bool.not_true, Bool.false_eq_true, if_false, line, noId, noTime, noDescription, readBody, noMark,
    Option.isSome_none, unnamed, Option.isNone_none, Bool.and_self, if_true, named, body, Bool.and_false]

theorem inert_comment (mark : List Char) {c : Char} (visible : Text.isBlank c = false)
    (other : ∀ rest, expect manualStepMarker.toList ('/' :: '/' :: (mark ++ c :: rest)) = none) (rest : List Char) :
    Inert (Text.trim ('/' :: '/' :: (mark ++ c :: rest))) := by
  rw [trim_comment mark visible]
  exact ⟨other _, rfl⟩

theorem readLine_inert_body {s : Scan} (body : s.inHeader = false) {raw : List Char} (inert : Inert (Text.trim raw)) :
    s.readLine raw = .ok s := by
  rw [readLine_body body, readBody_inert inert (.inl body) (.inl body)]

theorem inert_line {a : Action} (act : a.kind ≠ .manualStep) (remark : List Char) :
    Inert ((Statement.ofAction a).line.toList ++ remark) := by
  have kinds : (Statement.ofAction a).isExecutable = true ∧ (Statement.ofAction a).method ≠ "goto" := by
    unfold Statement.ofAction
    cases kind : a.kind with
    | manualStep => exact absurd kind act
    | _ => exact ⟨rfl, of_decide_eq_true rfl⟩
  obtain ⟨inner, ends⟩ := Statement.line_ends kinds.1
  refine ⟨?_, textCall?_other kinds.1 (by decide) kinds.2 remark⟩
  rw [ends]
  rfl

theorem readLine_step {s : Scan} (body : s.inHeader = false) {a : Action} {step : Step}
    (written : Step.ofAction a = .ok step) : s.readLine (indent ++ step.line).toList =
      .ok { s with manualSteps := s.manualSteps + [a].countP (·.kind == .manualStep) } := by
  obtain ⟨statement, _, plain⟩ := Step.ofAction_ok written
  rw [readLine_body body, toList_indent, trim_indent, Step.line, statement, String.toList_append]
  by_cases kind : a.kind = .manualStep
  · have same : Statement.ofAction a = .manualStep a.instruction := by rw [Statement.ofAction, kind]
    have shape : (Statement.manualStep a.instruction).line.toList =
        manualStepMarker.toList ++ ' ' :: a.instruction.toList := by simp
    rw [plain kind, same, String.toList_empty, List.append_nil, shape,
      trim_marked "/ MANUAL STEP".toList (by rfl)]
    simp only [readBody, expect_append, Option.isSome_some, if_true, body, Bool.false_and]
    simp [kind]
  · have act : (Statement.ofAction a).isExecutable = true := by
      unfold Statement.ofAction
      cases kind' : a.kind <;> first | rfl | exact absurd kind' kind
    rw [trim_line act, readBody_inert (inert_line kind _) (.inl body) (.inl body)]
    simp [kind]

theorem scan_pageComment {s : Scan} (body : s.inHeader = false) (last : Option String) (a : Action)
    (rest : List (List Char)) :
    ((pageComment last a).map (fun line => (indent ++ line).toList) ++ rest).foldlM readLine s =
      rest.foldlM readLine s := by
  rcases pageComment_cases last a with none | ⟨url, _, same⟩
  · rw [none]
    rfl
  · have shape : (indent ++ ("// Page navigated to: " ++ url)).toList =
        ' ' :: ' ' :: '/' :: '/' :: (" Page navigated to".toList ++ ':' :: ' ' :: url.toList) := by
      rw [toList_indent]
      simp
    rw [same, List.map_singleton, List.singleton_append]
    refine foldlM_cons (readLine_inert_body body ?_) rest
    rw [shape, trim_indent]
    exact inert_comment _ (by decide) (fun _ => rfl) _

/-- The body of a script tells its steps by hand and nothing else. -/
theorem scan_blockLines {last : Option String} {bs : List Block} {lines : List String}
    (written : blockLines last bs = .ok lines) {s : Scan} (body : s.inHeader = false) :
    (lines.map fun line => (indent ++ line).toList).foldlM readLine s =
      .ok { s with manualSteps := s.manualSteps + bs.countP (·.last.kind == .manualStep) } := by
  refine blockLines_induction (motive := fun bs lines => ∀ s : Scan, s.inHeader = false →
    (lines.map fun line => (indent ++ line).toList).foldlM readLine s =
      .ok { s with manualSteps := s.manualSteps + bs.countP (·.last.kind == .manualStep) })
    (fun s _ => rfl) ?_ written s body
  intro last b bs step lines written ih s body
  rw [List.map_append, scan_pageComment body, List.map_cons, foldlM_cons (readLine_step body written), ih]
  · simp only [List.countP_cons, List.countP_nil]
    congr 2
    omega
  · exact body

theorem scan_startLines {s : Scan} (body : s.inHeader = false) (unknown : s.targetSite = none)
    (targetSite : Option String) : ((startLines targetSite).map String.toList).foldlM readLine s =
      .ok { s with targetSite := targetSite.filter (!·.isEmpty) } := by
  have same : { s with targetSite := none } = s := by rw [← unknown]
  cases targetSite with
  | none =>
    rw [Option.filter_none, same]
    rfl
  | some url =>
    by_cases empty : url = ""
    · subst empty
      rw [show (some "").filter (!String.isEmpty ·) = none from rfl, same]
      rfl
    · have shape : startLines (some url) = [indent ++ "// Navigate to starting URL",
          indent ++ (Statement.navigate url).line, ""] := by simp [startLines, empty]
      have kept : (some url).filter (!·.isEmpty) = some url := by simp [Option.filter, empty]
      have noMark (rest : List Char) :
          expect manualStepMarker.toList ((Statement.navigate url).line.toList ++ rest) = none := by
        obtain ⟨inner, ends⟩ := Statement.line_ends (s := .navigate url) rfl
        rw [ends]
        rfl
      have navigate : s.readLine (indent ++ (Statement.navigate url).line).toList =
          .ok { s with targetSite := some url } := by
        rw [readLine_body body, toList_indent, trim_indent, ← List.append_nil (Statement.navigate url).line.toList,
          trim_line rfl]
        simp only [readBody, noMark, Option.isSome_none, Bool.false_eq_true, if_false, body, Bool.false_and, unknown,
          textCall?_navigate]
      have comment : s.readLine (indent ++ "// Navigate to starting URL").toList = .ok s :=
        readLine_inert_body body ⟨by decide, by decide⟩
      have blank (t : Scan) (after : t.inHeader = false) : t.readLine "".toList = .ok t :=
        readLine_inert_body after ⟨by decide, by decide⟩
      rw [shape, List.map_cons, foldlM_cons comment, List.map_cons, foldlM_cons navigate, List.map_cons,
        foldlM_cons (blank { s with targetSite := some url } body), kept]
      rfl

/-- The fields of a header are read one by one. -/
theorem scan_fields (h : Header) (some : h.id ≠ "") (trimmed : Text.Trimmed h.id.toList) {u : Instant}
    (time : ∀ cs, Text.trim cs = h.createdAt.headerText.toList → readTimestamp cs = .ok u) (id : String)
    (rest : List (List Char)) : ((h.fieldLines.map String.toList) ++ rest).foldlM readLine { id } =
      rest.foldlM readLine { id := h.id, description := h.descriptionText?, createdAt := u } := by
  have importing (s : Scan) : s.readLine importLine.toList = .ok s :=
    readLine_inert ⟨by decide, by decide⟩ (by decide) ⟨by decide, by decide, by decide⟩ (by decide)
  have blank (s : Scan) : s.readLine "".toList = .ok s :=
    readLine_inert ⟨by decide, by decide⟩ (by decide) ⟨by decide, by decide, by decide⟩ (by decide)
  rw [Header.fieldLines]
  simp only [List.map_cons, List.map_nil, List.cons_append, List.nil_append, List.map_append, List.append_assoc]
  rw [foldlM_cons (importing _), foldlM_cons (blank _), foldlM_cons (readLine_id rfl some trimmed),
    foldlM_cons (readLine_created rfl time), Header.descriptionLines]
  cases found : h.descriptionText? with
  | none =>
    simp only [Option.toList_none, List.map_nil, List.nil_append]
    rw [foldlM_cons (blank _)]
  | some text =>
    have filled : text ≠ "" := by
      obtain ⟨v, present, rfl⟩ := Option.map_eq_some_iff.mp found
      obtain ⟨w, _, kept⟩ := Option.bind_eq_some_iff.mp present
      obtain ⟨rfl, filled⟩ := Value.present?_some kept
      exact Value.text_filled filled
    simp only [Option.toList_some, List.map_cons, List.map_nil, List.cons_append, List.nil_append]
    rw [foldlM_cons (readLine_description rfl filled), foldlM_cons (blank _)]

/-- The header of a script ends with the line that opens the test. -/
theorem scan_header {h : Header} {lines : List String} (written : h.lines = .ok lines) (some : h.id ≠ "")
    (trimmed : Text.Trimmed h.id.toList) {u : Instant}
    (time : ∀ cs, Text.trim cs = h.createdAt.headerText.toList → readTimestamp cs = .ok u) (id : String) :
    (lines.map String.toList).foldlM readLine { id } =
      .ok { id := h.id, name := h.nameText, description := h.descriptionText?, createdAt := u, inHeader := false } := by
  rw [Header.lines_fields written, List.map_append, scan_fields h some trimmed time, List.map_singleton,
    Header.testLine, foldlM_cons (readLine_test rfl rfl h.nameText)]
  rfl

end Scan

theorem scan_render {h : Header} {as : List Action} {script : String} (rendered : render h as = .ok script)
    (safe : h.LineSafe) (lineSafe : ∀ a ∈ as, a.LineSafe) (some : h.id ≠ "") (trimmed : Text.Trimmed h.id.toList)
    {u : Instant} (time : ∀ cs, Text.trim cs = h.createdAt.headerText.toList → readTimestamp cs = .ok u)
    (fileName suffix : String) : summary fileName script suffix = .ok (Scan.recording
      { id := h.id, name := h.nameText, description := h.descriptionText?, createdAt := u,
        targetSite := h.targetSite.filter (!·.isEmpty), manualSteps := as.countP (·.kind == .manualStep),
        inHeader := false }) := by
  obtain ⟨lines, body, headed, written, rfl⟩ := render_ok rendered
  have closing (s : Scan) (after : s.inHeader = false) : s.readLine "\x7d);".toList = .ok s :=
    Scan.readLine_inert_body after ⟨by decide, by decide⟩
  have inputs : ∀ a : Action, a.kind = .input → (a.kind == .manualStep) = false := by
    intro a kind
    rw [kind]
    rfl
  rw [summary, splitLines_render headed written safe lineSafe]
  simp only [List.map_append, List.foldlM_append, List.map_map]
  rw [Scan.scan_header headed some trimmed time]
  dsimp only [Bind.bind, Except.bind]
  rw [Scan.scan_startLines rfl rfl]
  dsimp only
  rw [show String.toList ∘ (indent ++ ·) = fun line => (indent ++ line).toList from rfl,
    Scan.scan_blockLines written rfl, countP_blocks inputs]
  dsimp only
  rw [List.map_singleton, Scan.foldlM_cons (closing _ rfl), Nat.zero_add]
  rfl

/-- The summary of a script tells its header, whatever file it is in, with the time cut to milliseconds and empty
    texts left out, and the number of the steps by hand. -/
theorem summary_render (h : Header) (as : List Action) (script : String) (textual : h.Textual) (safe : h.LineSafe)
    (lineSafe : ∀ a ∈ as, a.LineSafe) (some : h.id ≠ "") (trimmed : Text.Trimmed h.id.toList)
    (first : 1000 ≤ h.createdAt.date.year) (last : h.createdAt.date.year ≤ 9999) (rendered : render h as = .ok script)
    (fileName suffix : String) : summary fileName script suffix = .ok
      { id := h.id
        name := h.name
        description := h.description.bind Value.present?
        createdAt := h.createdAt.toMillisecond
        updatedAt := h.createdAt.toMillisecond
        actions := []
        targetSite := h.targetSite.filter (!·.isEmpty)
        manualSteps := as.countP (·.kind == .manualStep) } := by
  have description : h.descriptionText?.map Value.str = h.description.bind Value.present? := by
    rw [Header.descriptionText?, Option.map_map]
    cases found : h.description.bind Value.present? with
    | none => rfl
    | some v =>
      obtain ⟨s, rfl⟩ := textual.description.present v found
      rfl
  obtain ⟨name, named⟩ := textual.name
  have nameText : Value.str h.nameText = h.name := by
    rw [Header.nameText, named]
    rfl
  rw [scan_render rendered safe lineSafe some trimmed (fun cs text => readTimestamp_headerText first last text)]
  simp only [Scan.recording, Option.getD_some, description, nameText]

theorem summary_render_login : ∃ script,
    render { id := "r1", name := .str "it's\nme", createdAt := ⟨1700000000123456⟩, description := some (.str " a\\ "),
             targetSite := some "" }
      [{ kind := .manualStep, description := some (.str "log\nin"), time := .epoch, id := "1" },
        { kind := .input, value := some (.str "// MANUAL STEP:"), time := .epoch, id := "2" }] = .ok script ∧
    summary "x" script ".spec.ts" = .ok
      { id := "r1", name := .str "it's\nme", createdAt := ⟨1700000000123000⟩, updatedAt := ⟨1700000000123000⟩,
        description := some (.str " a\\ "), manualSteps := 1 } := by
  obtain ⟨script, rendered⟩ : ∃ script, render
      { id := "r1", name := .str "it's\nme", createdAt := ⟨1700000000123456⟩, description := some (.str " a\\ "),
        targetSite := some "" }
      [{ kind := .manualStep, description := some (.str "log\nin"), time := .epoch, id := "1" },
        { kind := .input, value := some (.str "// MANUAL STEP:"), time := .epoch, id := "2" }] = .ok script :=
    ⟨_, rfl⟩
  refine ⟨script, rendered, ?_⟩
  refine (summary_render _ _ script ⟨⟨_, rfl⟩, by simp⟩ ⟨by decide, by decide, by decide, by decide⟩ ?_ (by decide)
    (by decide) (by decide) (by decide) rendered _ _).trans ?_
  · simp only [List.forall_mem_cons, List.not_mem_nil, false_implies, implies_true, and_true]
    exact ⟨⟨by decide, by decide, by decide, nofun⟩, ⟨by decide, fun _ => by decide, fun _ => by decide, nofun⟩⟩
  · rfl

end BrowserFlow.Script
