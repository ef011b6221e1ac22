import BrowserFlow.Proofs.Script.Block
import BrowserFlow.Proofs.Script.Step
import BrowserFlow.Proofs.Time.HeaderText
import BrowserFlow.Script.Reader

namespace BrowserFlow.Script

theorem blockLines_induction {motive : List Block → List String → Prop} (nil : motive [] [])
    (cons : ∀ last b bs step body, Step.ofAction b.last = .ok step → motive bs body →
      motive (b :: bs) (pageComment last b.first ++ step.line :: body))
    {last : Option String} {bs : List Block} {body : List String} (h : blockLines last bs = .ok body) :
    motive bs body := by
  induction bs generalizing last body with
  | nil => cases h; exact nil
  | cons b bs ih =>
    rw [blockLines] at h
    obtain ⟨step, written, h⟩ := bind_ok h
    obtain ⟨rest, after, h⟩ := bind_ok h
    cases h
    exact cons last b bs step rest written (ih after)

theorem blockLines_steps {last : Option String} {bs : List Block} {body : List String}
    (written : blockLines last bs = .ok body) : ∀ b ∈ bs, ∃ step, Step.ofAction b.last = .ok step := by
  refine blockLines_induction (motive := fun bs _ => ∀ b ∈ bs, ∃ step, Step.ofAction b.last = .ok step)
    (by simp) ?_ written
  intro last b bs step body step_ok ih
  exact List.forall_mem_cons.mpr ⟨⟨step, step_ok⟩, ih⟩

theorem blockLines_total (last : Option String) (bs : List Block)
    (total : ∀ b ∈ bs, ∃ step, Step.ofAction b.last = .ok step) : ∃ body, blockLines last bs = .ok body := by
  induction bs generalizing last with
  | nil => exact ⟨[], rfl⟩
  | cons b bs ih =>
    obtain ⟨step, written⟩ := total b (by simp)
    obtain ⟨rest, after⟩ := ih (pageAfter last b.first) fun c member => total c (List.mem_cons_of_mem _ member)
    exact ⟨_, by rw [blockLines, written, after]; rfl⟩

theorem pageComment_cases (last : Option String) (a : Action) :
    pageComment last a = [] ∨ ∃ url, a.pageUrl = some url ∧ pageComment last a = ["// Page navigated to: " ++ url] := by
  unfold pageComment
  cases found : newPage? last a with
  | none => exact .inl rfl
  | some url => exact .inr ⟨url, (Option.filter_eq_some_iff.mp found).1, rfl⟩

namespace Header

structure Textual (h : Header) : Prop where
  name : ∃ s, h.name = .str s
  description : Value.Textual h.description

/-- The name between the quotes of a script. -/
def nameText (h : Header) : String := (h.name.given?.map Value.text).getD ""

def descriptionText? (h : Header) : Option String := (h.description.bind Value.present?).map Value.text

/-- The id has no line boundary, and what is escaped none but those that are. -/
structure LineSafe (h : Header) : Prop where
  id : Text.Unbroken h.id.toList
  name : Escapable h.nameText.toList
  description : ∀ text ∈ h.descriptionText?, Escapable text.toList
  targetSite : ∀ url ∈ h.targetSite, Escapable url.toList

def descriptionLines (h : Header) : List String :=
  h.descriptionText?.toList.map fun text => descriptionMarker ++ " " ++ String.ofList (escape text.toList)

theorem quotableOr_null {v : Value} {s : String} (h : quotableOr "" v.given? = .ok s) :
    s = (v.given?.map Value.text).getD "" := by
  cases found : v.given? with
  | none =>
    simp only [found, quotableOr] at h
    cases h
    rfl
  | some x =>
    simp only [found, quotableOr] at h
    rw [quotable_ok h]
    rfl

theorem lines_ok {h : Header} {lines : List String} (written : h.lines = .ok lines) :
    lines = [importLine, "", idMarker ++ " " ++ h.id, createdMarker ++ " " ++ h.createdAt.headerText] ++
      h.descriptionLines ++ ["", "test(" ++ quoted h.nameText ++ ", async (\x7b page \x7d) => \x7b"] := by
  rw [Header.lines] at written
  rw [descriptionLines, descriptionText?, nameText]
  cases found : h.description.bind Value.present? with
  | none =>
    rw [found] at written
    obtain ⟨none, given, written⟩ := bind_ok written
    obtain ⟨name, named, written⟩ := bind_ok written
    cases given
    cases written
    rw [← quotableOr_null named]
    rfl
  | some v =>
    rw [found] at written
    obtain ⟨text, quoted, written⟩ := bind_ok written
    obtain ⟨line, given, written⟩ := bind_ok written
    obtain ⟨name, named, written⟩ := bind_ok written
    cases given
    cases written
    rw [← quotableOr_null named, quotable_ok quoted]
    rfl

/-- The lines before the one that opens the test. -/
def fieldLines (h : Header) : List String :=
  [importLine, "", idMarker ++ " " ++ h.id, createdMarker ++ " " ++ h.createdAt.headerText] ++ h.descriptionLines ++ [""]

def testLine (h : Header) : String := "test(" ++ quoted h.nameText ++ ", async (\x7b page \x7d) => \x7b"

theorem lines_fields {h : Header} {lines : List String} (written : h.lines = .ok lines) :
    lines = h.fieldLines ++ [h.testLine] := by
  rw [lines_ok written, fieldLines, testLine, List.append_assoc _ [""]]
  rfl

theorem lines_total {h : Header} (textual : h.Textual) : ∃ lines, h.lines = .ok lines := by
  obtain ⟨name, named⟩ := textual.name
  rw [Header.lines, named]
  cases found : h.description.bind Value.present? with
  | none => exact ⟨_, rfl⟩
  | some v =>
    obtain ⟨text, rfl⟩ := textual.description.present v found
    exact ⟨_, rfl⟩

end Header

/-- A script is its header, the first navigation, a line per block and the end of the test. -/
theorem render_ok {h : Header} {as : List Action} {script : String} (rendered : render h as = .ok script) :
    ∃ header body, h.lines = .ok header ∧ blockLines h.targetSite (blocks as) = .ok body ∧
      script = joinLines (header ++ startLines h.targetSite ++ body.map (indent ++ ·) ++ ["\x7d);"]) := by
  rw [render] at rendered
  obtain ⟨header, hh, rendered⟩ := bind_ok rendered
  obtain ⟨body, hb, rendered⟩ := bind_ok rendered
  cases rendered
  exact ⟨header, body, hh, by rw [← (bodyLines_eq as).1]; exact hb, rfl⟩

theorem render_of_steps {h : Header} {as : List Action} (header : h.Textual)
    (steps : ∀ b ∈ blocks as, ∃ step, Step.ofAction b.last = .ok step) : ∃ script, render h as = .ok script := by
  obtain ⟨lines, hl⟩ := Header.lines_total header
  obtain ⟨body, hb⟩ := blockLines_total h.targetSite (blocks as) steps
  exact ⟨_, by rw [render, hl, (bodyLines_eq as).1, hb]; rfl⟩

theorem render_total {h : Header} {as : List Action} (header : h.Textual) (textual : ∀ a ∈ as, a.Textual)
    (convertible : ∀ a ∈ as, a.Convertible) : ∃ script, render h as = .ok script := by
  refine render_of_steps header fun b member => ?_
  have inside := mem_of_mem_blocks member b.last_mem
  exact Step.ofAction_total (textual _ inside) (convertible _ inside)

theorem toList_joinLines (lines : List String) :
    (joinLines lines).toList = (lines.map String.toList).flatMap (· ++ ['\n']) := by
  simp [joinLines, String.toList_join, List.flatMap_map]

/-- The lines that a line of a script is read as, more than one if it has a boundary inside. -/
def pieces (line : String) : List (List Char) := Text.splitLines (line.toList ++ ['\n'])

theorem pieces_unbroken {line : String} (unbroken : Text.Unbroken line.toList) : pieces line = [line.toList] :=
  Text.splitLines_line line.toList [] unbroken

theorem splitLines_pieces (lines : List String) :
    Text.splitLines (joinLines lines).toList = lines.flatMap pieces := by
  rw [toList_joinLines, Text.splitLines_flatMap, List.flatMap_map]
  rfl

theorem pieces_lines {lines : List String} (unbroken : ∀ line ∈ lines, Text.Unbroken line.toList) :
    lines.flatMap pieces = lines.map String.toList := by
  induction lines with
  | nil => rfl
  | cons line lines ih =>
    obtain ⟨first, rest⟩ := List.forall_mem_cons.mp unbroken
    rw [List.flatMap_cons, pieces_unbroken first, ih rest]
    rfl

theorem splitLines_joinLines (lines : List String) (unbroken : ∀ line ∈ lines, Text.Unbroken line.toList) :
    Text.splitLines (joinLines lines).toList = lines.map String.toList := by
  rw [splitLines_pieces, pieces_lines unbroken]

theorem toList_indent (line : String) : (indent ++ line).toList = ' ' :: ' ' :: line.toList := by
  simp [indent]

theorem Header.fieldLines_unbroken {h : Header} (id : Text.Unbroken h.id.toList)
    (description : ∀ text ∈ h.descriptionText?, Escapable text.toList) :
    ∀ line ∈ h.fieldLines, Text.Unbroken line.toList := by
  have id : Text.Unbroken (idMarker ++ " " ++ h.id).toList := by
    simp only [String.toList_append]
    exact Text.Unbroken.append (by decide) id
  have created : Text.Unbroken (createdMarker ++ " " ++ h.createdAt.headerText).toList := by
    simp only [String.toList_append]
    exact Text.Unbroken.append (by decide) h.createdAt.headerText_unbroken
  have description : ∀ line ∈ h.descriptionLines, Text.Unbroken line.toList := by
    intro line member
    obtain ⟨text, inside, rfl⟩ := List.mem_map.mp member
    simp only [String.toList_append, String.toList_ofList]
    exact Text.Unbroken.append (by decide) (escape_unbroken (description text (Option.mem_toList.mp inside)))
  intro line member
  rw [fieldLines] at member
  rcases List.mem_append.mp member with member | member
  · rcases List.mem_append.mp member with member | member
    · simp only [List.mem_cons, List.not_mem_nil, or_false] at member
      rcases member with rfl | rfl | rfl | rfl
      · decide
      · decide
      · exact id
      · exact created
    · exact description line member
  · rw [List.mem_singleton.mp member]
    decide

theorem Header.lines_unbroken {h : Header} (safe : h.LineSafe) {lines : List String} (written : h.lines = .ok lines) :
    ∀ line ∈ lines, Text.Unbroken line.toList := by
  intro line member
  rw [lines_fields written] at member
  rcases List.mem_append.mp member with member | member
  · exact fieldLines_unbroken safe.id safe.description line member
  · rw [List.mem_singleton.mp member, testLine]
    simp only [String.toList_append]
    exact (Text.Unbroken.append (by decide) (quoted_unbroken safe.name)).append (by decide)

theorem startLines_unbroken {targetSite : Option String} (safe : ∀ url ∈ targetSite, Escapable url.toList) :
    ∀ line ∈ startLines targetSite, Text.Unbroken line.toList := by
  intro line member
  unfold startLines at member
  split at member
  · rename_i url
    split at member
    · cases member
    · simp only [List.mem_cons, List.not_mem_nil, or_false] at member
      rcases member with rfl | rfl | rfl
      · decide
      · rw [toList_indent, Statement.line_navigate]
        simp only [String.toList_append]
        have target := quoted_unbroken (safe url rfl)
        exact .cons (by decide) (.cons (by decide) ((Text.Unbroken.append (by decide) target).append (by decide)))
      · decide
  · cases member

theorem pageComment_unbroken {a : Action} (safe : a.LineSafe) (last : Option String) :
    ∀ line ∈ pageComment last a, Text.Unbroken line.toList := by
  intro line member
  rcases pageComment_cases last a with none | ⟨url, page, same⟩
  · simp [none] at member
  · rw [same, List.mem_singleton] at member
    subst member
    rw [String.toList_append]
    exact Text.Unbroken.append (by decide) (safe.pageUrl url page)

theorem Step.line_unbroken {a : Action} (safe : a.LineSafe) {step : Step} (written : Step.ofAction a = .ok step) :
    Text.Unbroken step.line.toList := by
  obtain ⟨statement, remark, _⟩ := Step.ofAction_ok written
  rw [Step.line, statement, String.toList_append]
  exact (Statement.ofAction_unbroken safe).append remark

theorem blockLines_unbroken {last : Option String} {bs : List Block} {body : List String}
    (written : blockLines last bs = .ok body) (safe : ∀ b ∈ bs, ∀ a ∈ b.actions, a.LineSafe) :
    ∀ line ∈ body, Text.Unbroken line.toList := by
  refine blockLines_induction (motive := fun bs body =>
    (∀ b ∈ bs, ∀ a ∈ b.actions, a.LineSafe) → ∀ line ∈ body, Text.Unbroken line.toList) (by simp) ?_ written safe
  intro last b bs step body step_ok ih safe line member
  have here := safe b (by simp)
  rcases List.mem_append.mp member with member | member
  · exact pageComment_unbroken (here b.first (by simp [Block.actions])) last line member
  · rcases List.mem_cons.mp member with rfl | member
    · exact Step.line_unbroken (here b.last b.last_mem) step_ok
    · exact ih (fun c inside => safe c (List.mem_cons_of_mem _ inside)) line member

theorem render_unbroken {h : Header} {as : List Action} {header body : List String}
    (headed : h.lines = .ok header) (written : blockLines h.targetSite (blocks as) = .ok body) (safe : h.LineSafe)
    (lineSafe : ∀ a ∈ as, a.LineSafe) :
    ∀ line ∈ header ++ startLines h.targetSite ++ body.map (indent ++ ·) ++ ["\x7d);"], Text.Unbroken line.toList := by
  have inside := blockLines_unbroken written fun b member a held => lineSafe a (mem_of_mem_blocks member held)
  intro line member
  rcases List.mem_append.mp member with member | member
  · rcases List.mem_append.mp member with member | member
    · rcases List.mem_append.mp member with member | member
      · exact Header.lines_unbroken safe headed line member
      · exact startLines_unbroken safe.targetSite line member
    · obtain ⟨text, held, rfl⟩ := List.mem_map.mp member
      rw [toList_indent]
      exact .cons (by decide) (.cons (by decide) (inside text held))
  · rw [List.mem_singleton.mp member]
    decide

theorem splitLines_render {h : Header} {as : List Action} {header body : List String}
    (headed : h.lines = .ok header) (written : blockLines h.targetSite (blocks as) = .ok body) (safe : h.LineSafe)
    (lineSafe : ∀ a ∈ as, a.LineSafe) :
    Text.splitLines
        (joinLines (header ++ startLines h.targetSite ++ body.map (indent ++ ·) ++ ["\x7d);"])).toList =
      (header ++ startLines h.targetSite ++ body.map (indent ++ ·) ++ ["\x7d);"]).map String.toList :=
  splitLines_joinLines _ (render_unbroken headed written safe lineSafe)

/-- A script has no line ends that a reader would change. -/
theorem unifyNewlines_render {h : Header} {as : List Action} {script : String} (rendered : render h as = .ok script)
    (safe : h.LineSafe) (lineSafe : ∀ a ∈ as, a.LineSafe) : Text.unifyNewlines script.toList = script.toList := by
  obtain ⟨header, body, headed, written, rfl⟩ := render_ok rendered
  have unbroken := render_unbroken headed written safe lineSafe
  apply Text.unifyNewlines_plain
  intro c member
  rw [toList_joinLines] at member
  obtain ⟨line, held, inside⟩ := List.mem_flatMap.mp member
  obtain ⟨text, among, rfl⟩ := List.mem_map.mp held
  rcases List.mem_append.mp inside with inside | inside
  · rintro rfl
    exact absurd (unbroken text among '\r' inside) (by decide)
  · rw [List.mem_singleton.mp inside]
    decide

end BrowserFlow.Script
