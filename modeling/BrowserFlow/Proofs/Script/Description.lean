import BrowserFlow.Proofs.Script.Summary

/-!
The description in a header. It is read back as it is, with the id and the time beside it, just if its line boundaries
are those that are escaped; what the script says elsewhere, and in what words, does not matter.
-/

namespace BrowserFlow.Script

namespace Scan

/-- The same fields, but for the name, as in the header. -/
structure Keeps (s t : Scan) : Prop where
  id : t.id = s.id
  description : t.description = s.description
  createdAt : t.createdAt = s.createdAt

theorem Keeps.trans {s t u : Scan} (first : s.Keeps t) (second : t.Keeps u) : s.Keeps u :=
  ⟨second.id.trans first.id, second.description.trans first.description, second.createdAt.trans first.createdAt⟩

theorem readBody_keeps (s : Scan) (line : List Char) : s.Keeps (s.readBody line) := by
  unfold readBody
  split
  · exact ⟨rfl, rfl, rfl⟩
  · split
    · exact ⟨rfl, rfl, rfl⟩
    · split <;> exact ⟨rfl, rfl, rfl⟩

theorem readBody_inHeader (s : Scan) (line : List Char) :
    (s.readBody line).inHeader = (s.inHeader && isHeaderLine line) := by
  unfold readBody
  split
  · rfl
  · split
    · rfl
    · split <;> rfl

theorem readBody_name {s : Scan} (body : s.inHeader = false) (line : List Char) : (s.readBody line).name = s.name := by
  unfold readBody
  simp only [body, Bool.false_and, Bool.false_eq_true, if_false]
  split
  · rfl
  · cases s.targetSite <;> rfl

/-- After the header nothing can fail, and nothing overrides what the header says. -/
theorem scan_body {s : Scan} (body : s.inHeader = false) (lines : List (List Char)) :
    ∃ t, lines.foldlM readLine s = .ok t ∧ s.Keeps t ∧ t.name = s.name := by
  induction lines generalizing s with
  | nil => exact ⟨s, rfl, ⟨rfl, rfl, rfl⟩, rfl⟩
  | cons raw lines ih =>
    have after : (s.readBody (Text.trim raw)).inHeader = false := by rw [readBody_inHeader, body, Bool.false_and]
    obtain ⟨t, read, keeps, named⟩ := ih after
    exact ⟨t, (foldlM_cons (readLine_body body raw) lines).trans read, (readBody_keeps s _).trans keeps,
      named.trans (readBody_name body _)⟩

/-- The line that opens the test ends the header, even if the name breaks it. -/
theorem readLine_opens (s : Scan) (cs : List Char) : ∃ t, s.readLine ("test('".toList ++ cs) = .ok t ∧ s.Keeps t ∧
    t.inHeader = false := by
  have line : Text.trim ("test('".toList ++ cs) = "test('".toList ++ Text.trimRight cs := by
    have shape : "test('".toList ++ cs = 't' :: ("est(".toList ++ '\'' :: cs) := rfl
    rw [shape, Text.trim, Text.trimLeft_visible (by decide), ← List.cons_append, Text.trimRight_visible (by decide)]
    rfl
  have unmarked : Unmarked (Text.trim ("test('".toList ++ cs)) := by
    rw [line]
    exact ⟨rfl, rfl, rfl⟩
  have ends : isHeaderLine (Text.trim ("test('".toList ++ cs)) = false := by
    rw [line]
    rfl
  exact ⟨_, readLine_unmarked s unmarked, readBody_keeps s _, by rw [readBody_inHeader, ends, Bool.and_false]⟩

theorem readDescription_escapable {rest : List Char} (unbroken : Text.Unbroken rest) :
    ∀ text ∈ readDescription rest, Escapable text.toList := by
  have body (cs : List Char) (unbroken : Text.Unbroken cs) :
      ∀ text ∈ nonempty? (unescapedText cs), Escapable text.toList := by
    intro text read
    unfold nonempty? at read
    split at read
    · cases read
    · cases read
      rw [unescapedText, String.toList_ofList]
      exact unescape_escapable unbroken
  unfold readDescription
  split
  · exact body _ fun c member => unbroken c (List.mem_cons_of_mem _ member)
  · exact body _ unbroken

/-- What a scan has as the description comes from one line. -/
theorem readLine_description_escapable {s t : Scan} (told : ∀ text ∈ s.description, Escapable text.toList)
    {raw : List Char} (unbroken : Text.Unbroken raw) (read : s.readLine raw = .ok t) :
    ∀ text ∈ t.description, Escapable text.toList := by
  unfold readLine at read
  dsimp only at read
  split at read
  · cases read
    rw [(readBody_keeps s _).description]
    exact told
  · split at read
    · cases read
      exact told
    · split at read
      · obtain ⟨time, _, read⟩ := bind_ok read
        cases read
        exact told
      · split at read
        · cases read
          apply readDescription_escapable
          intro c member
          have kept : c ∈ Text.trimLeft raw := List.mem_of_mem_drop member
          exact unbroken c ((List.dropWhile_suffix Text.isBlank).subset kept)
        · cases read
          rw [(readBody_keeps s _).description]
          exact told

theorem scan_description_escapable {s t : Scan} (told : ∀ text ∈ s.description, Escapable text.toList)
    {lines : List (List Char)} (unbroken : ∀ line ∈ lines, Text.Unbroken line)
    (read : lines.foldlM readLine s = .ok t) : ∀ text ∈ t.description, Escapable text.toList := by
  induction lines generalizing s with
  | nil =>
    cases read
    exact told
  | cons raw lines ih =>
    obtain ⟨first, rest⟩ := List.forall_mem_cons.mp unbroken
    rw [List.foldlM_cons] at read
    obtain ⟨next, here, read⟩ := bind_ok read
    exact ih (readLine_description_escapable told first here) rest read

end Scan

theorem summary_description_escapable {fileName text suffix : String} {x : Recording}
    (told : summary fileName text suffix = .ok x) : ∀ d, x.description = some (.str d) → Escapable d.toList := by
  intro d description
  obtain ⟨s, read, made⟩ := bind_ok told
  cases made
  obtain ⟨same, kept, value⟩ := Option.map_eq_some_iff.mp description
  cases value
  exact Scan.scan_description_escapable (by simp) (Text.splitLines_unbroken _) read d kept

theorem summary_header {h : Header} {as : List Action} {script : String} (rendered : render h as = .ok script)
    (some : h.id ≠ "") (trimmed : Text.Trimmed h.id.toList) (unbroken : Text.Unbroken h.id.toList)
    (description : ∀ text ∈ h.descriptionText?, Escapable text.toList) {u : Instant}
    (time : ∀ cs, Text.trim cs = h.createdAt.headerText.toList → readTimestamp cs = .ok u) (fileName suffix : String) :
    ∃ x, summary fileName script suffix = .ok x ∧ x.id = h.id ∧ x.description = h.descriptionText?.map .str ∧
      x.createdAt = u := by
  obtain ⟨lines, body, headed, written, rfl⟩ := render_ok rendered
  rw [Header.lines_fields headed]
  have fields : h.fieldLines.flatMap pieces = h.fieldLines.map String.toList :=
    pieces_lines (Header.fieldLines_unbroken unbroken description)
  have opening : ∃ first others, pieces h.testLine = ("test('".toList ++ first) :: others := by
    have shape : h.testLine.toList ++ ['\n'] =
        "test('".toList ++ (escape h.nameText.toList ++ "', async (\x7b page \x7d) => \x7b\n".toList) := by
      simp [Header.testLine]
    rw [pieces, shape]
    exact Text.splitLines_front (by decide) (by simp)
  obtain ⟨first, others, opening⟩ := opening
  obtain ⟨t, opened, kept, ends⟩ :=
    Scan.readLine_opens { id := h.id, description := h.descriptionText?, createdAt := u } first
  let after := startLines h.targetSite ++ body.map (indent ++ ·) ++ ["\x7d);"]
  obtain ⟨v, read, kept', _⟩ := Scan.scan_body ends (others ++ after.flatMap pieces)
  have told := kept.trans kept'
  have shape : (h.fieldLines ++ [h.testLine] ++ startLines h.targetSite ++ body.map (indent ++ ·) ++
      ["\x7d);"]).flatMap pieces = h.fieldLines.map String.toList ++ (("test('".toList ++ first) :: others ++
        after.flatMap pieces) := by
    simp only [after, List.append_assoc, List.flatMap_append, fields, ← opening, List.flatMap_singleton]
  refine ⟨v.recording, ?_, told.id, ?_, told.createdAt⟩
  · rw [summary, splitLines_pieces, shape, Scan.scan_fields h some trimmed time, List.cons_append,
      Scan.foldlM_cons opened, read]
    rfl
  · exact congrArg (Option.map Value.str) told.description

/-- The summary of a script has the description that it was written with, and the id and the time to the millisecond,
    just if the description has no line boundaries but line feeds and carriage returns. Any other one cuts it short,
    and what follows there is read as a line of the header. -/
theorem description_kept {h : Header} {as : List Action} {script d : String} (described : h.description = some (.str d))
    (filled : d ≠ "") (identified : h.id ≠ "") (trimmed : Text.Trimmed h.id.toList) (unbroken : Text.Unbroken h.id.toList)
    (first : 1000 ≤ h.createdAt.date.year) (last : h.createdAt.date.year ≤ 9999) (rendered : render h as = .ok script)
    (fileName suffix : String) : (∃ x, summary fileName script suffix = .ok x ∧ x.id = h.id ∧
      x.description = some (.str d) ∧ x.createdAt = h.createdAt.toMillisecond) ↔ Escapable d.toList := by
  constructor
  · rintro ⟨x, told, _, description, _⟩
    exact summary_description_escapable told d description
  · intro escapable
    have text : h.descriptionText? = some d := by
      simp [Header.descriptionText?, described, Value.present?, Value.isPresent, Value.text, filled]
    have safe : ∀ text ∈ h.descriptionText?, Escapable text.toList := by
      rw [text]
      rintro _ ⟨⟩
      exact escapable
    obtain ⟨x, told, id, description, created⟩ := summary_header rendered identified trimmed unbroken safe
      (fun cs same => readTimestamp_headerText first last same) fileName suffix
    exact ⟨x, told, id, by rw [description, text]; rfl, created⟩

theorem description_kept_marks : ∃ script cut,
    render { id := "id-1", name := .str "a\u2028b", createdAt := ⟨1700000000123456⟩,
             description := some (.str " it's\n// Recording ID: id-2\\\t ") } [] = .ok script ∧
    (∃ x, summary "x" script ".spec.ts" = .ok x ∧ x.id = "id-1" ∧
      x.description = some (.str " it's\n// Recording ID: id-2\\\t ") ∧ x.createdAt = ⟨1700000000123000⟩) ∧
    render { id := "id-1", name := .str "a", createdAt := ⟨1700000000123456⟩,
             description := some (.str "a\u2028// Recording ID: id-2") } [] = .ok cut ∧
    ¬∃ x, summary "x" cut ".spec.ts" = .ok x ∧ x.id = "id-1" ∧
      x.description = some (.str "a\u2028// Recording ID: id-2") ∧ x.createdAt = ⟨1700000000123000⟩ := by
  let h : Header := { id := "id-1", name := .str "a\u2028b", createdAt := ⟨1700000000123456⟩,
                      description := some (.str " it's\n// Recording ID: id-2\\\t ") }
  let other : Header := { id := "id-1", name := .str "a", createdAt := ⟨1700000000123456⟩,
                          description := some (.str "a\u2028// Recording ID: id-2") }
  obtain ⟨script, rendered⟩ : ∃ script, render h [] = .ok script := ⟨_, rfl⟩
  obtain ⟨cut, rendered'⟩ : ∃ cut, render other [] = .ok cut := ⟨_, rfl⟩
  have kept := description_kept (h := h) rfl (by decide) (by decide) (by decide) (by decide) (by decide) (by decide)
    rendered "x" ".spec.ts"
  have lost := description_kept (h := other) rfl (by decide) (by decide) (by decide) (by decide) (by decide) (by decide)
    rendered' "x" ".spec.ts"
  exact ⟨script, cut, rendered, kept.mpr (by decide), rendered', fun told => absurd (lost.mp told) (by decide)⟩

end BrowserFlow.Script
