import BrowserFlow.Proofs.Script.Header

/-!
What the lines after a header can change. From the first statement on no line reaches the id, the name, the description
or the time of a summary, whatever marks stand in it, and none keeps the text from having a summary.
-/

namespace BrowserFlow.Script

/-- Neither blank nor a comment nor an import: such a line ends a header. -/
structure IsStatement (raw : List Char) : Prop where
  filled : Text.trim raw ≠ []
  noComment : ¬"//".toList <+: Text.trim raw
  noImport : ¬"import ".toList <+: Text.trim raw

theorem IsStatement.ends {raw : List Char} (statement : IsStatement raw) :
    Scan.isHeaderLine (Text.trim raw) = false := by
  rw [Scan.isHeaderLine, Bool.or_eq_false_iff, Bool.or_eq_false_iff]
  refine ⟨⟨?_, ?_⟩, ?_⟩
  · exact List.isEmpty_eq_false_iff.mpr statement.filled
  · exact Bool.eq_false_iff.mpr (mt expect_isSome.mp statement.noComment)
  · exact Bool.eq_false_iff.mpr (mt expect_isSome.mp statement.noImport)

/-- What comes of the lines up to a statement settles whether there is a summary, and what its header says. -/
theorem summary_settled (fileName suffix : String) {front rest : List (List Char)} {first : List Char} {text : String}
    (statement : IsStatement first) (lines : Text.splitLines text.toList = front ++ first :: rest) :
    (∃ s t, (front ++ [first]).foldlM Scan.readLine { id := stem fileName suffix } = .ok s ∧
      summary fileName text suffix = .ok t.recording ∧ s.Keeps t ∧ t.name = s.name) ∨
    ∃ fault, (front ++ [first]).foldlM Scan.readLine { id := stem fileName suffix } = .error fault ∧
      summary fileName text suffix = .error fault := by
  have told : summary fileName text suffix = (do
      let s ← (front ++ [first]).foldlM Scan.readLine { id := stem fileName suffix }
      let t ← rest.foldlM Scan.readLine s
      return t.recording) := by
    rw [summary, lines, ← bind_assoc, ← List.foldlM_append, List.append_assoc, List.singleton_append]
  cases scanned : (front ++ [first]).foldlM Scan.readLine { id := stem fileName suffix } with
  | error fault =>
    rw [scanned] at told
    exact .inr ⟨fault, rfl, told⟩
  | ok s =>
    have ended : s.inHeader = false := by
      rw [List.foldlM_append] at scanned
      obtain ⟨u, _, last⟩ := bind_ok scanned
      rw [List.foldlM_cons] at last
      obtain ⟨v, read, same⟩ := bind_ok last
      cases same
      have reads := Scan.readLine_reads u first
      rw [read] at reads
      cases reads with
      | read header => rw [header, statement.ends, Bool.and_false]
    obtain ⟨t, read, keeps, named⟩ := Scan.scan_body ended rest
    rw [scanned] at told
    refine .inl ⟨s, t, rfl, told.trans ?_, keeps, named⟩
    change (rest.foldlM Scan.readLine s >>= fun scan => pure scan.recording) = _
    rw [read]
    rfl

/-- Two texts with the same lines up to a statement have summaries or not together, and the summaries differ in the
    target site and the number of steps by hand at most. -/
theorem summary_confined (fileName suffix : String) {front rest rest' : List (List Char)} {first : List Char}
    {text text' : String} (statement : IsStatement first)
    (lines : Text.splitLines text.toList = front ++ first :: rest)
    (lines' : Text.splitLines text'.toList = front ++ first :: rest') :
    ((∃ x, summary fileName text suffix = .ok x) ↔ ∃ y, summary fileName text' suffix = .ok y) ∧
    ∀ x y, summary fileName text suffix = .ok x → summary fileName text' suffix = .ok y →
      y = { x with targetSite := y.targetSite, manualSteps := y.manualSteps } := by
  rcases summary_settled fileName suffix statement lines with ⟨s, t, scanned, told, keeps, named⟩ | ⟨_, scanned, fails⟩
  · rcases summary_settled fileName suffix statement lines' with ⟨s', t', scanned', told', keeps', named'⟩ |
      ⟨_, scanned', _⟩
    · cases scanned.symm.trans scanned'
      refine ⟨⟨fun _ => ⟨_, told'⟩, fun _ => ⟨_, told⟩⟩, fun x y read read' => ?_⟩
      cases told.symm.trans read
      cases told'.symm.trans read'
      simp only [Scan.recording, keeps.id, keeps'.id, keeps.description, keeps'.description, keeps.createdAt,
        keeps'.createdAt, named, named']
    · cases scanned.symm.trans scanned'
  · rcases summary_settled fileName suffix statement lines' with ⟨_, _, scanned', _⟩ | ⟨_, scanned', fails'⟩
    · cases scanned.symm.trans scanned'
    · refine ⟨⟨?_, ?_⟩, fun x y read => ?_⟩
      · rintro ⟨x, read⟩
        cases fails.symm.trans read
      · rintro ⟨y, read⟩
        cases fails'.symm.trans read
      · cases fails.symm.trans read

/-- A header with the line that ends it. -/
def opening : String := "// Recording ID: r\ntest('a'\n"

/-- Marks that count in a header only, and two that count everywhere. -/
def closing : String := "// Recording ID: s\n// Created: 9\npage.goto('')\n// MANUAL STEP:"

theorem summary_confined_marks : ∃ x y,
    summary "f" opening "" = .ok x ∧ x.id = "r" ∧ x.targetSite = none ∧ x.manualSteps = 0 ∧
    summary "f" (opening ++ closing) "" = .ok y ∧ y = { x with targetSite := some "", manualSteps := 1 } := by
  have statement : IsStatement "test('a'".toList := ⟨by decide, by decide, by decide⟩
  have lines : Text.splitLines opening.toList = ["// Recording ID: r".toList] ++ "test('a'".toList :: [] := by
    decide +kernel
  have lines' : Text.splitLines (opening ++ closing).toList = ["// Recording ID: r".toList] ++ "test('a'".toList ::
      ["// Recording ID: s".toList, "// Created: 9".toList, "page.goto('')".toList, "// MANUAL STEP:".toList] := by
    decide +kernel
  obtain ⟨_, differ⟩ := summary_confined "f" "" statement lines lines'
  have told : (summary "f" opening "").toOption.map (fun x => (x.id, x.targetSite, x.manualSteps)) =
      some ("r", none, 0) := by decide +kernel
  have told' : (summary "f" (opening ++ closing) "").toOption.map (fun y => (y.targetSite, y.manualSteps)) =
      some (some "", 1) := by decide +kernel
  obtain ⟨x, read, fields⟩ := Option.map_eq_some_iff.mp told
  obtain ⟨y, read', fields'⟩ := Option.map_eq_some_iff.mp told'
  simp only [Prod.mk.injEq] at fields fields'
  obtain ⟨id, site, steps⟩ := fields
  have same := differ x y (toOption_ok read) (toOption_ok read')
  rw [fields'.1, fields'.2] at same
  exact ⟨x, y, toOption_ok read, id, site, steps, toOption_ok read', same⟩

end BrowserFlow.Script
