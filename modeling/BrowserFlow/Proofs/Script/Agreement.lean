import BrowserFlow.Proofs.Script.Header

/-!
Two readings of one text. The summary and the commands are read apart from each other, and yet on every text that has a
summary its target site is the argument of the first navigation, and its steps by hand are those among the commands.
-/

namespace BrowserFlow.Script

/-- Does a line ask for a step by hand? -/
def isMark (line : List Char) : Bool := (expect manualStepMarker.toList line).isSome

theorem page?_word (s : Statement) : s.page? = if s.word == "navigate" then s.arguments.head? else none := by
  cases s <;> rfl

theorem firstPage?_word (text : String) : firstPage? text =
    ((commands text).find? (·.statement.word == "navigate")).bind (·.statement.arguments.head?) := by
  rw [firstPage?]
  induction commands text with
  | nil => rfl
  | cons c cs ih =>
    rw [List.findSome?_cons, List.find?_cons, ih, page?_word]
    obtain ⟨statement, line, source⟩ := c
    cases statement <;> rfl

theorem firstPage?_none (text : String) :
    firstPage? text = none ↔ ∀ c ∈ commands text, c.statement.word ≠ "navigate" := by
  rw [firstPage?, List.findSome?_eq_none_iff]
  refine forall₂_congr fun c _ => ?_
  cases c.statement <;> simp [Statement.page?, Statement.word]

theorem word_ofCall? {cs : List Char} {s : Statement} (read : Statement.ofCall? cs = some s) :
    s.word ≠ "manual_step" := by
  obtain ⟨t, w, ⟨_, given⟩, _, rfl⟩ := ofCall?_derives.mp read
  cases given <;> simp [Statement.word, Statement.decoded]

theorem isMark_ofLine? (line : List Char) : (Statement.ofLine? line).any (·.word == "manual_step") = isMark line := by
  unfold Statement.ofLine? isMark
  split
  · rename_i importing
    obtain ⟨rest, rfl⟩ := expect_isSome.mp importing
    rfl
  · split
    · cases expect manualStepMarker.toList line <;> rfl
    · rename_i plain
      have none : expect manualStepMarker.toList line = none := by
        cases read : expect manualStepMarker.toList line with
        | none => rfl
        | some rest =>
          rw [expect_some read] at plain
          exact absurd rfl plain
      rw [none]
      cases read : Statement.ofCall? line with
      | none => rfl
      | some s => simp [word_ofCall? read]

theorem countP_commands (text : String) : (commands text).countP (·.statement.word == "manual_step") =
    ((Text.splitLines text.toList).map Text.trim).countP isMark := by
  have statements_count : (commands text).countP (·.statement.word == "manual_step") =
      (statements (Text.splitLines text.toList)).countP (·.word == "manual_step") := by
    rw [← commands_statements, List.countP_map]
    rfl
  rw [statements_count, statements, List.countP_filterMap, List.countP_map]
  congr 1
  funext raw
  rw [Function.comp_apply, ← isMark_ofLine?]
  cases Statement.ofLine? (Text.trim raw) <;> rfl

namespace Scan

theorem readBody_steps (s : Scan) (line : List Char) :
    (s.readBody line).manualSteps = s.manualSteps + [line].countP isMark := by
  rw [List.countP_singleton]
  unfold readBody isMark
  split
  · rfl
  · split
    · rfl
    · split <;> rfl

/-- A field of the header is no step by hand. -/
theorem isMark_field {word line rest : List Char} (other : ∀ rest, isMark (word ++ rest) = false)
    (read : expect word line = some rest) : isMark line = false := by
  rw [expect_some read]
  exact other rest

theorem readLine_steps {s t : Scan} {raw : List Char} (read : s.readLine raw = .ok t) :
    t.manualSteps = s.manualSteps + [Text.trim raw].countP isMark := by
  have field {word rest : List Char} (other : ∀ rest, isMark (word ++ rest) = false)
      (found : expect word (Text.trim raw) = some rest) {t : Scan} (same : t.manualSteps = s.manualSteps) :
      t.manualSteps = s.manualSteps + [Text.trim raw].countP isMark := by
    rw [List.countP_singleton, isMark_field other found]
    exact same
  unfold readLine at read
  dsimp only at read
  split at read
  · cases read
    exact readBody_steps s _
  · split at read
    · rename_i found
      cases read
      exact field (fun _ => rfl) found rfl
    · split at read
      · rename_i found
        obtain ⟨time, _, made⟩ := bind_ok read
        cases made
        exact field (fun _ => rfl) found rfl
      · split at read
        · rename_i found
          cases read
          exact field (fun _ => rfl) found rfl
        · cases read
          exact readBody_steps s _

theorem scan_steps {s t : Scan} {lines : List (List Char)} (read : lines.foldlM readLine s = .ok t) :
    t.manualSteps = s.manualSteps + (lines.map Text.trim).countP isMark := by
  induction lines generalizing s with
  | nil =>
    cases read
    rfl
  | cons raw lines ih =>
    rw [List.foldlM_cons] at read
    obtain ⟨u, first, rest⟩ := bind_ok read
    rw [ih rest, readLine_steps first, List.map_cons, List.countP_singleton, List.countP_cons]
    omega

end Scan

theorem summary_steps {fileName text suffix : String} {x : Recording} (read : summary fileName text suffix = .ok x) :
    x.manualSteps = (commands text).countP (·.statement.word == "manual_step") := by
  obtain ⟨t, scanned, made⟩ := bind_ok read
  cases made
  rw [countP_commands]
  exact (Scan.scan_steps scanned).trans (Nat.zero_add _)

/-- A text has a summary unless a line of its header loses its time, and then the summary says of the commands what they
    are: where the first navigation goes to, be it the empty text, and how many steps are by hand. -/
theorem summary_agrees (fileName text suffix : String) :
    ((∃ x, summary fileName text suffix = .ok x) ↔ ∀ line ∈ headerLines text, ¬LosesTime line) ∧
    ∀ x, summary fileName text suffix = .ok x →
      x.targetSite =
        ((commands text).find? (·.statement.word == "navigate")).bind (·.statement.arguments.head?) ∧
      (x.targetSite = none ↔ ∀ c ∈ commands text, c.statement.word ≠ "navigate") ∧
      x.manualSteps = (commands text).countP (·.statement.word == "manual_step") := by
  rcases summary_cases fileName text suffix with ⟨x, read, site, kept⟩ | ⟨fails, line, member, loses⟩
  · refine ⟨⟨fun _ => kept, fun _ => ⟨x, read⟩⟩, fun y read' => ?_⟩
    cases read.symm.trans read'
    exact ⟨site.trans (firstPage?_word text), by rw [site, firstPage?_none], summary_steps read⟩
  · refine ⟨⟨fun ⟨x, read⟩ => ?_, fun kept => absurd loses (kept line member)⟩, fun x read => ?_⟩
    · cases fails.symm.trans read
    · cases fails.symm.trans read

/-- A script that has been edited: marks before the first statement, after it and inside a value. -/
def edited : String := "// MANUAL STEP: a\npage.goto( '' )\n  // MANUAL STEP:\npage.goto('// MANUAL STEP: b')"

theorem summary_agrees_edited :
    ∃ x, summary "r.spec.ts" edited ".spec.ts" = .ok x ∧ x.targetSite = some "" ∧ x.manualSteps = 2 := by
  have returns : (summary "r.spec.ts" edited ".spec.ts").isOk = true := by decide +kernel
  cases read : summary "r.spec.ts" edited ".spec.ts" with
  | error fault =>
    rw [read] at returns
    cases returns
  | ok x =>
    obtain ⟨site, _, steps⟩ := (summary_agrees "r.spec.ts" edited ".spec.ts").2 x read
    exact ⟨x, rfl, site.trans (by decide +kernel), steps.trans (by decide +kernel)⟩

end BrowserFlow.Script
