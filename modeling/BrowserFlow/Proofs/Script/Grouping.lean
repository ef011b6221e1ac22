import BrowserFlow.Proofs.Script.Commands
import Mathlib.Data.List.SplitBy

/-!
What the lines of a script say of the actions. The actions fall into the longest runs that `joins` links, each run has
one line, and a comment stands before it just if its first action is on another page than the last comment told. The
pages decide nothing else.
-/

namespace BrowserFlow

/-- An action without its page. -/
def Action.offPage (a : Action) : Action := { a with pageUrl := none }

namespace Script

theorem Block.actions_ne_nil (b : Block) : b.actions ≠ [] := List.cons_ne_nil _ _

theorem extend_chains (a : Action) {bs : List Block}
    (joined : ∀ b ∈ bs, b.actions.IsChain fun a b => joins a b = true) :
    ∀ b ∈ extend a bs, b.actions.IsChain fun a b => joins a b = true := by
  cases bs with
  | nil => simp [extend, Block.actions]
  | cons b bs =>
    obtain ⟨first, rest⟩ := List.forall_mem_cons.mp joined
    rw [extend]
    split
    · rename_i link
      exact List.forall_mem_cons.mpr ⟨List.isChain_cons_cons.mpr ⟨link, first⟩, rest⟩
    · exact List.forall_mem_cons.mpr ⟨List.isChain_singleton _, joined⟩

/-- Neighbours that no link joins. -/
def Block.Apart (b c : Block) : Prop := joins b.last c.first = false

theorem extend_apart_chain (a : Action) {bs : List Block} (apart : bs.IsChain Block.Apart) :
    (extend a bs).IsChain Block.Apart := by
  cases bs with
  | nil => exact List.isChain_singleton _
  | cons b bs =>
    rw [extend]
    split
    · cases bs with
      | nil => exact List.isChain_singleton _
      | cons c bs =>
        obtain ⟨next, rest⟩ := List.isChain_cons_cons.mp apart
        refine List.isChain_cons_cons.mpr ⟨?_, rest⟩
        have last : Block.last ⟨a, b.actions⟩ = b.last := by simp [Block.last, Block.actions]
        rwa [Block.Apart, last]
    · rename_i open'
      exact List.isChain_cons_cons.mpr ⟨Bool.eq_false_iff.mpr open', apart⟩

theorem blocks_chains (as : List Action) :
    (∀ b ∈ blocks as, b.actions.IsChain fun a b => joins a b = true) ∧ (blocks as).IsChain Block.Apart := by
  induction as with
  | nil => exact ⟨by simp, List.isChain_nil⟩
  | cons a as ih => exact ⟨extend_chains a ih.1, extend_apart_chain a ih.2⟩

/-- The blocks are the longest runs of linked actions. -/
theorem blocks_splitBy (as : List Action) : (blocks as).map Block.actions = as.splitBy joins := by
  obtain ⟨joined, apart⟩ := blocks_chains as
  refine (List.splitBy_eq_iff.mpr ⟨?_, ?_, ?_, ?_⟩).symm
  · rw [← List.flatMap_def, blocks_actions]
  · simp [Block.actions]
  · simpa using joined
  · rw [List.isChain_map]
    exact apart.imp fun b c next => ⟨b.actions_ne_nil, c.actions_ne_nil, next⟩

theorem same_text {v : Value} {s : String} (same : v.same (.str s) = true) : v = .str s := by
  cases v with
  | str t => simpa [Value.same] using same
  | float x => simp [Value.same, Value.sameFloat, Value.integer?] at same
  | int n => simp [Value.same, Value.integer?] at same
  | bool b => simp [Value.same, Value.integer?] at same
  | _ => simp [Value.same] at same

section Chain

variable {a b : Action} {as : List Action}

/-- Two actions or more are linked only if all of them are inputs. -/
theorem chain_inputs (joined : (a :: b :: as).IsChain fun a b => joins a b = true) :
    ∀ c ∈ a :: b :: as, c.kind = .input := by
  induction as generalizing a b with
  | nil =>
    have link := (List.isChain_cons_cons.mp joined).1
    simp_all [joins]
  | cons c as ih =>
    obtain ⟨link, rest⟩ := List.isChain_cons_cons.mp joined
    refine List.forall_mem_cons.mpr ⟨?_, ih rest⟩
    simp_all [joins]

/-- The selectors of linked actions are the same, and texts if the last one is. -/
theorem chain_selector (joined : (a :: as).IsChain fun a b => joins a b = true) {s : String}
    (last : Locator.preferred? ((a :: as).getLast (List.cons_ne_nil _ _)).locator = .str s) :
    ∀ b ∈ a :: as, Locator.preferred? b.locator = .str s := by
  induction as generalizing a with
  | nil => simpa using last
  | cons b as ih =>
    obtain ⟨link, rest⟩ := List.isChain_cons_cons.mp joined
    rw [List.getLast_cons_cons] at last
    have others := ih rest last
    have next := others b List.mem_cons_self
    simp only [joins, next, Bool.and_eq_true] at link
    exact List.forall_mem_cons.mpr ⟨same_text link.2, others⟩

end Chain

/-- The line of a block: of inputs the last one, with the selector that all of them have, of any other action its
    own. -/
inductive Block.IsLine (b : Block) : String → Prop
  | fill {selector remark : String} (inputs : ∀ a ∈ b.actions, a.kind = .input)
      (selected : ∀ a ∈ b.actions, Locator.preferred? a.locator = .str selector)
      (remarked : textRemark b.last.locator = .ok remark) :
      b.IsLine ((Statement.fill selector b.last.valueText).line ++ remark)
  | other {a : Action} {step : Step} (alone : b.actions = [a]) (other : a.kind ≠ .input)
      (written : Step.ofAction a = .ok step) : b.IsLine step.line

theorem Block.isLine_fill {b : Block} (joined : b.actions.IsChain fun a b => joins a b = true)
    (inputs : ∀ a ∈ b.actions, a.kind = .input) {step : Step} (written : Step.ofAction b.last = .ok step) :
    b.IsLine step.line := by
  have statement := (Step.ofAction_ok written).1
  have input : b.last.kind = .input := inputs _ b.last_mem
  rw [Step.ofAction, input] at written
  obtain ⟨selector, selected, written⟩ := bind_ok written
  obtain ⟨value, _, written⟩ := bind_ok written
  obtain ⟨remark, remarked, written⟩ := bind_ok written
  cases written
  have same : value = b.last.valueText := by
    rw [Statement.ofAction, input] at statement
    cases statement
    rfl
  rw [Step.line, same]
  exact .fill inputs (chain_selector joined (quotable_ok selected)) remarked

theorem Block.isLine {b : Block} (joined : b.actions.IsChain fun a b => joins a b = true) {step : Step}
    (written : Step.ofAction b.last = .ok step) : b.IsLine step.line := by
  obtain ⟨first, rest⟩ := b
  cases rest with
  | nil =>
    by_cases input : first.kind = .input
    · exact isLine_fill joined (by simpa [actions] using input) written
    · exact .other rfl input written
  | cons next rest => exact isLine_fill joined (chain_inputs joined) written

/-- What stands for a block: the page that a comment tells before it, if there is one, and its line. -/
structure Piece where
  page : Option String
  line : String

def pageMark : String := "// Page navigated to: "

def Piece.lines (p : Piece) : List String := (p.page.map (pageMark ++ ·)).toList ++ [p.line]

theorem Piece.lines_append (last : Option String) (a : Action) (line : String) (rest : List String) :
    Piece.lines ⟨newPage? last a, line⟩ ++ rest = pageComment last a ++ line :: rest := by
  rw [lines, pageComment, List.append_assoc]
  cases newPage? last a <;> rfl

def isPageComment (line : String) : Bool := pageMark.toList.isPrefixOf line.toList

/-- The page that the last comment has told, or else the page of the start. -/
def lastTold (start : Option String) (ps : List Piece) : Option String := (ps.filterMap (·.page)).getLast? <|> start

theorem lastTold_cons (start : Option String) (p : Piece) (ps : List Piece) :
    lastTold start (p :: ps) = lastTold (p.page <|> start) ps := by
  unfold lastTold
  rw [List.filterMap_cons]
  cases p.page with
  | none => rfl
  | some url =>
    simp only [Option.orElse_eq_orElse, Option.orElse_eq_or, List.getLast?_cons]
    cases (ps.filterMap (·.page)).getLast? <;> rfl

/-- The pieces of a body: the blocks' lines in their order, and before each the page of the block's first action just if
    it is known and another than the last one told. -/
structure Pieces (start : Option String) (bs : List Block) (ps : List Piece) : Prop where
  lines : List.Forall₂ (fun b p => b.IsLine p.line) bs ps
  pages : ∀ (i : ℕ) (b : Block) (p : Piece), bs[i]? = some b → ps[i]? = some p → ∀ url,
    p.page = some url ↔ b.first.pageUrl = some url ∧ url ≠ "" ∧ lastTold start (ps.take i) ≠ some url

theorem newPage?_iff {last : Option String} {a : Action} {url : String} :
    newPage? last a = some url ↔ a.pageUrl = some url ∧ url ≠ "" ∧ last ≠ some url := by
  rw [newPage?, Option.filter_eq_some_iff, Bool.and_eq_true, Bool.not_eq_true', String.isEmpty_eq_false_iff, bne_iff_ne,
    ne_comm (a := some url)]

theorem Pieces.cons {start : Option String} {b : Block} {bs : List Block} {ps : List Piece} {line : String}
    (said : b.IsLine line) (rest : Pieces (pageAfter start b.first) bs ps) :
    Pieces start (b :: bs) (⟨newPage? start b.first, line⟩ :: ps) := by
  refine ⟨.cons said rest.lines, fun i c p block piece => ?_⟩
  cases i with
  | zero =>
    cases block
    cases piece
    intro url
    exact newPage?_iff
  | succ i =>
    rw [List.take_succ_cons, lastTold_cons]
    exact rest.pages i c p block piece

theorem blockLines_pieces {start : Option String} {bs : List Block} {lines : List String}
    (joined : ∀ b ∈ bs, b.actions.IsChain fun a b => joins a b = true) (written : blockLines start bs = .ok lines) :
    ∃ ps, Pieces start bs ps ∧ lines = ps.flatMap Piece.lines := by
  induction bs generalizing start lines with
  | nil =>
    cases written
    exact ⟨[], ⟨.nil, by simp⟩, rfl⟩
  | cons b bs ih =>
    obtain ⟨first, others⟩ := List.forall_mem_cons.mp joined
    rw [blockLines] at written
    obtain ⟨step, said, written⟩ := bind_ok written
    obtain ⟨rest, after, written⟩ := bind_ok written
    cases written
    obtain ⟨ps, pieces, rfl⟩ := ih others after
    exact ⟨_, pieces.cons (Block.isLine first said), (Piece.lines_append start b.first step.line _).symm⟩

/-- The line of a statement is never taken for a comment on the page. -/
theorem not_isPageComment (s : Statement) (remark : String) : isPageComment (s.line ++ remark) = false := by
  rw [isPageComment, String.toList_append]
  by_cases act : s.isExecutable = true
  · obtain ⟨inner, ends⟩ := Statement.line_ends act
    rw [ends]
    rfl
  · cases s with
    | manualStep description =>
      have shape : (Statement.manualStep description).line.toList =
          manualStepMarker.toList ++ ' ' :: description.toList := by
        simp
      rw [shape]
      rfl
    | _ => exact absurd rfl act

theorem Block.IsLine.not_comment {b : Block} {line : String} (said : b.IsLine line) : isPageComment line = false := by
  cases said with
  | fill => exact not_isPageComment _ _
  | other => exact not_isPageComment _ _

theorem Piece.filter_lines {p : Piece} (plain : isPageComment p.line = false) :
    p.lines.filter (!isPageComment ·) = [p.line] := by
  obtain ⟨page, line⟩ := p
  have mark (url : String) : isPageComment (pageMark ++ url) = true := by simp [isPageComment]
  cases page with
  | none => simp [lines, plain]
  | some url => simp [lines, plain, mark]

theorem filter_pieces {bs : List Block} {ps : List Piece} (lines : List.Forall₂ (fun b p => b.IsLine p.line) bs ps) :
    (ps.flatMap Piece.lines).filter (!isPageComment ·) = ps.map Piece.line := by
  induction lines with
  | nil => rfl
  | cons said _ ih =>
    rw [List.flatMap_cons, List.filter_append, Piece.filter_lines said.not_comment, ih]
    rfl

theorem filter_pageComment (last : Option String) (a : Action) (step : Step) (rest : List String) :
    (pageComment last a ++ step.line :: rest).filter (!isPageComment ·) =
      step.line :: rest.filter (!isPageComment ·) := by
  rw [← Piece.lines_append, List.filter_append, Piece.filter_lines (not_isPageComment _ _)]
  rfl

/-- The line of the last action of each block. -/
def lastLines (bs : List Block) : Except Fault (List String) := bs.mapM fun b => (Step.ofAction b.last).map Step.line

/-- Without the comments on the pages there is a line for each block. -/
theorem blockLines_filter (start : Option String) (bs : List Block) (kept : List String) :
    (∃ lines, blockLines start bs = .ok lines ∧ lines.filter (!isPageComment ·) = kept) ↔ lastLines bs = .ok kept := by
  induction bs generalizing start kept with
  | nil => simp [blockLines, lastLines, Pure.pure, Except.pure]
  | cons b bs ih =>
    rw [lastLines, List.mapM_cons, ← lastLines]
    constructor
    · rintro ⟨lines, written, rfl⟩
      rw [blockLines] at written
      obtain ⟨step, said, written⟩ := bind_ok written
      obtain ⟨rest, after, written⟩ := bind_ok written
      cases written
      rw [said, (ih _ _).mp ⟨rest, after, rfl⟩, filter_pageComment]
      rfl
    · intro mapped
      obtain ⟨line, first, mapped⟩ := bind_ok mapped
      obtain ⟨step, said, rfl⟩ := map_ok first
      obtain ⟨rest, others, mapped⟩ := bind_ok mapped
      cases mapped
      obtain ⟨lines, after, rfl⟩ := (ih (pageAfter start b.first) rest).mpr others
      exact ⟨_, by rw [blockLines, said, after]; rfl, filter_pageComment start b.first step lines⟩

def Block.offPage (b : Block) : Block := ⟨b.first.offPage, b.rest.map Action.offPage⟩

theorem blocks_offPage (as : List Action) : blocks (as.map Action.offPage) = (blocks as).map Block.offPage := by
  induction as with
  | nil => rfl
  | cons a as ih =>
    rw [List.map_cons, blocks_cons, blocks_cons, ih]
    cases blocks as with
    | nil => rfl
    | cons b bs =>
      have link : joins a.offPage b.offPage.first = joins a b.first := rfl
      rw [List.map_cons, extend, extend, link]
      split <;> rfl

theorem Block.last_offPage (b : Block) : b.offPage.last = b.last.offPage := by
  simp only [last, offPage, ← List.map_cons, List.getLast_map]

/-- What a block says does not depend on the pages. -/
theorem lastLines_offPage (as : List Action) : lastLines (blocks (as.map Action.offPage)) = lastLines (blocks as) := by
  rw [blocks_offPage, lastLines, List.mapM_map, lastLines]
  congr 1
  funext b
  rw [Function.comp_apply, Block.last_offPage]
  rfl

/-- The lines of a list of actions. The blocks are the longest runs of adjacent inputs with one preferred selector, and
    single other actions. There are lines just if the last action of each block can be written. Each block then has one
    line, and before it a comment just if the page of its first action is known and is another than the last comment, or
    else the start, has told. Without the comments the lines are those of the blocks, whatever the pages are. -/
theorem bodyLines_grouped (start : Option String) (as : List Action) :
    (blocks as).map Block.actions = as.splitBy joins ∧
    ((∃ lines, bodyLines start none as = .ok lines) ↔ ∀ b ∈ blocks as, ∃ step, Step.ofAction b.last = .ok step) ∧
    ∀ lines, bodyLines start none as = .ok lines →
      (∃ ps, Pieces start (blocks as) ps ∧ lines = ps.flatMap Piece.lines ∧
        lines.filter (!isPageComment ·) = ps.map Piece.line) ∧
      ∀ (start' : Option String) (as' : List Action), as'.map Action.offPage = as.map Action.offPage →
        ∃ lines', bodyLines start' none as' = .ok lines' ∧
          lines'.filter (!isPageComment ·) = lines.filter (!isPageComment ·) := by
  have joined := (blocks_chains as).1
  refine ⟨blocks_splitBy as, ?_, fun lines written => ⟨?_, fun start' as' same => ?_⟩⟩
  · rw [(bodyLines_eq as).1]
    exact ⟨fun ⟨lines, written⟩ => blockLines_steps written, blockLines_total start _⟩
  · rw [(bodyLines_eq as).1] at written
    obtain ⟨ps, pieces, rfl⟩ := blockLines_pieces joined written
    exact ⟨ps, pieces, rfl, filter_pieces pieces.lines⟩
  · rw [(bodyLines_eq as).1] at written
    have kept := (blockLines_filter start (blocks as) _).mp ⟨lines, written, rfl⟩
    rw [← lastLines_offPage, ← same, lastLines_offPage] at kept
    rw [(bodyLines_eq as').1]
    exact (blockLines_filter start' (blocks as') _).mpr kept

/-- An action on one field of a page. -/
def onField (kind : ActionKind) (url text : String) : Action :=
  { kind, pageUrl := some url, locator := some { id := some (.str "q") }, value := some (.str text), time := .epoch,
    id := "id-1" }

/-- An input that goes on over a change of the page, and two more actions on further pages. -/
def browsing : List Action :=
  [onField .input "u" "a", onField .input "v" "b", onField .click "w" "", onField .input "v" "c"]

theorem bodyLines_grouped_browsing :
    bodyLines (some "u") none browsing = .ok ["await page.fill('#q', 'b');", "// Page navigated to: w",
      "await page.click('#q');", "// Page navigated to: v", "await page.fill('#q', 'c');"] ∧
    (∃ ps, Pieces (some "u") (blocks browsing) ps ∧
      ps.map Piece.line = ["await page.fill('#q', 'b');", "await page.click('#q');", "await page.fill('#q', 'c');"]) ∧
    ∃ lines, bodyLines none none (browsing.map Action.offPage) = .ok lines ∧ lines.filter (!isPageComment ·) =
      ["await page.fill('#q', 'b');", "await page.click('#q');", "await page.fill('#q', 'c');"] := by
  have written : bodyLines (some "u") none browsing = .ok ["await page.fill('#q', 'b');", "// Page navigated to: w",
      "await page.click('#q');", "// Page navigated to: v", "await page.fill('#q', 'c');"] := rfl
  obtain ⟨⟨ps, pieces, _, kept⟩, others⟩ := (bodyLines_grouped (some "u") browsing).2.2 _ written
  obtain ⟨lines, offPage, filtered⟩ := others none (browsing.map Action.offPage) rfl
  exact ⟨written, ⟨ps, pieces, kept.symm⟩, lines, offPage, filtered⟩

end Script

end BrowserFlow
