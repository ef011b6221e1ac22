import BrowserFlow.Proofs.Element
import BrowserFlow.Proofs.Script.Layout

/-!
What becomes of two inputs that follow each other. Each has its own line just if their selectors differ. A selector is
all that a script keeps of a locator, so that inputs into two elements with one path share a line, and what has been
typed into the first is lost.
-/

namespace BrowserFlow.Script

theorem bodyLines_replaced {a b : Action} (joined : joins a b = true) (other : Option Value) (last : Option String)
    (held : Option Action) (rest : List Action) :
    bodyLines last held ({ a with value := other } :: b :: rest) = bodyLines last held (a :: b :: rest) := by
  have input : a.kind = .input := by simp_all [joins]
  have input' : b.kind = .input := by simp_all [joins]
  have next (value : Option Value) (page : Option String) :
      bodyLines page (some { a with value }) (b :: rest) = bodyLines page (some b) rest := by
    have goesOn : continues (some { a with value }) b = true := by simp_all [joins, continues]
    rw [bodyLines, input', goesOn]
    rfl
  have whole (value : Option Value) : bodyLines last held ({ a with value } :: b :: rest) =
      if continues held a then bodyLines last (some b) rest
      else do
        let before ← heldLine held
        return before ++ pageComment last a ++ (← bodyLines (pageAfter last a) (some b) rest) := by
    have same : continues held { a with value } = continues held a := rfl
    rw [bodyLines, same, next, next]
    simp only [input, beq_self_eq_true, Bool.true_and, if_true]
    rfl
  rw [whole other, ← whole a.value]

theorem bodyLines_append (before : List Action) {as bs : List Action}
    (same : ∀ last held, bodyLines last held as = bodyLines last held bs) (last : Option String)
    (held : Option Action) : bodyLines last held (before ++ as) = bodyLines last held (before ++ bs) := by
  induction before generalizing last held with
  | nil => exact same last held
  | cons a before ih => simp only [List.cons_append, bodyLines, ih]

/-- What an input had entered before the next one replaces it does not show in the script. -/
theorem render_replaced {a b : Action} (joined : joins a b = true) (h : Header) (before after : List Action)
    (other : Option Value) :
    render h (before ++ { a with value := other } :: b :: after) = render h (before ++ a :: b :: after) := by
  have same := bodyLines_append before fun last held => bodyLines_replaced joined other last held after
  rw [render, render, same]

theorem blocks_head {as : List Action} {b : Block} (first : b ∈ (blocks as).head?) : b.first ∈ as.head? := by
  cases as with
  | nil => cases first
  | cons a as =>
    obtain ⟨rest, tail, same⟩ := extend_head a (blocks as)
    rw [blocks_cons, same] at first
    cases first
    rfl

theorem extend_within (a : Action) (front : List Block) (block : Block) (back : List Block) :
    ∃ front' block', extend a (front ++ block :: back) = front' ++ block' :: back ∧ block'.last = block.last := by
  cases front with
  | nil =>
    rw [List.nil_append, extend]
    split
    · exact ⟨[], ⟨a, block.actions⟩, rfl, by simp [Block.last, Block.actions]⟩
    · exact ⟨[⟨a, []⟩], block, rfl, rfl⟩
  | cons first front =>
    rw [List.cons_append, extend]
    split
    · exact ⟨_ :: front, block, rfl, rfl⟩
    · exact ⟨_ :: first :: front, block, rfl, rfl⟩

theorem blocks_apart {a b : Action} {after : List Action} (apart : joins a b = false)
    (closed : ∀ c ∈ after.head?, joins b c = false) (before : List Action) : ∃ front block back,
      blocks (before ++ a :: b :: after) = front ++ block :: ⟨b, []⟩ :: back ∧ block.last = a := by
  induction before with
  | nil =>
    have alone : extend b (blocks after) = ⟨b, []⟩ :: blocks after :=
      extend_apart fun next first => closed _ (blocks_head first)
    refine ⟨[], ⟨a, []⟩, blocks after, ?_, rfl⟩
    rw [List.nil_append, blocks_cons, blocks_cons, alone]
    exact extend_apart fun next first => by
      cases first
      exact apart
  | cons first before ih =>
    obtain ⟨front, block, back, same, last⟩ := ih
    obtain ⟨front', block', extended, kept⟩ := extend_within first front block (⟨b, []⟩ :: back)
    exact ⟨front', block', back, by rw [List.cons_append, blocks_cons, same, extended], kept.trans last⟩

theorem blockLines_append {last : Option String} {front back : List Block} {body : List String}
    (written : blockLines last (front ++ back) = .ok body) : ∃ top page bottom,
      blockLines page back = .ok bottom ∧ body = top ++ bottom := by
  induction front generalizing last body with
  | nil => exact ⟨[], last, body, written, rfl⟩
  | cons b front ih =>
    rw [List.cons_append, blockLines] at written
    obtain ⟨step, _, written⟩ := bind_ok written
    obtain ⟨rest, after, written⟩ := bind_ok written
    cases written
    obtain ⟨top, page, bottom, back, rfl⟩ := ih after
    exact ⟨pageComment last b.first ++ step.line :: top, page, bottom, back, by simp⟩

theorem valueText_text {a : Action} {text : String} (entered : a.value = some (.str text)) : a.valueText = text := by
  rw [Action.valueText, entered]
  by_cases empty : text = ""
  · subst empty
    rfl
  · simp [Value.present?, Value.isPresent, Value.text, empty]

theorem joins_locators {a b : Action} {l m : Locator} (input : a.kind = .input) (input' : b.kind = .input)
    (first : a.locator = some l) (second : b.locator = some m) (textual : l.Textual) (textual' : m.Textual) :
    joins a b = true ↔ l.preferred = m.preferred := by
  obtain ⟨s, said⟩ := textual.preferred
  obtain ⟨t, said'⟩ := textual'.preferred
  simp [joins, input, input', first, second, Locator.preferred?, said, said', Value.same]

/-- A line of an input, with what may follow on it. -/
def fillLine (l : Locator) (text remark : String) : String := indent ++ ((Statement.fill l.preferred.text text).line ++ remark)

theorem line_fill {a : Action} {step : Step} {l : Locator} {text : String} (written : Step.ofAction a = .ok step)
    (input : a.kind = .input) (located : a.locator = some l) (entered : a.value = some (.str text)) :
    indent ++ step.line = fillLine l text step.remark := by
  have statement := (Step.ofAction_ok written).1
  rw [Step.line, fillLine, statement, Statement.ofAction, input]
  dsimp only
  rw [valueText_text entered, Action.selector, located]
  rfl

/-- Adjacent inputs that do not share a line have one each, with at most a comment on the page in between. -/
theorem render_apart {h : Header} {before after : List Action} {a b : Action} {l m : Locator} {u v script : String}
    (rendered : render h (before ++ a :: b :: after) = .ok script) (input : a.kind = .input) (input' : b.kind = .input)
    (first : a.locator = some l) (second : b.locator = some m) (entered : a.value = some (.str u))
    (entered' : b.value = some (.str v)) (apart : joins a b = false) (closed : ∀ c ∈ after.head?, joins b c = false) :
    ∃ top comment bottom remark remark',
      script = joinLines (top ++ fillLine l u remark :: comment ++ fillLine m v remark' :: bottom) ∧
      (comment = [] ∨ ∃ url, b.pageUrl = some url ∧ comment = [indent ++ ("// Page navigated to: " ++ url)]) := by
  obtain ⟨header, body, _, written, rfl⟩ := render_ok rendered
  obtain ⟨front, block, back, same, last⟩ := blocks_apart apart closed before
  rw [same] at written
  obtain ⟨top, page, lines, next, rfl⟩ := blockLines_append written
  rw [blockLines] at next
  obtain ⟨step, said, next⟩ := bind_ok next
  obtain ⟨rest, then', made⟩ := bind_ok next
  cases made
  rw [blockLines] at then'
  obtain ⟨step', said', then'⟩ := bind_ok then'
  obtain ⟨bottom, _, made⟩ := bind_ok then'
  cases made
  rw [last] at said
  have line := line_fill said input first entered
  have line' := line_fill said' input' second entered'
  refine ⟨header ++ startLines h.targetSite ++ (top ++ pageComment page block.first).map (indent ++ ·),
    (pageComment (pageAfter page block.first) b).map (indent ++ ·), bottom.map (indent ++ ·) ++ ["\x7d);"],
    step.remark, step'.remark, ?_, ?_⟩
  · rw [← line, ← line']
    simp
  · rcases pageComment_cases (pageAfter page block.first) b with none | ⟨url, known, shown⟩
    · exact .inl (by rw [none, List.map_nil])
    · exact .inr ⟨url, known, by rw [shown, List.map_singleton]⟩

theorem fill_total {a : Action} {l : Locator} {text : String} (input : a.kind = .input) (located : a.locator = some l)
    (textual : l.Textual) (entered : a.value = some (.str text)) : ∃ step, Step.ofAction a = .ok step := by
  obtain ⟨selector, preferred⟩ := textual.preferred
  obtain ⟨remark, remarked⟩ := textRemark_textual (l := a.locator) (by simpa [located] using textual)
  obtain ⟨value, shown⟩ := quotableOr_textual (v := a.value.bind Value.present?) (by
    have given : Value.Textual a.value := by simp [entered]
    exact given.present) ""
  rw [located] at remarked
  exact ⟨_, by rw [Step.ofAction, input, located]; simp only [Locator.preferred?, preferred, remarked, shown]; rfl⟩

/-- Two adjacent inputs into elements of one tree, with the locators that the elements have. If the preferred selectors
    differ, the script has a line for each; if they are the same, it does not depend on what has been typed into the
    first element. The preferred selectors are the same just if the steps of the CSS paths are, when no tag and no id
    has a blank: siblings of one tag and class without ids have one selector. -/
theorem inputs_consolidated {tree : Element} {path path' : List Nat} {first second : Place}
    (reached : (Place.root tree).descend? path = some first)
    (reached' : (Place.root tree).descend? path' = some second) :
    ∃ l m, first.locator? = some l ∧ second.locator? = some m ∧
      ((∀ e ∈ first.chain, e.IsPlain) → (∀ e ∈ second.chain, e.IsPlain) →
        (l.preferred = m.preferred ↔ first.steps = second.steps)) ∧
      ∀ (h : Header) (before after : List Action) (a b : Action) (u v : String), a.kind = .input → b.kind = .input →
        a.locator = some l → b.locator = some m → a.value = some (.str u) → b.value = some (.str v) →
        (∀ c ∈ after.head?, joins b c = false) →
        (h.Textual → ∃ script, render h [a, b] = .ok script) ∧
        (l.preferred = m.preferred → ∀ other,
          render h (before ++ { a with value := other } :: b :: after) = render h (before ++ a :: b :: after)) ∧
        (l.preferred ≠ m.preferred → ∀ script, render h (before ++ a :: b :: after) = .ok script →
          ∃ top comment bottom remark remark',
            script = joinLines (top ++ fillLine l u remark :: comment ++ fillLine m v remark' :: bottom) ∧
            (comment = [] ∨ ∃ url, b.pageUrl = some url ∧ comment = [indent ++ ("// Page navigated to: " ++ url)])) := by
  obtain ⟨l, found⟩ := Place.locator?_listed (Place.listed_root reached)
  obtain ⟨m, found'⟩ := Place.locator?_listed (Place.listed_root reached')
  have textual := Place.locator?_textual found
  have textual' := Place.locator?_textual found'
  refine ⟨l, m, found, found', Place.preferred_inj found found', ?_⟩
  intro h before after a b u v input input' located located' entered entered' closed
  have joined := joins_locators input input' located located' textual textual'
  refine ⟨?_, ?_, ?_⟩
  · intro header
    refine render_of_steps header fun c member => ?_
    rcases List.mem_pair.mp (mem_of_mem_blocks member c.last_mem) with same | same
    · rw [same]
      exact fill_total input located textual entered
    · rw [same]
      exact fill_total input' located' textual' entered'
  · intro same other
    exact render_replaced (joined.mpr same) h before after other
  · intro differ script rendered
    have apart : joins a b = false := by
      rw [← Bool.not_eq_true, joined]
      exact differ
    exact render_apart rendered input input' located located' entered entered' apart closed

/-- Three inputs of a form, the last one with an id. What goes into the first is lost when the second follows, and kept
    when the third does. -/
theorem inputs_consolidated_siblings : ∃ (tree : Element) (first second third : Place) (l m n : Locator) (h : Header)
    (enter : Locator → String → Action) (lost kept : String),
    (Place.root tree).descend? [0] = some first ∧ (Place.root tree).descend? [1] = some second ∧
    (Place.root tree).descend? [2] = some third ∧ first.locator? = some l ∧ second.locator? = some m ∧
    third.locator? = some n ∧ first.xpath? ≠ second.xpath? ∧
    (∀ u, render h [enter l u, enter m "secret"] = .ok lost) ∧
    render h [enter l "user", enter n "secret"] = .ok kept ∧ ∃ top bottom remark remark',
      kept = joinLines (top ++ fillLine l "user" remark :: fillLine n "secret" remark' :: bottom) := by
  let field : Element := .node "input" [] "" []
  let password : Element := .node "input" [("id", "password")] "" []
  let form : Element := .node "form" [] "" [field, field, password]
  let first : Place := ⟨field, [(form, some 0)]⟩
  let second : Place := ⟨field, [(form, some 1)]⟩
  let third : Place := ⟨password, [(form, some 2)]⟩
  let enter (l : Locator) (text : String) : Action :=
    { kind := .input, pageUrl := none, locator := some l, value := some (.str text), time := .epoch, id := "id-1" }
  have reached : (Place.root form).descend? [0] = some first := rfl
  have reached' : (Place.root form).descend? [1] = some second := rfl
  have reached'' : (Place.root form).descend? [2] = some third := rfl
  have plainForm : form.IsPlain := ⟨by decide, by decide, by decide⟩
  have plainField : field.IsPlain := ⟨by decide, by decide, by decide⟩
  have plainPassword : password.IsPlain := ⟨by decide, by decide, by decide⟩
  have plain : ∀ e ∈ [field, form], e.IsPlain := by simp [plainForm, plainField]
  have plain' : ∀ e ∈ [password, form], e.IsPlain := by simp [plainForm, plainPassword]
  obtain ⟨l, m, found, found', iff, lines⟩ := inputs_consolidated reached reached'
  obtain ⟨l', n, again, found'', iff', lines'⟩ := inputs_consolidated reached reached''
  cases found.symm.trans again
  have same : l.preferred = m.preferred := (iff plain plain).mpr (by decide)
  have differ : l.preferred ≠ n.preferred := fun same => absurd ((iff' plain plain').mp same) (by decide)
  let h : Header := { id := "id-0", name := .str "login", createdAt := .epoch }
  have header : h.Textual := ⟨⟨_, rfl⟩, Value.textual_none⟩
  obtain ⟨total, replaced, _⟩ := lines h [] [] (enter l "user") (enter m "secret") "user" "secret" rfl rfl rfl rfl rfl
    rfl (by simp)
  obtain ⟨total', _, both⟩ := lines' h [] [] (enter l "user") (enter n "secret") "user" "secret" rfl rfl rfl rfl rfl
    rfl (by simp)
  obtain ⟨lost, rendered⟩ := total header
  obtain ⟨kept, rendered'⟩ := total' header
  obtain ⟨top, comment, bottom, remark, remark', lines, none | ⟨url, known, _⟩⟩ := both differ kept rendered'
  · refine ⟨form, first, second, third, l, m, n, h, enter, lost, kept, reached, reached', reached'', found, found',
      found'', by decide, fun u => (replaced same (some (.str u))).trans rendered, rendered', top, bottom, remark,
      remark', ?_⟩
    simp [lines, none]
  · cases known

end BrowserFlow.Script
