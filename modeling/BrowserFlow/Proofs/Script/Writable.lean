import BrowserFlow.Proofs.Script.Layout
import BrowserFlow.Value.Number

/-!
When a script can be written at all. A recorded action may carry what no line can say: a selector or a captured text
that is no text, a coordinate or a time without end. A script then fails as a whole, unless a later input of the same
block replaces the action.
-/

namespace BrowserFlow

def Binary.isInfinite : Binary → Bool
  | .infinite _ => true
  | _ => false

namespace Value

/-- A number without end that counts as present. -/
def IsInfinite (v : Value) : Prop := ∃ x, v.present? = some (.float x) ∧ (Binary.ofFloat x).isInfinite = true

theorem truncate_infinite_iff {x : Float} : truncate x = .error .infiniteInteger ↔ (Binary.ofFloat x).isInfinite = true := by
  unfold truncate
  cases Binary.ofFloat x <;> simp [Binary.isInfinite]

theorem toInt_infinite_iff {v : Value} : v.toInt = .error .infiniteInteger ↔
    ∃ x, v = .float x ∧ (Binary.ofFloat x).isInfinite = true := by
  cases v with
  | float x => simp [toInt, truncate_infinite_iff]
  | str s =>
    rw [toInt, intOfText]
    split <;> simp
  | _ => simp [toInt]

end Value

namespace Script

/-- The object that the text of a scroll stands for, if it is one. -/
def scrollEntries? (v : Option Value) : Option Entries :=
  (((v.bind Value.present?).bind Value.str?).bind (Json.parse? ·.toList)).bind Value.dict?

/-- The number that the text of a wait stands for, if it is one. -/
def waitNumber? (v : Option Value) : Option Float := (v.bind Value.str?).bind (Numeral.readFloat ·.toList)

end Script

/-- An action as it is reported: its value and its description are text, its locator may be anything. -/
structure Action.Reported (a : Action) : Prop where
  value : Value.Textual a.value
  description : Value.Textual a.description

/-- The action can become a line. The vertical coordinate of a scroll is looked at only if the horizontal one is a
    number. -/
def Action.Writable (a : Action) : Prop :=
  match a.kind with
  | .click | .input =>
    (∃ s, Locator.preferred? a.locator = .str s) ∧ Value.Textual ((a.locator.bind (·.text)).bind Value.present?)
  | .select => ∃ s, Locator.preferred? a.locator = .str s
  | .scroll => ∀ entries ∈ Script.scrollEntries? a.value, ¬ (Entries.getD entries "x").IsInfinite ∧
      ∀ x, Script.coordinate (Entries.getD entries "x") = .ok (some x) → ¬ (Entries.getD entries "y").IsInfinite
  | .wait => ∀ x ∈ Script.waitNumber? a.value, (Binary.ofFloat x).isInfinite = false
  | .keypress | .manualStep => True

namespace Script

theorem quotable_ok_iff {v : Value} : (∃ s, quotable v = .ok s) ↔ ∃ s, v = .str s := by
  cases v <;> simp [quotable]

theorem textRemark_ok_iff {l : Option Locator} :
    (∃ remark, textRemark l = .ok remark) ↔ Value.Textual ((l.bind (·.text)).bind Value.present?) := by
  unfold textRemark
  cases (l.bind (·.text)).bind Value.present? with
  | none => simp
  | some v => cases v <;> simp [Value.Textual, onOneLine, Bind.bind, Except.bind, Pure.pure, Except.pure]

theorem coordinate_ok_iff {v : Value} : (∃ n, coordinate v = .ok n) ↔ ¬ v.IsInfinite := by
  unfold coordinate Value.IsInfinite
  cases v.present? with
  | none => simp
  | some w =>
    have infinite := Value.toInt_infinite_iff (v := w)
    simp only [Option.some.injEq, ← infinite]
    cases w.toInt with
    | ok n => simp
    | error fault => cases fault <;> simp

/-- The coordinates that an object has. -/
def entriesTarget (entries : Entries) : Except Fault (Int × Int) := do
  match ← coordinate (Entries.getD entries "x") with
  | none => return (0, 0)
  | some x =>
    match ← coordinate (Entries.getD entries "y") with
    | none => return (0, 0)
    | some y => return (x, y)

theorem entriesTarget_ok_iff {entries : Entries} : (∃ target, entriesTarget entries = .ok target) ↔
    ¬ (Entries.getD entries "x").IsInfinite ∧
    ∀ x, coordinate (Entries.getD entries "x") = .ok (some x) → ¬ (Entries.getD entries "y").IsInfinite := by
  simp only [← coordinate_ok_iff, entriesTarget]
  cases coordinate (Entries.getD entries "x") with
  | error fault => simp [Bind.bind, Except.bind]
  | ok x => cases x with
    | none => simp [Bind.bind, Except.bind, Pure.pure, Except.pure]
    | some x =>
      cases coordinate (Entries.getD entries "y") with
      | error fault => simp [Bind.bind, Except.bind]
      | ok y => cases y <;> simp [Bind.bind, Except.bind, Pure.pure, Except.pure]

theorem scrollTarget_eq {v : Option Value} (textual : Value.Textual v) : scrollTarget v =
    match scrollEntries? v with
    | some entries => entriesTarget entries
    | none => .ok (0, 0) := by
  unfold scrollTarget scrollEntries?
  cases found : v.bind Value.present? with
  | none => rfl
  | some w =>
    obtain ⟨s, rfl⟩ := textual.present w found
    simp only [Option.bind_some, Value.str?]
    cases Json.parse? s.toList with
    | none => rfl
    | some payload => cases payload <;> rfl

theorem scrollTarget_ok_iff {v : Option Value} (textual : Value.Textual v) : (∃ target, scrollTarget v = .ok target) ↔
    ∀ entries ∈ scrollEntries? v, ¬ (Entries.getD entries "x").IsInfinite ∧
      ∀ x, coordinate (Entries.getD entries "x") = .ok (some x) → ¬ (Entries.getD entries "y").IsInfinite := by
  rw [scrollTarget_eq textual]
  cases scrollEntries? v with
  | none => simp
  | some entries => simp [← entriesTarget_ok_iff]

theorem waitTime_eq {v : Option Value} (textual : Value.Textual v) : waitTime v =
    match waitNumber? v with
    | some x =>
      match Value.truncate x with
      | .ok n => .ok n
      | .error .undefinedInteger => .ok defaultWait
      | .error fault => .error fault
    | none => .ok defaultWait := by
  unfold waitTime waitNumber?
  cases v with
  | none => rfl
  | some w =>
    obtain ⟨s, rfl⟩ := textual w rfl
    simp only [Option.bind_some, Value.str?, Value.toFloat?]
    cases Numeral.readFloat s.toList <;> rfl

theorem waitTime_ok_iff {v : Option Value} (textual : Value.Textual v) : (∃ ms, waitTime v = .ok ms) ↔
    ∀ x ∈ waitNumber? v, (Binary.ofFloat x).isInfinite = false := by
  rw [waitTime_eq textual]
  cases waitNumber? v with
  | none => simp
  | some x =>
    simp only [Value.truncate, Option.mem_some_iff, forall_eq']
    cases Binary.ofFloat x <;> simp [Binary.isInfinite]

theorem Step.ofAction_ok_iff {a : Action} (reported : a.Reported) :
    (∃ step, Step.ofAction a = .ok step) ↔ a.Writable := by
  unfold Step.ofAction Action.Writable
  obtain ⟨entered, shown⟩ := quotableOr_textual reported.value.present ""
  obtain ⟨chosen, given⟩ := quotableOr_textual reported.value ""
  cases kind : a.kind <;> dsimp only
  case click =>
    rw [← quotable_ok_iff, ← textRemark_ok_iff]
    cases quotable (Locator.preferred? a.locator) with
    | error fault => simp [Bind.bind, Except.bind]
    | ok selector => cases textRemark a.locator <;> simp [Bind.bind, Except.bind, Pure.pure, Except.pure]
  case input =>
    rw [← quotable_ok_iff, ← textRemark_ok_iff, shown]
    cases quotable (Locator.preferred? a.locator) with
    | error fault => simp [Bind.bind, Except.bind]
    | ok selector => cases textRemark a.locator <;> simp [Bind.bind, Except.bind, Pure.pure, Except.pure]
  case select =>
    rw [← quotable_ok_iff, given]
    cases quotable (Locator.preferred? a.locator) <;> simp [Bind.bind, Except.bind, Pure.pure, Except.pure]
  case scroll =>
    rw [← scrollTarget_ok_iff reported.value]
    cases scrollTarget a.value <;> simp [Bind.bind, Except.bind, Pure.pure, Except.pure]
  case keypress =>
    obtain ⟨key, read⟩ := keyName_textual reported.value
    simp [read, Bind.bind, Except.bind, Pure.pure, Except.pure]
  case manualStep =>
    cases found : a.description.bind Value.present? with
    | none => simp [Bind.bind, Except.bind, Pure.pure, Except.pure]
    | some v =>
      obtain ⟨s, rfl⟩ := reported.description.present v found
      simp [onOneLine, Bind.bind, Except.bind, Pure.pure, Except.pure]
  case wait =>
    rw [← waitTime_ok_iff reported.value]
    cases waitTime a.value <;> simp [Bind.bind, Except.bind, Pure.pure, Except.pure]

/-- A script can be written just if the last action of every block can become a line. -/
theorem render_ok_iff {h : Header} {as : List Action} (header : h.Textual) (reported : ∀ a ∈ as, a.Reported) :
    (∃ script, render h as = .ok script) ↔ ∀ b ∈ blocks as, b.last.Writable := by
  have steps (b : Block) (member : b ∈ blocks as) : (∃ step, Step.ofAction b.last = .ok step) ↔ b.last.Writable :=
    Step.ofAction_ok_iff (reported _ (mem_of_mem_blocks member b.last_mem))
  constructor
  · rintro ⟨script, rendered⟩ b member
    obtain ⟨_, _, _, written, _⟩ := render_ok rendered
    exact (steps b member).mp (blockLines_steps written b member)
  · intro writable
    exact render_of_steps header fun b member => (steps b member).mpr (writable b member)

theorem extend_last {a : Action} {b : Block} {bs : List Block} (member : b ∈ bs) :
    ∃ c ∈ extend a bs, c.last = b.last := by
  cases bs with
  | nil => cases member
  | cons first rest =>
    rw [extend]
    split
    · rcases List.mem_cons.mp member with rfl | later
      · exact ⟨_, List.mem_cons_self .., by simp [Block.last, Block.actions]⟩
      · exact ⟨b, List.mem_cons_of_mem _ later, rfl⟩
    · exact ⟨b, List.mem_cons_of_mem _ member, rfl⟩

/-- No later action takes the place of one that is not an input. -/
theorem last_of_other {as : List Action} {a : Action} (member : a ∈ as) (other : a.kind ≠ .input) :
    ∃ b ∈ blocks as, b.last = a := by
  induction as with
  | nil => cases member
  | cons first rest ih =>
    rw [blocks_cons]
    rcases List.mem_cons.mp member with rfl | later
    · rw [extend_other other]
      exact ⟨_, List.mem_cons_self .., rfl⟩
    · obtain ⟨b, inside, same⟩ := ih later
      obtain ⟨c, among, last⟩ := extend_last (a := first) inside
      exact ⟨c, among, last.trans same⟩

end Script

end BrowserFlow
