import BrowserFlow.Element
import BrowserFlow.Proofs.Script.Step
import Mathlib.Data.List.Basic

/-!
The one selector that a script has for an element: its CSS path. Elements whose paths have the same steps share it,
wherever they stand and whatever else is known of them.
-/

namespace BrowserFlow

namespace Place

/-- Every parent on the way up lists the child. -/
def Listed (p : Place) : Prop := ∀ above ∈ p.ancestors, above.2.isSome = true

theorem Listed.child {p c : Place} {i : Nat} (listed : p.Listed) (found : p.child? i = some c) : c.Listed := by
  obtain ⟨entry, member, rfl⟩ := List.mem_map.mp (List.mem_of_getElem? found)
  exact List.forall_mem_cons.mpr ⟨rfl, listed⟩

theorem Listed.descend {p c : Place} {path : List Nat} (listed : p.Listed) (found : p.descend? path = some c) :
    c.Listed := by
  induction path generalizing p with
  | nil =>
    cases found
    exact listed
  | cons i path ih =>
    obtain ⟨next, down, rest⟩ := Option.bind_eq_some_iff.mp found
    exact ih (listed.child down) rest

theorem listed_root {e : Element} {p : Place} {path : List Nat} (found : (root e).descend? path = some p) : p.Listed :=
  Listed.descend (by simp [Listed, root]) found

theorem xpathFrom_listed (e : Element) (ancestors : List (Element × Option Nat))
    (listed : ∀ above ∈ ancestors, above.2.isSome = true) : ∃ xpath, xpathFrom e ancestors = some xpath := by
  induction ancestors generalizing e with
  | nil =>
    rw [xpathFrom]
    split <;> exact ⟨_, rfl⟩
  | cons above ancestors ih =>
    obtain ⟨parent, position⟩ := above
    obtain ⟨here, rest⟩ := List.forall_mem_cons.mp listed
    obtain ⟨i, rfl⟩ := Option.isSome_iff_exists.mp here
    obtain ⟨front, found⟩ := ih parent rest
    rw [xpathFrom]
    split
    · exact ⟨_, rfl⟩
    · exact ⟨_, by rw [found]; rfl⟩

theorem locator?_listed {p : Place} (listed : p.Listed) : ∃ l, p.locator? = some l := by
  obtain ⟨xpath, found⟩ := xpathFrom_listed p.element p.ancestors listed
  exact ⟨_, by rw [locator?, xpath?, found, Option.map_some]⟩

theorem locator?_textual {p : Place} {l : Locator} (found : p.locator? = some l) : l.Textual := by
  obtain ⟨xpath, _, rfl⟩ := Option.map_eq_some_iff.mp found
  have shown (text : Option String) : Value.Textual (text.map .str) := by
    cases text <;> simp
  exact ⟨shown _, Value.textual_text _, shown _, shown _, Value.textual_text _⟩

/-- An element and those above it, nearest first. -/
def chain (p : Place) : List Element := p.element :: p.ancestors.map (·.1)

/-- The steps of the CSS path, nearest first: at most five, and none above an id. -/
def steps (p : Place) : List String := cssSteps maxSteps p.chain

theorem cssPath_eq (p : Place) : p.cssPath = " > ".intercalate p.steps.reverse := rfl

theorem steps_of_id {p : Place} {id : String} (named : p.element.id? = some id) : p.steps = ["#" ++ id] := by
  rw [steps, chain, maxSteps, cssSteps, named]

theorem steps_ne_nil (p : Place) : p.steps ≠ [] := by
  rw [steps, chain, maxSteps, cssSteps]
  split <;> simp

theorem preferred_eq {p : Place} {l : Locator} (found : p.locator? = some l) (filled : p.cssPath ≠ "") :
    l.preferred = .str p.cssPath := by
  obtain ⟨xpath, _, rfl⟩ := Option.map_eq_some_iff.mp found
  have shown : Value.present? (.str p.cssPath) = some (.str p.cssPath) := by
    simp [Value.present?, Value.isPresent, filled]
  cases named : p.element.id? with
  | none => simp [Locator.preferred, shown]
  | some id =>
    have path : p.cssPath = "#" ++ id := by simp [cssPath_eq, steps_of_id named]
    have nonempty : id ≠ "" := by
      obtain ⟨_, kept⟩ := Option.filter_eq_some_iff.mp named
      simpa using kept
    simp [Locator.preferred, Value.present?, Value.isPresent, nonempty, path, Value.text]

end Place

/-- An element whose tag and id have no blanks, as is the rule in documents. -/
structure Element.IsPlain (e : Element) : Prop where
  named : e.tag ≠ ""
  tag : ' ' ∉ e.tag.toList
  id : ∀ id ∈ e.id?, ' ' ∉ id.toList

namespace Place

/-- A step that ends where the blank after it stands. -/
def IsStep (step : String) : Prop := step ≠ "" ∧ ' ' ∉ step.toList

theorem isStep_stepText {e : Element} (plain : e.IsPlain) : IsStep (stepText e) := by
  have classes : ∀ name ∈ e.classes, ' ' ∉ name.toList := by
    intro name member inside
    obtain ⟨word, among, rfl⟩ := List.mem_map.mp member
    rw [String.toList_ofList] at inside
    exact absurd ((Text.words_visible _ word among).2 ' ' inside) (by decide)
  have joined (names : List String) (first : String) (plain : ∀ name ∈ first :: names, ' ' ∉ name.toList) :
      ' ' ∉ (".".intercalate (first :: names)).toList := by
    induction names generalizing first with
    | nil => simpa using plain first (by simp)
    | cons second names ih =>
      obtain ⟨here, rest⟩ := List.forall_mem_cons.mp plain
      simpa [here] using ih second rest
  refine ⟨?_, joined e.classes e.tag (List.forall_mem_cons.mpr ⟨plain.tag, classes⟩)⟩
  have named := plain.named
  rw [stepText]
  cases e.classes <;> simp [named]

theorem isStep_cssSteps {es : List Element} (plain : ∀ e ∈ es, e.IsPlain) (left : Nat) :
    ∀ step ∈ cssSteps left es, IsStep step := by
  induction left generalizing es with
  | zero => simp [cssSteps]
  | succ left ih =>
    cases es with
    | nil => simp [cssSteps]
    | cons e es =>
      obtain ⟨here, above⟩ := List.forall_mem_cons.mp plain
      rw [cssSteps]
      cases named : e.id? with
      | none => exact List.forall_mem_cons.mpr ⟨isStep_stepText here, ih above⟩
      | some id =>
        rw [List.forall_mem_singleton]
        exact ⟨by simp, by simpa using here.id id named⟩

theorem toList_path (x y : String) (rest : List String) : (" > ".intercalate (x :: y :: rest)).toList =
    x.toList ++ ' ' :: '>' :: ' ' :: (" > ".intercalate (y :: rest)).toList := by simp

theorem not_isStep_path (x y : String) (rest : List String) : ¬ IsStep (" > ".intercalate (x :: y :: rest)) := by
  intro step
  refine step.2 ?_
  rw [toList_path]
  simp

/-- The steps can be read off a path again. -/
theorem intercalate_inj {xs ys : List String} (left : ∀ x ∈ xs, IsStep x) (right : ∀ y ∈ ys, IsStep y) (some : xs ≠ [])
    (some' : ys ≠ []) (same : " > ".intercalate xs = " > ".intercalate ys) : xs = ys := by
  induction xs generalizing ys with
  | nil => contradiction
  | cons x xs ih =>
    obtain ⟨y, ys, rfl⟩ := List.exists_cons_of_ne_nil some'
    cases xs with
    | nil =>
      rw [String.intercalate_singleton] at same
      cases ys with
      | nil => rw [same, String.intercalate_singleton]
      | cons z ys => exact absurd (same ▸ left x (by simp)) (not_isStep_path y z ys)
    | cons z xs =>
      cases ys with
      | nil =>
        rw [String.intercalate_singleton] at same
        exact absurd (same ▸ right y (by simp)) (not_isStep_path x z xs)
      | cons z' ys =>
        obtain ⟨here, left⟩ := List.forall_mem_cons.mp left
        obtain ⟨here', right⟩ := List.forall_mem_cons.mp right
        have texts := congrArg String.toList same
        rw [toList_path, toList_path] at texts
        obtain ⟨first, rest⟩ := Text.append_inj_at here.2 here'.2 texts
        rw [List.cons.injEq, List.cons.injEq] at rest
        rw [String.toList_inj.mp first, ih left right (by simp) (by simp) (String.toList_inj.mp rest.2.2)]

theorem steps_isStep {p : Place} (plain : ∀ e ∈ p.chain, e.IsPlain) : ∀ step ∈ p.steps.reverse, IsStep step :=
  fun step member => isStep_cssSteps plain maxSteps step (List.mem_reverse.mp member)

theorem cssPath_filled {p : Place} (plain : ∀ e ∈ p.chain, e.IsPlain) : p.cssPath ≠ "" := by
  have steps := steps_isStep plain
  rw [cssPath_eq]
  obtain ⟨x, xs, cons⟩ := List.exists_cons_of_ne_nil (List.reverse_ne_nil_iff.mpr p.steps_ne_nil)
  rw [cons] at steps ⊢
  cases xs with
  | nil => simpa using (steps x (by simp)).1
  | cons y ys => simp

/-- Elements have the same CSS path just if the steps are the same. -/
theorem cssPath_inj {p q : Place} (plain : ∀ e ∈ p.chain, e.IsPlain) (plain' : ∀ e ∈ q.chain, e.IsPlain) :
    p.cssPath = q.cssPath ↔ p.steps = q.steps := by
  constructor
  · intro same
    have reversed := intercalate_inj (steps_isStep plain) (steps_isStep plain')
      (List.reverse_ne_nil_iff.mpr p.steps_ne_nil) (List.reverse_ne_nil_iff.mpr q.steps_ne_nil) same
    exact List.reverse_injective reversed
  · intro same
    rw [cssPath_eq, cssPath_eq, same]

theorem preferred_inj {p q : Place} {l m : Locator} (left : p.locator? = some l) (right : q.locator? = some m)
    (plain : ∀ e ∈ p.chain, e.IsPlain) (plain' : ∀ e ∈ q.chain, e.IsPlain) :
    l.preferred = m.preferred ↔ p.steps = q.steps := by
  rw [preferred_eq left (cssPath_filled plain), preferred_eq right (cssPath_filled plain'), Value.str.injEq,
    cssPath_inj plain plain']

end Place

end BrowserFlow
