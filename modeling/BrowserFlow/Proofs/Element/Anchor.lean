import BrowserFlow.Proofs.Element.Walk
import Mathlib.Data.List.Forall2

/-!
Where the two paths of an element start. The XPath starts at the nearest id on the way up, and so does the CSS path if
that id is among its five steps; below the id both go down the same elements.
-/

namespace BrowserFlow.Place

/-- How many steps up the nearest id is. -/
def idAbove? (p : Place) : Option Nat := p.chain.findIdx? (·.id?.isSome)

/-- The tag and every class after a dot. -/
def tagStep (e : Element) : String := e.tag ++ String.join (e.classes.map ("." ++ ·))

theorem stepText_eq (e : Element) : stepText e = tagStep e := by
  rw [stepText, tagStep]
  generalize e.tag = tag
  induction e.classes generalizing tag with
  | nil => simp
  | cons name names ih => simp [ih, String.intercalate_cons_cons, String.append_assoc]

theorem cssSteps_anchored {es : List Element} {j left : Nat} (nearest : es.findIdx? (·.id?.isSome) = some j)
    (low : j < left) : ∃ e id, es[j]? = some e ∧ e.id? = some id ∧
      cssSteps left es = (es.take j).map tagStep ++ ["#" ++ id] := by
  induction es generalizing j left with
  | nil => cases nearest
  | cons e es ih =>
    obtain ⟨left, rfl⟩ : ∃ n, left = n + 1 := ⟨left - 1, by omega⟩
    rw [cssSteps]
    rw [List.findIdx?_cons] at nearest
    cases named : e.id? with
    | some id =>
      rw [named] at nearest
      cases nearest
      exact ⟨e, id, rfl, named, rfl⟩
    | none =>
      rw [named] at nearest
      obtain ⟨k, above, rfl⟩ := Option.map_eq_some_iff.mp nearest
      obtain ⟨top, id, found, known, steps⟩ := ih above (Nat.lt_of_succ_lt_succ low)
      refine ⟨top, id, found, known, ?_⟩
      rw [steps, stepText_eq, List.take_succ_cons, List.map_cons, List.cons_append]

theorem cssSteps_free {es : List Element} {left : Nat} (free : ∀ j, es.findIdx? (·.id?.isSome) = some j → left ≤ j) :
    cssSteps left es = (es.take left).map tagStep := by
  induction es generalizing left with
  | nil => cases left <;> rfl
  | cons e es ih =>
    cases left with
    | zero => rfl
    | succ left =>
      rw [cssSteps]
      simp only [List.findIdx?_cons] at free
      cases named : e.id? with
      | some id =>
        rw [named] at free
        exact absurd (free 0 rfl) (by omega)
      | none =>
        rw [named] at free
        have above : ∀ j, es.findIdx? (·.id?.isSome) = some j → left ≤ j := fun j nearest =>
          Nat.le_of_succ_le_succ (free (j + 1) (Option.map_eq_some_iff.mpr ⟨j, nearest, rfl⟩))
        rw [ih above, stepText_eq, List.take_succ_cons, List.map_cons]

/-- A step of an XPath to a child with the tag of an element. -/
def IsStepTo (e : Element) (step : String) : Prop := ∃ n, step = xpathStep e.tag n

theorem xpathFrom_anchored {e : Element} {ancestors : List (Element × Option Nat)} {j : Nat}
    (listed : ∀ above ∈ ancestors, above.2.isSome = true)
    (nearest : (e :: ancestors.map (·.1)).findIdx? (·.id?.isSome) = some j) :
    ∃ top id steps, (e :: ancestors.map (·.1))[j]? = some top ∧ top.id? = some id ∧
      xpathFrom e ancestors = some (xpathFrom.anchor id ++ String.join steps) ∧
      List.Forall₂ IsStepTo ((e :: ancestors.map (·.1)).take j).reverse steps := by
  rw [List.findIdx?_cons] at nearest
  cases named : e.id? with
  | some id =>
    rw [named] at nearest
    cases nearest
    exact ⟨e, id, [], rfl, named, by simp [xpathFrom_named named], .nil⟩
  | none =>
    rw [named] at nearest
    obtain ⟨k, further, rfl⟩ := Option.map_eq_some_iff.mp nearest
    cases ancestors with
    | nil => cases further
    | cons above ancestors =>
      obtain ⟨parent, position⟩ := above
      obtain ⟨here, rest⟩ := List.forall_mem_cons.mp listed
      obtain ⟨i, rfl⟩ := Option.isSome_iff_exists.mp here
      obtain ⟨top, id, steps, found, known, front, down⟩ := xpathFrom_anchored rest further
      refine ⟨top, id, steps ++ [xpathStep e.tag (tagPosition parent i e.tag)], found, known, ?_, ?_⟩
      · rw [xpathFrom_child named front, String.join_append, String.append_assoc]
        simp
      · rw [List.map_cons, List.take_succ_cons, List.reverse_cons]
        exact List.rel_append down (.cons ⟨_, rfl⟩ .nil)
termination_by ancestors.length

/-- The paths of a place by the elements on the way up, which are those that its path from the root passes. If the
    nearest id is at most four steps up, both paths start there and go down by the same tags; if not, the CSS path starts
    four steps up, or at the root if that is nearer. -/
theorem paths_anchored {e : Element} {path : List Nat} {p : Place} (found : (root e).descend? path = some p) :
    (p.chain.length = path.length + 1 ∧ ∀ i ≤ path.length,
      p.chain[i]? = ((root e).descend? (path.take (path.length - i))).map (·.element)) ∧
    (∀ j, p.idAbove? = some j → j ≤ 4 → ∃ top id, p.chain[j]? = some top ∧ top.id? = some id ∧
      p.cssPath = " > ".intercalate (("#" ++ id) :: ((p.chain.take j).map tagStep).reverse) ∧
      ∃ steps, p.xpath? = some ("//*[@id=\"" ++ id ++ "\"]" ++ String.join steps) ∧
        List.Forall₂ IsStepTo (p.chain.take j).reverse steps) ∧
    ((∀ j, p.idAbove? = some j → 4 < j) →
      p.cssPath = " > ".intercalate ((p.chain.take (min 4 path.length + 1)).map tagStep).reverse) := by
  obtain ⟨length, passed⟩ := chain_passed found
  refine ⟨⟨length, passed⟩, fun j nearest low => ?_, fun far => ?_⟩
  · have capped : j < maxSteps := Nat.lt_succ_of_le low
    obtain ⟨top, id, here, named, css⟩ := cssSteps_anchored nearest capped
    obtain ⟨top', id', steps, here', named', xpath, down⟩ := xpathFrom_anchored (listed_root found) nearest
    cases here.symm.trans here'
    cases named.symm.trans named'
    refine ⟨top, id, here, named, ?_, steps, xpath, down⟩
    rw [cssPath_eq, Place.steps, css]
    simp
  · have steps : p.steps = (p.chain.take maxSteps).map tagStep := cssSteps_free fun j nearest => far j nearest
    have taken : p.chain.take maxSteps = p.chain.take (min 4 path.length + 1) := by
      rw [maxSteps]
      rcases Nat.le_total 4 path.length with long | short
      · rw [Nat.min_eq_left long]
      · rw [Nat.min_eq_right short, List.take_of_length_le (by omega), List.take_of_length_le (by omega)]
    rw [cssPath_eq, steps, taken]

/-- Six elements one inside the other, with an id at the top. -/
def nested : Element :=
  .node "html" [("id", "m")] "" [.node "body" [] "" [.node "ul" [("class", " a\tb ")] "" [
    .node "li" [] "" [.node "p" [("id", "")] "" [.node "a" [] "" []]]]]]

theorem paths_anchored_fifth : ∃ p q,
    (root nested).descend? [0, 0, 0, 0] = some p ∧ p.idAbove? = some 4 ∧ p.cssPath = "#m > body > ul.a.b > li > p" ∧
    (root nested).descend? [0, 0, 0, 0, 0] = some q ∧ q.idAbove? = some 5 ∧
    q.cssPath = "body > ul.a.b > li > p > a" := by
  have found : (root nested).descend? [0, 0, 0, 0] = some _ := rfl
  have below : (root nested).descend? [0, 0, 0, 0, 0] = some _ := rfl
  obtain ⟨_, _, here, named, css, _⟩ := (paths_anchored found).2.1 4 rfl (Nat.le_refl 4)
  cases here
  cases named
  refine ⟨_, _, found, rfl, css, below, rfl, ?_⟩
  exact (paths_anchored below).2.2 (by rintro _ ⟨⟩; decide)

end BrowserFlow.Place
