import BrowserFlow.Proofs.Decimal.Numeral
import BrowserFlow.Proofs.Element.Descent
import Mathlib.Data.Nat.Digits.Defs

/-!
XPaths as directions. Where the ids of a tree differ and its tags have no slash, the XPath of an element can be read in
one way only, and it leads to that element.
-/

namespace BrowserFlow.Place

/-- The step to the child that is the n-th one with a tag. -/
def xpathStep (tag : String) (n : Nat) : String := "/" ++ tag ++ "[" ++ toString n ++ "]"

theorem xpathFrom_named {e : Element} {id : String} (named : e.id? = some id)
    (ancestors : List (Element × Option Nat)) : xpathFrom e ancestors = some (xpathFrom.anchor id) := by
  cases ancestors <;> rw [xpathFrom, named]

theorem xpathFrom_top {e : Element} (unnamed : e.id? = none) : xpathFrom e [] = some ("/" ++ e.tag) := by
  rw [xpathFrom, unnamed]

theorem xpathFrom_child {e parent : Element} (unnamed : e.id? = none) {ancestors : List (Element × Option Nat)}
    {front : String} (found : xpathFrom parent ancestors = some front) (i : Nat) :
    xpathFrom e ((parent, some i) :: ancestors) = some (front ++ xpathStep e.tag (tagPosition parent i e.tag)) := by
  rw [xpathFrom, unnamed, xpathStep, ← String.append_assoc, ← String.append_assoc, ← String.append_assoc,
    ← String.append_assoc]
  dsimp only
  rw [found]
  rfl

/-- The children with a tag, in the order of the document. -/
def tagged (p : Place) (tag : String) : List Place := p.children.filter (·.element.tag == tag)

/-- Where the directions of a text lead in a tree: an anchor to an element with that id, a slash and a tag to the root
    if that is its tag, and a further step to the child that it counts out. -/
inductive Leads (e : Element) : String → Place → Prop
  | anchor {p : Place} {id : String} (within : p ∈ everyPlace (root e)) (named : p.element.id? = some id) :
      Leads e ("//*[@id=\"" ++ id ++ "\"]") p
  | top : Leads e ("/" ++ e.tag) (root e)
  | step {front tag : String} {p c : Place} {n : Nat} (leads : Leads e front p) (found : (p.tagged tag)[n]? = some c) :
      Leads e (front ++ xpathStep tag (n + 1)) c

theorem getElem?_filter_take {α : Type} {f : α → Bool} {l : List α} {i : Nat} {x : α} (found : l[i]? = some x)
    (kept : f x = true) : (l.filter f)[((l.take i).filter f).length]? = some x := by
  induction l generalizing i with
  | nil => cases found
  | cons y l ih =>
    cases i with
    | zero =>
      cases found
      simp [kept]
    | succ i =>
      have rest := ih found
      by_cases first : f y = true <;> simp [first, rest]

/-- An element is the child with its tag that its position counts out. -/
theorem tagged_position {p c : Place} {i : Nat} (down : p.child? i = some c) :
    (p.tagged c.element.tag)[tagPosition p.element i c.element.tag - 1]? = some c := by
  have elements : p.children.map (·.element) = p.element.children := by
    rw [children, List.map_map]
    exact List.zipIdx_map_fst 0 _
  have counted : tagPosition p.element i c.element.tag - 1 =
      ((p.children.take i).filter (·.element.tag == c.element.tag)).length := by
    rw [tagPosition, Nat.add_sub_cancel, ← elements, ← List.map_take, List.filter_map, List.length_map]
    rfl
  rw [counted]
  exact getElem?_filter_take down (beq_self_eq_true _)

theorem xpath_found {e : Element} {path : List Nat} {p : Place} (found : (root e).descend? path = some p) :
    ∃ xpath, p.xpath? = some xpath ∧ Leads e xpath p := by
  refine tree_induction ?_ ?_ found
  · cases named : e.id? with
    | some id => exact ⟨_, xpathFrom_named named [], .anchor (mem_everyPlace.mpr ⟨[], rfl⟩) named⟩
    | none => exact ⟨_, xpathFrom_top named, .top⟩
  · rintro path p i c above down ⟨front, told, leads⟩
    have within : c ∈ everyPlace (root e) :=
      mem_everyPlace.mpr ⟨path ++ [i], by rw [descend?_snoc, above, Option.bind_some, down]⟩
    have position := tagged_position down
    obtain ⟨d, _, rfl⟩ := child?_some.mp down
    cases named : d.id? with
    | some id => exact ⟨_, xpathFrom_named named _, .anchor within named⟩
    | none => exact ⟨_, xpathFrom_child named told i, .step leads position⟩

/-! What a text says first and last. -/

section Readable

variable {front front' tag tag' id : String} {n n' : Nat}

theorem toString_digits (n : Nat) : Text.AreDigits (toString n).toList := by
  have digits := Text.toDigits_areDigits n
  rwa [← Nat.toList_repr] at digits

theorem toString_inj (same : (toString n).toList = (toString n').toList) : n = n' := by
  rw [← Numeral.natOfDigits_toDigits n, ← Numeral.natOfDigits_toDigits n']
  exact congrArg Numeral.natOfDigits ((Nat.toList_repr ..).symm.trans (same.trans (Nat.toList_repr ..)))

theorem toList_xpathStep (tag : String) (n : Nat) :
    (xpathStep tag n).toList = '/' :: (tag.toList ++ '[' :: ((toString n).toList ++ [']'])) := by
  simp [xpathStep]

/-- The last step can be read off. -/
theorem xpathStep_inj (plain : '/' ∉ tag.toList) (plain' : '/' ∉ tag'.toList)
    (same : front ++ xpathStep tag n = front' ++ xpathStep tag' n') : front = front' ∧ tag = tag' ∧ n = n' := by
  have noBracket (n : Nat) : '[' ∉ (toString n).toList := fun inside =>
    absurd ((toString_digits n).2 _ inside) (by decide)
  have shape (front tag : String) (n : Nat) : (front ++ xpathStep tag n).toList =
      (front.toList ++ '/' :: tag.toList) ++ '[' :: (toString n).toList ++ [']'] := by
    simp [toList_xpathStep]
  have texts := congrArg String.toList same
  rw [shape, shape] at texts
  obtain ⟨tags, numbers⟩ := Text.append_inj_at_last (noBracket n) (noBracket n') (List.append_cancel_right texts)
  obtain ⟨fronts, tags⟩ := Text.append_inj_at_last plain plain' tags
  exact ⟨String.toList_inj.mp fronts, String.toList_inj.mp tags, toString_inj numbers⟩

theorem anchor_ne_step : "//*[@id=\"" ++ id ++ "\"]" ≠ front ++ xpathStep tag n := by
  intro same
  have digits := toString_digits n
  obtain ⟨ds, d, ends⟩ := (List.eq_nil_or_concat (toString n).toList).resolve_left digits.1
  rw [List.concat_eq_append] at ends
  have left : ("//*[@id=\"" ++ id ++ "\"]").toList = ("//*[@id=\"".toList ++ id.toList) ++ ['"', ']'] := by simp
  have right : (front ++ xpathStep tag n).toList =
      (front.toList ++ '/' :: (tag.toList ++ '[' :: ds)) ++ [d, ']'] := by
    rw [String.toList_append, toList_xpathStep, ends]
    simp
  have texts := congrArg String.toList same
  rw [left, right] at texts
  have last : '"' = d := (List.cons.inj (List.append_inj' texts rfl).2).1
  rw [ends, ← last] at digits
  exact absurd (digits.2 '"' (by simp)) (by decide)

end Readable

theorem Leads.slash {e : Element} {text : String} {p : Place} (leads : Leads e text p) :
    ∃ rest, text.toList = '/' :: rest := by
  induction leads with
  | anchor => exact ⟨_, by simp; rfl⟩
  | top => exact ⟨_, by simp; rfl⟩
  | step _ _ ih =>
    obtain ⟨rest, same⟩ := ih
    exact ⟨_, by rw [String.toList_append, same, List.cons_append]⟩

theorem top_ne_step {e : Element} {front tag : String} {p : Place} {n : Nat} (plain : '/' ∉ e.tag.toList)
    (leads : Leads e front p) : "/" ++ e.tag ≠ front ++ xpathStep tag n := by
  intro same
  obtain ⟨rest, slash⟩ := leads.slash
  have texts := congrArg String.toList same
  rw [String.toList_append, String.toList_append, slash, toList_xpathStep] at texts
  have tags : e.tag.toList = rest ++ '/' :: (tag.toList ++ '[' :: ((toString n).toList ++ [']'])) :=
    (List.cons.inj texts).2
  exact plain (by simp [tags])

theorem top_ne_anchor {e : Element} {id : String} (plain : '/' ∉ e.tag.toList) :
    "/" ++ e.tag ≠ "//*[@id=\"" ++ id ++ "\"]" := by
  intro same
  have texts := congrArg String.toList same
  rw [String.toList_append, String.toList_append, String.toList_append] at texts
  have tags : e.tag.toList = "/*[@id=\"".toList ++ id.toList ++ "\"]".toList := (List.cons.inj texts).2
  exact plain (by simp [tags])

theorem tagged_some {p c : Place} {tag : String} {n : Nat} (found : (p.tagged tag)[n]? = some c) :
    (∃ i, p.child? i = some c) ∧ c.element.tag = tag := by
  obtain ⟨below, named⟩ := List.mem_filter.mp (List.mem_of_getElem? found)
  exact ⟨mem_children.mp below, eq_of_beq named⟩

theorem Leads.within {e : Element} {text : String} {p : Place} (leads : Leads e text p) : p ∈ everyPlace (root e) := by
  induction leads with
  | anchor within => exact within
  | top => exact mem_everyPlace.mpr ⟨[], rfl⟩
  | step _ found ih =>
    obtain ⟨path, above⟩ := mem_everyPlace.mp ih
    obtain ⟨⟨i, down⟩, _⟩ := tagged_some found
    exact mem_everyPlace.mpr ⟨path ++ [i], by rw [descend?_snoc, above, Option.bind_some, down]⟩

theorem named_once {e : Element} (ids : ((everyPlace (root e)).filterMap (·.element.id?)).Nodup) {p q : Place}
    (left : p ∈ everyPlace (root e)) (right : q ∈ everyPlace (root e)) {id : String} (named : p.element.id? = some id)
    (named' : q.element.id? = some id) : p = q := by
  have apart := List.pairwise_filterMap.mp ids
  have once : ∀ p ∈ everyPlace (root e), ∀ q ∈ everyPlace (root e),
      ∀ id, p.element.id? = some id → q.element.id? = some id → p = q :=
    List.Pairwise.forall_of_forall_of_flip (fun _ _ _ _ _ => rfl)
      (apart.imp fun differ id left right => absurd rfl (differ id left id right))
      (apart.imp fun differ id left right => absurd rfl (differ id right id left))
  exact once p left q right id named named'

/-- Where ids differ and tags have no slash, a text leads to one place at most. -/
theorem Leads.unique {e : Element} (ids : ((everyPlace (root e)).filterMap (·.element.id?)).Nodup)
    (tags : ∀ p ∈ everyPlace (root e), '/' ∉ p.element.tag.toList) {text text' : String} {p q : Place}
    (left : Leads e text p) (right : Leads e text' q) (same : text = text') : p = q := by
  have top : '/' ∉ e.tag.toList := tags (root e) (mem_everyPlace.mpr ⟨[], rfl⟩)
  have plain {front tag : String} {p c : Place} {n : Nat} (leads : Leads e front p)
      (found : (p.tagged tag)[n]? = some c) : '/' ∉ tag.toList :=
    (tagged_some found).2 ▸ tags c (leads.step found).within
  induction left generalizing text' q with
  | @anchor p id within named =>
    cases right with
    | anchor within' named' =>
      have texts := congrArg String.toList same
      simp only [String.toList_append, List.append_assoc, List.append_cancel_left_eq, List.append_cancel_right_eq,
        String.toList_inj] at texts
      cases texts
      exact named_once ids within within' named named'
    | top => exact absurd same.symm (top_ne_anchor top)
    | step => exact absurd same anchor_ne_step
  | top =>
    cases right with
    | anchor => exact absurd same (top_ne_anchor top)
    | top => rfl
    | step leads => exact absurd same (top_ne_step top leads)
  | step leads found ih =>
    cases right with
    | anchor => exact absurd same.symm anchor_ne_step
    | top => exact absurd same.symm (top_ne_step top leads)
    | step leads' found' =>
      obtain ⟨fronts, rfl, numbers⟩ := xpathStep_inj (plain leads found) (plain leads' found') same
      cases ih leads' fronts
      cases Nat.succ.inj numbers
      exact Option.some.inj (found.symm.trans found')

/-- A page on which one id looks like the XPath of a child of the other. -/
def quotedIds : Element :=
  .node "html" [] "" [.node "div" [("id", "x")] "" [.node "p" [("id", "")] "" [], .node "div" [] "" []],
    .node "div" [("id", "x\"]/div[1]")] "" [], .node "div" [] "" []]

end BrowserFlow.Place
