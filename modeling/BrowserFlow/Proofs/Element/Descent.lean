import BrowserFlow.Proofs.Element
import Mathlib.Data.List.Induction
import Mathlib.Data.List.Nodup

/-!
Going down a tree. What holds of the root and goes down to children holds of every place with a path from the root; the
chain of a place has the elements that its path passes. `everyPlace` lists all places once.
-/

namespace BrowserFlow.Place

theorem child?_some {p c : Place} {i : Nat} : p.child? i = some c ↔
    ∃ e, p.element.children[i]? = some e ∧ c = ⟨e, (p.element, some i) :: p.ancestors⟩ := by
  rw [child?, children, List.getElem?_map, List.getElem?_zipIdx, Option.map_map, Option.map_eq_some_iff]
  refine exists_congr fun e => and_congr_right fun _ => ?_
  simp [eq_comm]

theorem descend?_snoc (p : Place) (path : List Nat) (i : Nat) :
    p.descend? (path ++ [i]) = (p.descend? path).bind (·.child? i) := by
  induction path generalizing p with
  | nil => simp [descend?]
  | cons j path ih =>
    rw [List.cons_append, descend?, descend?, Option.bind_assoc]
    exact Option.bind_congr fun q _ => ih q

theorem descend?_snoc_some {p c : Place} {path : List Nat} {i : Nat} (found : p.descend? (path ++ [i]) = some c) :
    ∃ q, p.descend? path = some q ∧ q.child? i = some c :=
  Option.bind_eq_some_iff.mp (descend?_snoc p path i ▸ found)

section Tree

variable {e : Element} {path path' : List Nat} {p q : Place}

/-- What holds of the root, and of a child if it holds of the parent, holds of all places of a tree. -/
@[elab_as_elim]
theorem tree_induction {motive : List Nat → Place → Prop} (top : motive [] (root e))
    (step : ∀ path p i c, (root e).descend? path = some p → p.child? i = some c → motive path p →
      motive (path ++ [i]) c) (found : (root e).descend? path = some p) : motive path p := by
  induction path using List.reverseRecOn generalizing p with
  | nil =>
    cases found
    exact top
  | append_singleton path i ih =>
    obtain ⟨q, above, down⟩ := descend?_snoc_some found
    exact step path q i p above down (ih above)

/-- The chain of a place has the elements that its path passes, the last one first. -/
theorem chain_passed (found : (root e).descend? path = some p) : p.chain.length = path.length + 1 ∧
    ∀ i ≤ path.length, p.chain[i]? = ((root e).descend? (path.take (path.length - i))).map (·.element) := by
  refine tree_induction ?_ ?_ found
  · refine ⟨rfl, fun i low => ?_⟩
    cases Nat.le_zero.mp low
    rfl
  · intro path p i c above down ⟨length, passed⟩
    have found : (root e).descend? (path ++ [i]) = some c := by rw [descend?_snoc, above, Option.bind_some, down]
    obtain ⟨_, _, rfl⟩ := child?_some.mp down
    have chain (d : Element) : chain ⟨d, (p.element, some i) :: p.ancestors⟩ = d :: p.chain := rfl
    refine ⟨by simp [chain, length], fun k low => ?_⟩
    rw [chain]
    cases k with
    | zero =>
      rw [Nat.sub_zero, List.take_length, found]
      rfl
    | succ k =>
      rw [List.length_append, List.length_singleton] at low ⊢
      rw [List.getElem?_cons_succ, passed k (by omega), Nat.add_sub_add_right,
        List.take_append_of_le_length (Nat.sub_le _ _)]

end Tree

theorem height_child {e c : Element} (member : c ∈ e.children) : height c < height e := by
  obtain ⟨tag, attributes, text, children⟩ := e
  have low : ∀ es : List Element, c ∈ es → height c ≤ heights es := by
    intro es member
    induction es with
    | nil => cases member
    | cons d es ih =>
      rw [heights]
      rcases List.mem_cons.mp member with rfl | member
      · exact Nat.le_max_left _ _
      · exact Nat.le_trans (ih member) (Nat.le_max_right _ _)
  rw [height]
  exact Nat.lt_succ_of_le (low children member)

theorem path_low {p q : Place} {path : List Nat} (found : p.descend? path = some q) :
    path.length < height p.element := by
  induction path generalizing p with
  | nil =>
    obtain ⟨⟨_, _, _, _⟩, _⟩ := p
    exact Nat.succ_pos _
  | cons i path ih =>
    obtain ⟨c, down, rest⟩ := Option.bind_eq_some_iff.mp found
    obtain ⟨d, member, rfl⟩ := child?_some.mp down
    exact Nat.lt_of_le_of_lt (ih rest) (height_child (List.mem_of_getElem? member))

theorem mem_children {p c : Place} : c ∈ p.children ↔ ∃ i, p.child? i = some c := List.mem_iff_getElem?

theorem mem_levels {n : Nat} {places : List Place} {p : Place} :
    p ∈ levels n places ↔ ∃ q ∈ places, ∃ path : List Nat, path.length < n ∧ q.descend? path = some p := by
  induction n generalizing places with
  | zero => simp [levels]
  | succ n ih =>
    rw [levels, List.mem_append, ih]
    constructor
    · rintro (here | ⟨c, below, path, low, found⟩)
      · exact ⟨p, here, [], Nat.succ_pos n, rfl⟩
      · obtain ⟨q, member, child⟩ := List.mem_flatMap.mp below
        obtain ⟨i, down⟩ := mem_children.mp child
        exact ⟨q, member, i :: path, Nat.succ_lt_succ low, by rw [descend?, down, Option.bind_some, found]⟩
    · rintro ⟨q, member, path, low, found⟩
      cases path with
      | nil =>
        cases found
        exact .inl member
      | cons i path =>
        obtain ⟨c, down, rest⟩ := Option.bind_eq_some_iff.mp found
        exact .inr ⟨c, List.mem_flatMap.mpr ⟨q, member, mem_children.mpr ⟨i, down⟩⟩, path,
          Nat.lt_of_succ_lt_succ low, rest⟩

theorem mem_everyPlace {e : Element} {p : Place} :
    p ∈ everyPlace (root e) ↔ ∃ path, (root e).descend? path = some p := by
  rw [everyPlace, mem_levels]
  constructor
  · rintro ⟨q, member, path, _, found⟩
    cases List.mem_singleton.mp member
    exact ⟨path, found⟩
  · rintro ⟨path, found⟩
    exact ⟨root e, List.mem_singleton_self _, path, path_low found, found⟩

theorem children_nodup (p : Place) : p.children.Nodup := by
  refine List.Nodup.of_map (fun c => c.ancestors.head?.map (·.2)) ?_
  have positions : p.children.map (fun c => c.ancestors.head?.map (·.2)) =
      (List.range' 0 p.element.children.length).map fun i => some (some i) := by
    rw [children, List.map_map, ← List.zipIdx_map_snd, List.map_map]
    rfl
  rw [positions]
  exact (List.nodup_range' ..).map fun i j same => Option.some.inj (Option.some.inj same)

theorem children_disjoint {p q : Place} (other : p ≠ q) : p.children.Disjoint q.children := by
  intro c left right
  obtain ⟨i, down⟩ := mem_children.mp left
  obtain ⟨j, down'⟩ := mem_children.mp right
  obtain ⟨_, _, rfl⟩ := child?_some.mp down
  obtain ⟨_, _, same⟩ := child?_some.mp down'
  rw [Place.mk.injEq, List.cons.injEq, Prod.mk.injEq] at same
  obtain ⟨_, ⟨parent, _⟩, above⟩ := same
  refine other ?_
  cases p
  cases q
  cases parent
  cases above
  rfl

theorem descend?_depth {p q : Place} {path : List Nat} (found : p.descend? path = some q) :
    q.ancestors.length = p.ancestors.length + path.length := by
  induction path generalizing p with
  | nil =>
    cases found
    rfl
  | cons i path ih =>
    obtain ⟨c, down, rest⟩ := Option.bind_eq_some_iff.mp found
    obtain ⟨_, _, rfl⟩ := child?_some.mp down
    rw [ih rest, List.length_cons, List.length_cons]
    omega

theorem levels_nodup {n depth : Nat} {places : List Place} (distinct : places.Nodup)
    (level : ∀ p ∈ places, p.ancestors.length = depth) : (levels n places).Nodup := by
  induction n generalizing depth places with
  | zero => exact List.nodup_nil
  | succ n ih =>
    have below : ∀ c ∈ places.flatMap children, c.ancestors.length = depth + 1 := by
      intro c member
      obtain ⟨p, above, child⟩ := List.mem_flatMap.mp member
      obtain ⟨i, down⟩ := mem_children.mp child
      obtain ⟨_, _, rfl⟩ := child?_some.mp down
      rw [List.length_cons, level p above]
    have apart : (places.flatMap children).Nodup :=
      List.nodup_flatMap.mpr ⟨fun p _ => children_nodup p, distinct.imp children_disjoint⟩
    refine List.nodup_append'.mpr ⟨distinct, ih apart below, fun p here deeper => ?_⟩
    obtain ⟨c, child, path, _, found⟩ := mem_levels.mp deeper
    have depths := descend?_depth found
    rw [level p here, below c child] at depths
    omega

theorem everyPlace_nodup (e : Element) : (everyPlace (root e)).Nodup := by
  have top : ∀ p ∈ [root e], p.ancestors.length = 0 := List.forall_mem_singleton.mpr rfl
  exact levels_nodup (List.nodup_singleton _) top

end BrowserFlow.Place
