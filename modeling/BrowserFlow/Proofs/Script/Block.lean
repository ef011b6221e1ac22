import BrowserFlow.Script.Layout

/-!
The actions that share a line. Adjacent inputs into the same element are one block, every other action is a
block by itself, and a script has one line per block, which the last action of the block decides.
-/

namespace BrowserFlow.Script

/-- Adjacent actions that become one line. -/
structure Block where
  first : Action
  rest : List Action

namespace Block

def actions (b : Block) : List Action := b.first :: b.rest

def last (b : Block) : Action := (b.first :: b.rest).getLast (by simp)

@[simp] theorem last_alone (a : Action) : Block.last ⟨a, []⟩ = a := rfl

theorem last_mem (b : Block) : b.last ∈ b.actions := List.getLast_mem _

end Block

def joins (a b : Action) : Bool :=
  a.kind == .input && b.kind == .input && (Locator.preferred? a.locator).same (Locator.preferred? b.locator)

/-- An action before the blocks of the actions that follow it. -/
def extend (a : Action) : List Block → List Block
  | [] => [⟨a, []⟩]
  | b :: blocks => if joins a b.first then ⟨a, b.actions⟩ :: blocks else ⟨a, []⟩ :: b :: blocks

/-- The maximal blocks of a list of actions. -/
def blocks : List Action → List Block
  | [] => []
  | a :: rest => extend a (blocks rest)

@[simp] theorem blocks_nil : blocks [] = [] := rfl

@[simp] theorem blocks_cons (a : Action) (rest : List Action) : blocks (a :: rest) = extend a (blocks rest) := rfl

theorem extend_actions (a : Action) (bs : List Block) :
    (extend a bs).flatMap Block.actions = a :: bs.flatMap Block.actions := by
  cases bs with
  | nil => rfl
  | cons b bs =>
    simp only [extend]
    split <;> simp [Block.actions]

theorem blocks_actions (as : List Action) : (blocks as).flatMap Block.actions = as := by
  induction as with
  | nil => rfl
  | cons a as ih => rw [blocks_cons, extend_actions, ih]

theorem mem_of_mem_blocks {as : List Action} {b : Block} {a : Action} (block : b ∈ blocks as)
    (inside : a ∈ b.actions) : a ∈ as := by
  rw [← blocks_actions as]
  exact List.mem_flatMap.mpr ⟨b, block, inside⟩

theorem extend_head (a : Action) (bs : List Block) : ∃ rest tail, extend a bs = ⟨a, rest⟩ :: tail := by
  cases bs with
  | nil => exact ⟨[], [], rfl⟩
  | cons b bs =>
    simp only [extend]
    split
    · exact ⟨_, _, rfl⟩
    · exact ⟨_, _, rfl⟩

theorem extend_apart {a : Action} {bs : List Block} (apart : ∀ b ∈ bs.head?, joins a b.first = false) :
    extend a bs = ⟨a, []⟩ :: bs := by
  cases bs with
  | nil => rfl
  | cons b bs => simp [extend, apart b (by simp)]

theorem extend_other {a : Action} (other : a.kind ≠ .input) (bs : List Block) : extend a bs = ⟨a, []⟩ :: bs :=
  extend_apart fun b _ => by simp [joins, other]

theorem filter_blocks {p : Action → Bool} (apart : ∀ a, a.kind = .input → p a = false) (as : List Action) :
    ((blocks as).map Block.last).filter p = as.filter p := by
  induction as with
  | nil => rfl
  | cons a as ih =>
    rw [blocks_cons, List.filter_cons, ← ih]
    cases blocks as with
    | nil => exact List.filter_cons
    | cons b bs =>
      rw [extend]
      split
      · rename_i joined
        have input : a.kind = .input := by simp_all [joins]
        have last : Block.last ⟨a, b.actions⟩ = b.last := by simp [Block.last, Block.actions]
        rw [List.map_cons, last, apart a input]
        rfl
      · exact List.filter_cons

theorem countP_blocks {p : Action → Bool} (apart : ∀ a, a.kind = .input → p a = false) (as : List Action) :
    (blocks as).countP (fun b => p b.last) = as.countP p := by
  rw [@List.countP_eq_length_filter _ p as, ← filter_blocks apart, ← List.countP_eq_length_filter, List.countP_map]
  rfl

/-- The lines of blocks after the page `last`: the line that the last action of a block decides, after a
    comment if the first action is on a new page. -/
def blockLines : Option String → List Block → Except Fault (List String)
  | _, [] => .ok []
  | last, b :: rest => do
    let step ← Step.ofAction b.last
    return pageComment last b.first ++ step.line :: (← blockLines (pageAfter last b.first) rest)

/-- The lines of blocks when the comment of the first one has been written already. -/
def openLines (last : Option String) : List Block → Except Fault (List String)
  | [] => .ok []
  | b :: rest => do
    let step ← Step.ofAction b.last
    return step.line :: (← blockLines last rest)

/-- An input that the next one replaces leaves no trace in the lines. -/
theorem openLines_replaced {last : Option String} {a b : Action} (joined : joins a b = true) (bs : List Block) :
    openLines last (extend a (extend b bs)) = openLines last (extend b bs) := by
  obtain ⟨rest, tail, same⟩ := extend_head b bs
  rw [same]
  simp [extend, joined, openLines, Block.last, Block.actions]

theorem openLines_alone (last : Option String) (a : Action) (bs : List Block) :
    openLines last (⟨a, []⟩ :: bs) = (do
      let before ← heldLine (some a)
      return before ++ (← blockLines last bs)) := by
  simp [openLines, heldLine, Block.last]

theorem blockLines_extend (last : Option String) (a : Action) (bs : List Block) :
    blockLines last (extend a bs) =
      (openLines (pageAfter last a) (extend a bs)).map (pageComment last a ++ ·) := by
  obtain ⟨rest, tail, same⟩ := extend_head a bs
  rw [same]
  simp only [blockLines, openLines]
  cases Step.ofAction (Block.mk a rest).last with
  | error fault => rfl
  | ok step =>
    cases blockLines (pageAfter last a) tail with
    | error fault => rfl
    | ok lines => rfl

/-- The lines of the steps are those of the blocks; with an input held back, the first block is its own and its
    comment has been written. -/
theorem bodyLines_eq (as : List Action) :
    (∀ last, bodyLines last none as = blockLines last (blocks as)) ∧
    ∀ last h, h.kind = .input → bodyLines last (some h) as = openLines last (extend h (blocks as)) := by
  induction as with
  | nil =>
    refine ⟨fun last => rfl, fun last h _ => ?_⟩
    rw [blocks_nil, extend, openLines_alone, bodyLines]
    cases heldLine (some h) with
    | error fault => rfl
    | ok before => simp [blockLines, Bind.bind, Except.bind, Pure.pure, Except.pure]
  | cons a as ih =>
    obtain ⟨free, held⟩ := ih
    -- an action that does not go on with what is held back
    have closing (last : Option String) (h : Option Action) (apart : (a.kind == .input && continues h a) = false) :
        bodyLines last h (a :: as) = (do
          let before ← heldLine h
          return before ++ (← blockLines last (extend a (blocks as)))) := by
      by_cases input : a.kind = .input
      · rw [bodyLines, apart, blockLines_extend, ← held _ _ input]
        cases heldLine h with
        | error fault => rfl
        | ok before =>
          cases bodyLines (pageAfter last a) (some a) as with
          | error fault => simp [input, Bind.bind, Except.bind, Except.map]
          | ok lines => simp [input, Bind.bind, Except.bind, Except.map, Pure.pure, Except.pure]
      · rw [bodyLines, apart, extend_other input, blockLines, free]
        cases heldLine h with
        | error fault => rfl
        | ok before =>
          rw [Block.last_alone]
          cases Step.ofAction a with
          | error fault => simp [input, Bind.bind, Except.bind]
          | ok step =>
            cases blockLines (pageAfter last a) (blocks as) with
            | error fault => simp [input, Bind.bind, Except.bind]
            | ok lines => simp [input, Bind.bind, Except.bind, Pure.pure, Except.pure]
    refine ⟨fun last => ?_, fun last h input => ?_⟩
    · rw [closing last none (by simp [continues]), blocks_cons]
      cases blockLines last (extend a (blocks as)) <;> rfl
    · by_cases joined : joins h a = true
      · have kind : a.kind = .input := by simp_all [joins]
        have goesOn : continues (some h) a = true := by simp_all [joins, continues]
        rw [bodyLines, kind, goesOn, blocks_cons, openLines_replaced joined]
        exact held last a kind
      · obtain ⟨rest, tail, same⟩ := extend_head a (blocks as)
        have apart : ∀ b ∈ (extend a (blocks as)).head?, joins h b.first = false := by simp_all
        rw [closing last (some h) (by simp_all [joins, continues]), blocks_cons, extend_apart apart, openLines_alone]

end BrowserFlow.Script
