import BrowserFlow.Text.Blank
import BrowserFlow.Text.Lines

namespace BrowserFlow.Text

def Unbroken (cs : List Char) : Prop := ∀ c ∈ cs, isLineBoundary c = false

instance (cs : List Char) : Decidable (Unbroken cs) := List.decidableBAll _ cs

theorem Unbroken.nil : Unbroken [] := by simp [Unbroken]

theorem Unbroken.cons {c : Char} {cs : List Char} (head : isLineBoundary c = false) (tail : Unbroken cs) :
    Unbroken (c :: cs) := by
  intro d member
  rcases List.mem_cons.mp member with rfl | member
  · exact head
  · exact tail _ member

theorem Unbroken.append {left right : List Char} (hl : Unbroken left) (hr : Unbroken right) :
    Unbroken (left ++ right) := by
  intro c member
  rcases List.mem_append.mp member with member | member
  · exact hl _ member
  · exact hr _ member

theorem splitLines_line (line rest : List Char) (unbroken : Unbroken line) :
    splitLines (line ++ '\n' :: rest) = line :: splitLines rest := by
  induction line with
  | nil => simp [splitLines, isLineBoundary]
  | cons c line ih =>
    have head : isLineBoundary c = false := unbroken c (by simp)
    have tail := ih fun d member => unbroken d (List.mem_cons_of_mem _ member)
    have ordinary : c ≠ '\r' := by
      rintro rfl
      exact absurd head (by decide)
    rw [List.cons_append, splitLines, tail]
    · simp [head]
    · intro cs same
      exact absurd same ordinary

theorem splitLines_boundary {c : Char} (boundary : isLineBoundary c = true) {cs : List Char}
    (apart : ∀ rest, c = '\r' → cs = '\n' :: rest → False) : splitLines (c :: cs) = [] :: splitLines cs := by
  rw [splitLines, if_pos boundary]
  exact apart

theorem splitLines_inside {c : Char} (inside : isLineBoundary c = false) (cs : List Char) :
    splitLines (c :: cs) = (c :: (splitLines cs).headD []) :: (splitLines cs).tail := by
  rw [splitLines, if_neg (by simp [inside])]
  · cases splitLines cs <;> rfl
  · rintro rest rfl
    exact absurd inside (by decide)

theorem splitLines_some {cs : List Char} (some : cs ≠ []) : splitLines cs ≠ [] := by
  fun_cases splitLines cs with
  | case1 => exact absurd rfl some
  | case2 | case3 | case4 | case5 => simp_all

/-- A boundary ends its line whatever stands before it. -/
theorem splitLines_append (cs rest : List Char) {b : Char} (boundary : isLineBoundary b = true) (other : b ≠ '\r') :
    splitLines (cs ++ b :: rest) = splitLines (cs ++ [b]) ++ splitLines rest := by
  have alone (rest : List Char) : splitLines (b :: rest) = [] :: splitLines rest :=
    splitLines_boundary boundary fun _ same => absurd same other
  fun_induction splitLines cs with
  | case1 =>
    rw [List.nil_append, List.nil_append, alone, alone]
    rfl
  | case2 cs ih => simp only [List.cons_append, splitLines, ih]
  | case3 c cs apart ends ih =>
    cases cs with
    | nil =>
      -- a line feed right after a carriage return is one boundary with it
      by_cases joined : c = '\r' ∧ b = '\n'
      · obtain ⟨rfl, rfl⟩ := joined
        rfl
      · have apart (rest : List Char) : ∀ tail, c = '\r' → b :: rest = '\n' :: tail → False := by
          rintro tail rfl same
          cases same
          exact joined ⟨rfl, rfl⟩
        simp only [List.cons_append, List.nil_append, splitLines_boundary ends (apart _), alone]
        rfl
    | cons d cs =>
      have apart (rest : List Char) : ∀ tail, c = '\r' → d :: cs ++ rest = '\n' :: tail → False := by
        rintro tail rfl same
        cases same
        exact apart _ rfl rfl
      rw [List.cons_append (a := c), List.cons_append (a := c), splitLines_boundary ends (apart _),
        splitLines_boundary ends (apart _), ih]
      rfl
  | case4 c cs _ inside | case5 c cs _ inside =>
    rename_i ih
    have inside : isLineBoundary c = false := by simpa using inside
    have some : splitLines (cs ++ [b]) ≠ [] := splitLines_some (by simp)
    obtain ⟨line, lines, same⟩ := List.exists_cons_of_ne_nil some
    rw [List.cons_append, List.cons_append, splitLines_inside inside, splitLines_inside inside, ih, same]
    rfl

/-- Each line of a text is split by itself. -/
theorem splitLines_flatMap (lines : List (List Char)) :
    splitLines (lines.flatMap (· ++ ['\n'])) = lines.flatMap fun line => splitLines (line ++ ['\n']) := by
  induction lines with
  | nil => rfl
  | cons line lines ih =>
    rw [List.flatMap_cons, List.append_assoc, List.singleton_append,
      splitLines_append line _ (by decide) (by decide), ih, List.flatMap_cons]

/-- Text without a boundary begins the first line of all that it begins. -/
theorem splitLines_front {front : List Char} (unbroken : Unbroken front) {rest : List Char} (some : rest ≠ []) :
    ∃ first others, splitLines (front ++ rest) = (front ++ first) :: others := by
  induction front with
  | nil => exact List.exists_cons_of_ne_nil (splitLines_some some)
  | cons c front ih =>
    obtain ⟨first, others, same⟩ := ih fun d member => unbroken d (List.mem_cons_of_mem _ member)
    refine ⟨first, others, ?_⟩
    rw [List.cons_append, splitLines_inside (unbroken c (by simp)), same]
    rfl

theorem splitLines_unbroken (cs : List Char) : ∀ line ∈ splitLines cs, Unbroken line := by
  fun_induction splitLines cs with
  | case1 => simp
  | case2 cs ih | case3 c cs _ _ ih => exact List.forall_mem_cons.mpr ⟨.nil, ih⟩
  | case4 c cs _ inside none ih => simpa [Unbroken] using inside
  | case5 c cs _ inside line others some ih =>
    rw [some] at ih
    obtain ⟨first, rest⟩ := List.forall_mem_cons.mp ih
    exact List.forall_mem_cons.mpr ⟨first.cons (by simpa using inside), rest⟩

theorem unifyNewlines_plain {cs : List Char} (plain : ∀ c ∈ cs, c ≠ '\r') : unifyNewlines cs = cs := by
  induction cs with
  | nil => rfl
  | cons c cs ih =>
    have ordinary := plain c (by simp)
    have tail := ih fun d member => plain d (List.mem_cons_of_mem _ member)
    rw [unifyNewlines, tail]
    · intro rest same
      exact absurd same ordinary
    · exact fun same => absurd same ordinary

theorem blank_of_boundary {c : Char} (boundary : isLineBoundary c = true) : isBlank c = true := by
  simp only [isLineBoundary, Bool.or_eq_true, Bool.and_eq_true, decide_eq_true_eq, beq_iff_eq] at boundary
  simp only [isBlank, Bool.or_eq_true, Bool.and_eq_true, decide_eq_true_eq, beq_iff_eq]
  omega

theorem boundary_of_not_blank {c : Char} (visible : isBlank c = false) : isLineBoundary c = false := by
  cases boundary : isLineBoundary c
  · rfl
  · rw [blank_of_boundary boundary] at visible
    cases visible

theorem digit_range {c : Char} (digit : c.isDigit = true) : 0x30 ≤ c.toNat ∧ c.toNat ≤ 0x39 := by
  obtain ⟨first, last⟩ := Bool.and_eq_true_iff.mp digit
  exact ⟨of_decide_eq_true first, of_decide_eq_true last⟩

theorem alphanumeric_range {c : Char} (letter : c.isAlphanum = true) : 0x30 ≤ c.toNat ∧ c.toNat ≤ 0x7A := by
  have upper (h : c.isUpper = true) : 0x41 ≤ c.toNat ∧ c.toNat ≤ 0x5A := of_decide_eq_true h
  have lower (h : c.isLower = true) : 0x61 ≤ c.toNat ∧ c.toNat ≤ 0x7A := by
    obtain ⟨first, last⟩ := Bool.and_eq_true_iff.mp h
    exact ⟨of_decide_eq_true first, of_decide_eq_true last⟩
  rcases Bool.or_eq_true_iff.mp letter with letter | h
  · rcases Bool.or_eq_true_iff.mp letter with h | h
    · have range := upper h
      omega
    · have range := lower h
      omega
  · have range := digit_range h
    omega

theorem alphanumeric_visible {c : Char} (letter : c.isAlphanum = true) : isBlank c = false := by
  have range := alphanumeric_range letter
  simp only [isBlank, Bool.or_eq_false_iff, Bool.and_eq_false_iff, decide_eq_false_iff_not, beq_eq_false_iff_ne]
  omega

theorem trimLeft_visible {c : Char} (visible : isBlank c = false) (cs : List Char) :
    trimLeft (c :: cs) = c :: cs := by simp [trimLeft, visible]

theorem trimLeft_blank {c : Char} (blank : isBlank c = true) (cs : List Char) :
    trimLeft (c :: cs) = trimLeft cs := by simp [trimLeft, blank]

theorem trimRight_visible {c : Char} (visible : isBlank c = false) (before after : List Char) :
    trimRight (before ++ c :: after) = before ++ c :: trimRight after := by
  simp only [trimRight, List.reverse_append, List.reverse_cons, List.append_assoc, List.singleton_append]
  rw [List.dropWhile_append]
  split
  · rename_i allBlank
    simp only [List.isEmpty_iff] at allBlank
    simp [allBlank, visible]
  · simp

theorem trimRight_end {c : Char} (visible : isBlank c = false) (before : List Char) :
    trimRight (before ++ [c]) = before ++ [c] := by
  rw [trimRight_visible visible]
  rfl

/-- Text that begins and ends with visible characters, or is empty. -/
def Trimmed (cs : List Char) : Prop := trim cs = cs

instance (cs : List Char) : Decidable (Trimmed cs) := inferInstanceAs (Decidable (_ = _))

theorem Trimmed.left {cs : List Char} (trimmed : Trimmed cs) : trimLeft cs = cs := by
  have suffix : trimLeft cs <:+ cs := List.dropWhile_suffix isBlank
  have shorter : (trimRight (trimLeft cs)).length ≤ (trimLeft cs).length := by
    simpa [trimRight] using (List.dropWhile_suffix isBlank (l := (trimLeft cs).reverse)).length_le
  have whole : cs.length ≤ (trimLeft cs).length := by
    rwa [← trim, trimmed] at shorter
  exact suffix.eq_of_length_le whole

theorem Trimmed.right {cs : List Char} (trimmed : Trimmed cs) : trimRight cs = cs := by
  have same : trim cs = cs := trimmed
  rwa [trim, trimmed.left] at same

theorem trim_trimRight_blank {b : Char} (blank : isBlank b = true) {cs : List Char} (trimmed : Trimmed cs) :
    trim (trimRight (b :: cs)) = cs := by
  have right : cs.reverse.dropWhile isBlank = cs.reverse := by
    have same := congrArg List.reverse trimmed.right
    rwa [trimRight, List.reverse_reverse] at same
  cases cs with
  | nil => simp [trimRight, blank, trim, trimLeft]
  | cons c cs =>
    have kept : trimRight (b :: c :: cs) = b :: c :: cs := by
      rw [trimRight, List.reverse_cons, List.dropWhile_append, right]
      simp
    have same : trim (c :: cs) = c :: cs := trimmed
    rw [kept, trim, trimLeft_blank blank, ← trim, same]

theorem trimmed_of_visible {cs : List Char} (visible : ∀ c ∈ cs, isBlank c = false) : Trimmed cs := by
  have left : trimLeft cs = cs := by
    cases cs with
    | nil => rfl
    | cons c cs => exact trimLeft_visible (visible c (by simp)) cs
  rw [Trimmed, trim, left]
  rcases List.eq_nil_or_concat cs with rfl | ⟨before, last, rfl⟩
  · rfl
  · simp only [List.concat_eq_append] at visible ⊢
    exact trimRight_end (visible last (by simp)) before

theorem words_visible (cs : List Char) : ∀ w ∈ words cs, w ≠ [] ∧ ∀ c ∈ w, isBlank c = false := by
  fun_induction words cs with
  | case1 => simp
  | case2 c cs blank ih => exact ih
  | case3 c visible => simp_all
  | case4 c visible d cs blank ih =>
    intro w member
    rcases List.mem_cons.mp member with rfl | member
    · simp_all
    · exact ih w member
  | case5 c visible d cs _ none ih => simp_all
  | case6 c visible d cs _ w ws some ih =>
    rw [some] at ih ⊢
    intro v member
    rcases List.mem_cons.mp member with rfl | member
    · have first := (ih w (by simp)).2
      simp_all
    · exact ih v (by simp [member])

theorem intercalate_end (ws : List (List Char)) (visible : ∀ w ∈ ws, w ≠ [] ∧ ∀ c ∈ w, isBlank c = false)
    (some : ws ≠ []) : ∃ before last, [' '].intercalate ws = before ++ [last] ∧ isBlank last = false := by
  induction ws with
  | nil => exact absurd rfl some
  | cons w ws ih =>
    have whole := visible w (by simp)
    cases ws with
    | nil =>
      refine ⟨w.dropLast, w.getLast whole.1, ?_, whole.2 _ (List.getLast_mem _)⟩
      rw [List.dropLast_concat_getLast, List.intercalate_singleton]
    | cons v ws =>
      obtain ⟨before, last, same, seen⟩ := ih (fun u member => visible u (List.mem_cons_of_mem _ member)) (by simp)
      exact ⟨w ++ [' '] ++ before, last, by rw [List.intercalate_cons_cons, same]; simp, seen⟩

theorem singleLine_trimmed (cs : List Char) : Trimmed (singleLine cs) := by
  have visible := words_visible cs
  unfold singleLine Trimmed trim
  cases hw : words cs with
  | nil => rfl
  | cons w ws =>
    rw [hw] at visible
    have first := visible w (by simp)
    obtain ⟨c, rest, same⟩ := List.exists_cons_of_ne_nil first.1
    have seen := first.2 c (by simp [same])
    have left : trimLeft ([' '].intercalate (w :: ws)) = [' '].intercalate (w :: ws) := by
      rw [same, List.intercalate_cons_cons_left, trimLeft_visible seen]
    obtain ⟨before, last, ends, visibleLast⟩ := intercalate_end _ visible (by simp)
    rw [left, ends, trimRight_end visibleLast]

theorem intercalate_unbroken (ws : List (List Char)) (unbroken : ∀ w ∈ ws, Unbroken w) :
    Unbroken ([' '].intercalate ws) := by
  induction ws with
  | nil => exact .nil
  | cons w ws ih =>
    have head := unbroken w (by simp)
    cases ws with
    | nil => rwa [List.intercalate_singleton]
    | cons v ws =>
      rw [List.intercalate_cons_cons]
      exact (head.append (by decide)).append (ih fun u member => unbroken u (List.mem_cons_of_mem _ member))

theorem singleLine_unbroken (cs : List Char) : Unbroken (singleLine cs) :=
  intercalate_unbroken _ fun w member c inside =>
    boundary_of_not_blank ((words_visible cs w member).2 c inside)

theorem append_inj_at {separator : Char} {xs ys front back : List Char} (left : separator ∉ xs) (right : separator ∉ ys)
    (same : xs ++ separator :: front = ys ++ separator :: back) : xs = ys ∧ front = back := by
  induction xs generalizing ys with
  | nil =>
    cases ys with
    | nil => exact ⟨rfl, (List.cons.inj same).2⟩
    | cons y ys =>
      obtain ⟨rfl, _⟩ := List.cons.inj same
      exact absurd List.mem_cons_self right
  | cons x xs ih =>
    cases ys with
    | nil =>
      obtain ⟨rfl, _⟩ := List.cons.inj same
      exact absurd List.mem_cons_self left
    | cons y ys =>
      obtain ⟨rfl, rest⟩ := List.cons.inj same
      obtain ⟨rfl, tail⟩ := ih (fun inside => left (List.mem_cons_of_mem _ inside))
        (fun inside => right (List.mem_cons_of_mem _ inside)) rest
      exact ⟨rfl, tail⟩

theorem append_inj_at_last {separator : Char} {xs ys front back : List Char} (left : separator ∉ xs)
    (right : separator ∉ ys) (same : front ++ separator :: xs = back ++ separator :: ys) : front = back ∧ xs = ys := by
  have reversed := congrArg List.reverse same
  simp only [List.reverse_append, List.reverse_cons, List.append_assoc, List.singleton_append] at reversed
  obtain ⟨tails, fronts⟩ := append_inj_at (by simpa using left) (by simpa using right) reversed
  exact ⟨List.reverse_inj.mp fronts, List.reverse_inj.mp tails⟩

end BrowserFlow.Text
