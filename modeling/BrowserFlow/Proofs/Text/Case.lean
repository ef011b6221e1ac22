import BrowserFlow.Text.Case
import Mathlib.Data.List.Basic

/-!
Text in lower case has no capitals. Beyond ASCII only two characters have small letters in ASCII, the dotted capital I
and the Kelvin sign, and neither of them is a small letter. So what has been put in lower case once and is ASCII after
it has been put in lower case again was so before.
-/

namespace BrowserFlow.Text

theorem capitalRuns_range : ∀ run ∈ capitalRuns, run.1 = 0x41 ∨ run.1 = 0x212A ∧ run.2.1 = 0x212A ∨
    (0x80 ≤ run.1 + run.2.2.2 ∧ run.2.1 + run.2.2.2 < 0xD800 ∨
      0xDFFF < run.1 + run.2.2.2 ∧ run.2.1 + run.2.2.2 < 0x110000) ∧
    (run.2.1 + run.2.2.2 < 0x130 ∨ 0x130 < run.1 + run.2.2.2) ∧
    (run.2.1 + run.2.2.2 < 0x212A ∨ 0x212A < run.1 + run.2.2.2) := by
  decide +kernel

theorem capitalRuns_first : ∀ run ∈ capitalRuns, run.1 = 0x41 → run.2.1 = 0x5A := by
  decide +kernel

theorem toNat_ofNat {n : ℕ} (valid : n < 0xD800 ∨ 0xDFFF < n ∧ n < 0x110000) : (Char.ofNat n).toNat = n := by
  have isValid : n.isValidChar := valid
  rw [Char.ofNat, dif_pos isValid]
  rfl

theorem smallLetter_beyond {c : Char} (beyond : 0x80 ≤ c.toNat) (kelvin : c.toNat ≠ 0x212A) :
    0x80 ≤ (smallLetter c).toNat ∧ (smallLetter c).toNat ≠ 0x212A ∧
      ((smallLetter c).toNat = 0x130 → c.toNat = 0x130) := by
  unfold smallLetter
  dsimp only
  rw [if_neg (Nat.not_lt.mpr beyond)]
  split
  · rename_i first last step delta found
    have member := List.mem_of_find?_eq_some found
    have within := List.find?_some found
    simp only [Bool.and_eq_true, decide_eq_true_eq] at within
    obtain ⟨⟨low, high⟩, _⟩ := within
    have range := capitalRuns_range _ member
    have ascii := capitalRuns_first _ member
    dsimp only at range ascii ⊢
    have moved : (Char.ofNat (c.toNat + delta).toNat).toNat = (c.toNat + delta).toNat := by
      apply toNat_ofNat
      omega
    rw [moved]
    omega
  · exact ⟨beyond, kelvin, id⟩

/-- Neither a capital of ASCII nor one whose small letter is. -/
def IsSettled (c : Char) : Prop := (c.toNat < 0x41 ∨ 0x5A < c.toNat) ∧ c.toNat ≠ 0x130 ∧ c.toNat ≠ 0x212A

theorem toNat_toLower (c : Char) :
    c.toLower.toNat = if 0x41 ≤ c.toNat ∧ c.toNat ≤ 0x5A then c.toNat + 32 else c.toNat := by
  unfold Char.toLower
  split
  · rename_i capital
    have range : 0x41 ≤ c.toNat ∧ c.toNat ≤ 0x5A := ⟨capital.1, capital.2⟩
    have code : c.val.toNat = c.toNat := rfl
    rw [if_pos range]
    change (c.val + ('a'.val - 'A'.val)).toNat = _
    rw [UInt32.toNat_add, code, show ('a'.val - 'A'.val).toNat = 32 from rfl]
    omega
  · rename_i other
    rw [if_neg fun range => other ⟨range.1, range.2⟩]

theorem settled_smallLetter {c : Char} (dotted : c.toNat ≠ 0x130) : IsSettled (smallLetter c) := by
  by_cases ascii : c.toNat < 0x80
  · have code := toNat_toLower c
    rw [smallLetter, if_pos ascii, IsSettled]
    split at code <;> omega
  · by_cases kelvin : c.toNat = 0x212A
    · have same : c = Char.ofNat 0x212A := by rw [← kelvin, Char.ofNat_toNat]
      rw [same]
      refine ⟨?_, ?_, ?_⟩ <;> decide +kernel
    · obtain ⟨beyond, other, only⟩ := smallLetter_beyond (Nat.le_of_not_lt ascii) kelvin
      exact ⟨.inr (by omega), fun same => dotted (only same), other⟩

theorem settled_lowerAfter (before cs : List Char) : ∀ c ∈ lowerAfter before cs, IsSettled c := by
  induction cs generalizing before with
  | nil => exact fun c member => absurd member List.not_mem_nil
  | cons c cs ih =>
    intro d member
    rw [lowerAfter] at member
    rcases List.mem_append.mp member with here | later
    · split at here
      · simp only [List.mem_cons, List.not_mem_nil, or_false] at here
        rcases here with rfl | rfl
        · exact ⟨by decide, by decide, by decide⟩
        · exact ⟨by decide, by decide, by decide⟩
      · rename_i dotted
        rw [beq_iff_eq] at dotted
        split at here
        · split at here
          · rw [List.mem_singleton.mp here]
            exact ⟨by decide, by decide, by decide⟩
          · rw [List.mem_singleton.mp here]
            exact ⟨by decide, by decide, by decide⟩
        · rw [List.mem_singleton.mp here]
          exact settled_smallLetter dotted
    · exact ih _ d later

theorem smallLetter_settled {c : Char} (settled : IsSettled c) (ascii : (smallLetter c).toNat < 0x80) :
    smallLetter c = c := by
  obtain ⟨small, _, kelvin⟩ := settled
  have low : c.toNat < 0x80 := by
    by_contra beyond
    have := (smallLetter_beyond (Nat.le_of_not_lt beyond) kelvin).1
    omega
  rw [smallLetter, if_pos low]
  apply Char.toNat_inj.mp
  rw [toNat_toLower]
  split <;> omega

/-- Settled text whose lower case is ASCII is in lower case. -/
theorem lowerAfter_settled {cs : List Char} (settled : ∀ c ∈ cs, IsSettled c) (before : List Char)
    (ascii : ∀ c ∈ lowerAfter before cs, c.toNat < 0x80) : lowerAfter before cs = cs := by
  induction cs generalizing before with
  | nil => rfl
  | cons c cs ih =>
    obtain ⟨head, tail⟩ := List.forall_mem_cons.mp settled
    rw [lowerAfter] at ascii ⊢
    obtain ⟨here, later⟩ := List.forall_mem_append.mp ascii
    rw [ih tail _ later]
    have dotted : (c.toNat == 0x130) = false := beq_eq_false_iff_ne.mpr head.2.1
    simp only [dotted, Bool.false_eq_true, if_false] at here ⊢
    split at here
    · split at here
      · exact absurd (here _ (List.mem_singleton_self _)) (by decide)
      · exact absurd (here _ (List.mem_singleton_self _)) (by decide)
    · rename_i sigma
      rw [if_neg sigma, smallLetter_settled head (here _ (List.mem_singleton_self _))]
      rfl

/-- A part of a text in lower case that is spelled like an ASCII name but for the case is the name. -/
theorem eq_of_lower {s name : String} {part : List Char} (within : ∀ c ∈ part, c ∈ (lower s).toList)
    (ascii : ∀ c ∈ name.toList, c.toNat < 0x80) (same : lower (String.ofList part) = name) :
    String.ofList part = name := by
  have letters : lowerAfter [] part = name.toList := by
    rw [← same, lower, String.toList_ofList, String.toList_ofList]
  have settled : ∀ c ∈ part, IsSettled c := by
    intro c member
    have here := within c member
    rw [lower, String.toList_ofList] at here
    exact settled_lowerAfter _ _ c here
  rw [← letters] at ascii
  rw [← lowerAfter_settled settled [] ascii, letters, String.ofList_toList]

end BrowserFlow.Text
