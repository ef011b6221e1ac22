import BrowserFlow.Decimal.Numeral
import BrowserFlow.Proofs.Text.Lines

namespace BrowserFlow

namespace Text

/-- At least one of the ten usual digits. -/
def AreDigits (cs : List Char) : Prop := cs ≠ [] ∧ ∀ c ∈ cs, c.isDigit = true

/-- Digits with an optional minus sign. -/
def IsSignedNumeral (cs : List Char) : Prop := AreDigits cs ∨ ∃ ds, cs = '-' :: ds ∧ AreDigits ds

theorem digitValue_ascii {c : Char} (digit : c.isDigit = true) : digitValue? c = some (c.toNat - 48) := by
  have range := digit_range digit
  have first : (0x30 ≤ c.toNat && c.toNat < 0x30 + 10) = true := by
    simp only [Bool.and_eq_true, decide_eq_true_eq]
    omega
  simp [digitValue?, digitZeros, first]

theorem isDigit_ascii {c : Char} (digit : c.isDigit = true) : isDigit c = true := by
  simp [isDigit, digitValue_ascii digit]

theorem digit_visible {c : Char} (digit : c.isDigit = true) : isBlank c = false :=
  alphanumeric_visible (by rw [Char.isAlphanum, digit, Bool.or_true])

theorem AreDigits.unbroken {cs : List Char} (digits : AreDigits cs) : Unbroken cs :=
  fun c member => boundary_of_not_blank (digit_visible (digits.2 c member))

theorem IsSignedNumeral.unbroken {cs : List Char} (numeral : IsSignedNumeral cs) : Unbroken cs := by
  rcases numeral with digits | ⟨ds, rfl, digits⟩
  · exact digits.unbroken
  · exact .cons (by decide) digits.unbroken

theorem toDigits_areDigits (n : Nat) : AreDigits (Nat.toDigits 10 n) :=
  ⟨Nat.toDigits_ne_nil, fun _ member => Nat.isDigit_of_mem_toDigits (by decide) (by decide) member⟩

theorem toList_toString (n : Int) :
    (toString n).toList = if n < 0 then '-' :: Nat.toDigits 10 n.natAbs else Nat.toDigits 10 n.natAbs := by
  rw [Int.toString_eq_repr, Int.repr_eq_if]
  by_cases negative : n < 0
  · have size : (-n).toNat = n.natAbs := by omega
    rw [if_neg (by omega), if_pos negative, size]
    simp
  · have size : n.toNat = n.natAbs := by omega
    rw [if_pos (by omega), if_neg negative, size]
    simp

theorem toString_isSignedNumeral (n : Int) : IsSignedNumeral (toString n).toList := by
  rw [toList_toString]
  split
  · exact .inr ⟨_, rfl, toDigits_areDigits _⟩
  · exact .inl (toDigits_areDigits _)

theorem toString_areDigits {n : Int} (positive : 0 ≤ n) : AreDigits (toString n).toList := by
  rw [toList_toString, if_neg (by omega)]
  exact toDigits_areDigits _

theorem toList_pushn (s : String) (c : Char) (n : Nat) : (s.pushn c n).toList = s.toList ++ List.replicate n c := by
  induction n with
  | zero => simp [String.pushn, Nat.repeat]
  | succ n ih =>
    have next : s.pushn c (n + 1) = (s.pushn c n).push c := rfl
    rw [next, String.toList_push, ih, List.replicate_succ', List.append_assoc]

theorem toList_padZeros (width n : Nat) : (padZeros width (toString n)).toList =
    List.replicate (width - (toString n).length) '0' ++ Nat.toDigits 10 n := by
  rw [padZeros, String.toList_append, toList_pushn, Nat.toString_eq_repr, Nat.toList_repr]
  rfl

theorem padZeros_inj {width m n : Nat}
    (same : (padZeros width (toString m)).toList = (padZeros width (toString n)).toList) : m = n := by
  rw [toList_padZeros, toList_padZeros] at same
  have numbers := congrArg (Nat.ofDigitChars 10 · 0) same
  simpa [Nat.ofDigitChars_append] using numbers

theorem padZeros_digits {width n : Nat} {c : Char} (inside : c ∈ (padZeros width (toString n)).toList) :
    c.isDigit = true := by
  rw [toList_padZeros] at inside
  rcases List.mem_append.mp inside with zero | digit
  · rw [(List.mem_replicate.mp zero).2]
    rfl
  · exact Nat.isDigit_of_mem_toDigits (by decide) (by decide) digit

end Text

namespace Numeral

theorem toDecimalDigit_ascii {c : Char} (digit : c.isDigit = true) : toDecimalDigit c = c := by
  have range := Text.digit_range digit
  have back : 48 + (c.toNat - 48) = c.toNat := by omega
  simp only [toDecimalDigit, Text.digitValue_ascii digit, back]
  exact Char.ofNat_toNat c

theorem dropUnderscores_ascii (cs : List Char) (plain : ∀ c ∈ cs, c ≠ '_') (previous : Char)
    (before : previous ≠ '_') : dropUnderscores previous cs = some cs := by
  induction cs generalizing previous with
  | nil => simp [dropUnderscores, before]
  | cons c cs ih =>
    have head := plain c (by simp)
    have tail := ih (fun d member => plain d (List.mem_cons_of_mem _ member)) c head
    simp [dropUnderscores, head, before, tail]

theorem normalize_ascii (cs : List Char) (plain : ∀ c ∈ cs, c = '-' ∨ c.isDigit = true) :
    normalize cs = some cs := by
  have trimmed : Text.trim cs = cs := by
    refine Text.trimmed_of_visible fun c member => ?_
    rcases plain c member with rfl | digit
    · decide
    · exact Text.digit_visible digit
  have same : cs.map toDecimalDigit = cs := by
    conv => rhs; rw [← List.map_id cs]
    refine List.map_congr_left fun c member => ?_
    rcases plain c member with rfl | digit
    · decide
    · exact toDecimalDigit_ascii digit
  rw [normalize, trimmed, same]
  refine dropUnderscores_ascii cs (fun c member => ?_) ' ' (by decide)
  rcases plain c member with rfl | digit
  · decide
  · rintro rfl
    exact absurd digit (by decide)

theorem natOfDigits_toDigits (n : Nat) : natOfDigits (Nat.toDigits 10 n) = n :=
  Nat.ofDigitChars_ten_toDigits

theorem length_toDigits_le {n : Nat} (short : n < tenTo maxDigits) : ¬ maxDigits < (Nat.toDigits 10 n).length := by
  have bound := (Nat.length_toDigits_le_iff (k := maxDigits) (by decide) (by decide)).mpr short
  omega

theorem splitSign_digits {cs : List Char} (digits : Text.AreDigits cs) : splitSign cs = (false, cs) := by
  obtain ⟨c, rest, rfl⟩ := List.exists_cons_of_ne_nil digits.1
  have head := digits.2 c (by simp)
  unfold splitSign
  split
  · rename_i same
    cases same
    exact absurd head (by decide)
  · rename_i same
    cases same
    exact absurd head (by decide)
  · rfl

theorem readInt_toString (n : Int) (short : n.natAbs < tenTo maxDigits) :
    readInt (toString n).toList = .ok n := by
  have digits := Text.toDigits_areDigits n.natAbs
  have fits := length_toDigits_le short
  have all : (Nat.toDigits 10 n.natAbs).all Char.isDigit = true := List.all_eq_true.mpr digits.2
  have some : (Nat.toDigits 10 n.natAbs).isEmpty = false := by simp
  rw [Text.toList_toString]
  by_cases negative : n < 0
  · have plain : ∀ c ∈ '-' :: Nat.toDigits 10 n.natAbs, c = '-' ∨ c.isDigit = true := by
      intro c member
      rcases List.mem_cons.mp member with rfl | member
      · exact .inl rfl
      · exact .inr (digits.2 c member)
    have value : -(n.natAbs : Int) = n := by omega
    rw [if_pos negative, readInt, normalize_ascii _ plain]
    simp only [splitSign, some, all, fits, natOfDigits_toDigits, Bool.not_true, Bool.or_self, Bool.false_eq_true,
      if_false, if_true, value]
  · have plain : ∀ c ∈ Nat.toDigits 10 n.natAbs, c = '-' ∨ c.isDigit = true :=
      fun c member => .inr (digits.2 c member)
    have value : (n.natAbs : Int) = n := by omega
    simp [if_neg negative, readInt, normalize_ascii _ plain, splitSign_digits digits, some, all, fits,
      natOfDigits_toDigits, value]

end Numeral

end BrowserFlow
