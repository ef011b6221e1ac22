import BrowserFlow.Proofs.Decimal.Numeral
import BrowserFlow.Time.Instant

namespace BrowserFlow.Instant

theorem digits_areDigits (width n : Nat) : ∀ c ∈ digits width n, c.isDigit = true := by
  induction width generalizing n with
  | zero => simp [digits]
  | succ width ih =>
    intro c member
    rcases List.mem_append.mp member with member | member
    · exact ih (n / 10) c member
    · rw [List.mem_singleton.mp member, Nat.isDigit_digitChar]
      exact decide_eq_true (Nat.mod_lt n (by decide))

theorem headerText_characters (t : Instant) :
    ∀ c ∈ t.headerText.toList, c.isDigit = true ∨ c ∈ ['-', 'T', ':', '.', 'Z'] := by
  have year := (Text.toDigits_areDigits t.date.year).2
  intro c member
  simp only [headerText, monthToSecond, String.toList_ofList, List.mem_append, List.mem_singleton] at member
  have number : (toString t.date.year).toList = Nat.toDigits 10 t.date.year := by
    rw [Nat.toString_eq_repr, Nat.toList_repr]
  rw [number] at member
  have part (width n : Nat) : c ∈ digits width n → c.isDigit = true := digits_areDigits width n c
  have front : c ∈ Nat.toDigits 10 t.date.year → c.isDigit = true := year c
  simp only [List.mem_cons, List.not_mem_nil]
  grind

theorem headerText_visible (t : Instant) : ∀ c ∈ t.headerText.toList, Text.isBlank c = false := by
  intro c member
  rcases headerText_characters t c member with digit | mark
  · exact Text.digit_visible digit
  · have marks : ∀ d ∈ ['-', 'T', ':', '.', 'Z'], Text.isBlank d = false := by simp [Text.isBlank]
    exact marks c mark

theorem headerText_unbroken (t : Instant) : Text.Unbroken t.headerText.toList :=
  fun c member => Text.boundary_of_not_blank (headerText_visible t c member)

end BrowserFlow.Instant
