import BrowserFlow.Proofs.Decimal.Binary
import BrowserFlow.Proofs.Decimal.Order
import BrowserFlow.Proofs.Result
import BrowserFlow.Proofs.Value.Json
import BrowserFlow.Value.Number

/-!
The exact numbers that values stand for, and bounds of the integers that they are converted to, within which further
conversions succeed.
-/

namespace BrowserFlow

theorem Numeral.readInt_short {cs : List Char} {n : Int} (h : readInt cs = .ok n) : n.natAbs < tenTo maxDigits := by
  unfold readInt at h
  split at h
  · cases h
  · dsimp only at h
    split at h
    · cases h
    · rename_i normal _ digits
      split at h
      · cases h
      · rename_i fits
        have all : ∀ c ∈ (splitSign normal).2, c.isDigit = true := by simp_all
        have bound := natOfDigits_lt all
        have longest := tenTo_le (Nat.not_lt.mp fits)
        have size : n.natAbs = natOfDigits (splitSign normal).2 := by
          cases h
          split <;> simp
        omega

namespace Value

/-- The exact number that a value stands for, if it is one. -/
def number? : Value → Option ℚ
  | .float x => (Binary.ofFloat x).value?
  | v => v.integer?.map Int.cast

theorem number?_cases {v : Value} {t : ℚ} (number : v.number? = some t) :
    (∃ x, v = .float x ∧ (Binary.ofFloat x).value? = some t) ∨
      ∃ n : ℤ, v.integer? = some n ∧ (∀ x, v ≠ .float x) ∧ t = n := by
  unfold number? at number
  split at number
  · exact .inl ⟨_, rfl, number⟩
  · rename_i other
    obtain ⟨n, integer, same⟩ := Option.map_eq_some_iff.mp number
    exact .inr ⟨n, integer, other, same.symm⟩

theorem double_short {n : Nat} (small : n < twoTo 1024) : n < tenTo Numeral.maxDigits := by
  have longest : tenTo 1024 ≤ tenTo Numeral.maxDigits := tenTo_le (by decide)
  exact Nat.lt_of_lt_of_le small (Nat.le_trans (twoTo_le_tenTo 1024) longest)

theorem truncate_ok {x : Float} {n : Int} (h : truncate x = .ok n) : (Binary.ofFloat x).truncate? = some n := by
  unfold truncate at h
  cases parts : Binary.ofFloat x with
  | infinite negative =>
    rw [parts] at h
    cases h
  | undefined =>
    rw [parts] at h
    cases h
  | finite negative m q =>
    rw [parts] at h
    exact congrArg some (Except.ok.inj h)

theorem truncate_lt {x : Float} {n : Int} (h : truncate x = .ok n) : n.natAbs < twoTo 1024 :=
  Binary.truncate?_lt (truncate_ok h)

theorem toInt_short {v : Value} (short : v.Short) {n : Int} (h : v.toInt = .ok n) :
    n.natAbs < tenTo Numeral.maxDigits := by
  cases v with
  | int m =>
    cases h
    exact short n rfl
  | bool b =>
    have one : 1 < tenTo Numeral.maxDigits := Nat.one_lt_pow (by decide) (by decide)
    cases b <;> cases h
    · exact Nat.lt_trans Nat.one_pos one
    · exact one
  | float x => exact double_short (truncate_lt h)
  | str s =>
    rw [toInt, intOfText] at h
    split at h
    · rename_i read
      cases h
      exact Numeral.readInt_short read
    · cases h
    · cases h
  | _ => cases h

/-- Milliseconds that have been cut from a double can be turned into seconds. -/
theorem thousandth_ok {n : Int} (small : n.natAbs < twoTo 1024) : ∃ seconds, thousandth (.int n) = .ok seconds := by
  have half : twoTo 970 ≤ twoTo 1023 := twoTo_le (by decide)
  have double : twoTo 1024 = 2 * twoTo 1023 := by rw [← twoTo_succ]
  have limit : ¬ floatLimit * 1000 ≤ n.natAbs := by
    rw [floatLimit]
    omega
  exact ⟨Numeral.nearestFloat (n < 0) n.natAbs (-3), by simp only [thousandth, integer?, if_neg limit]⟩

end Value

end BrowserFlow
