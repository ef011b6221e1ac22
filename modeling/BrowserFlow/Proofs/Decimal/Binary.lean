import BrowserFlow.Decimal.Binary
import BrowserFlow.Proofs.Decimal.Power

namespace BrowserFlow.Binary

theorem ofFloat_finite {x : Float} {negative : Bool} {m : Nat} {q : Int} (h : ofFloat x = .finite negative m q) :
    m < twoTo 53 ∧ q ≤ 971 := by
  have significand : twoTo 53 = 0x20000000000000 := rfl
  have exponent : ((x.toBits >>> 52) &&& 0x7FF).toNat ≤ 0x7FF := by
    rw [UInt64.toNat_and]
    exact Nat.and_le_right
  have fraction : (x.toBits &&& 0xFFFFFFFFFFFFF).toNat ≤ 0xFFFFFFFFFFFFF := by
    rw [UInt64.toNat_and]
    exact Nat.and_le_right
  rw [significand]
  unfold ofFloat at h
  dsimp only at h
  split at h
  · split at h <;> cases h
  · rename_i notLast
    have notLast : ((x.toBits >>> 52) &&& 0x7FF).toNat ≠ 0x7FF := by simpa using notLast
    split at h
    · cases h
      constructor
      · omega
      · decide
    · cases h
      constructor
      · omega
      · omega

theorem natAbs_signed (negative : Bool) (n : Nat) : (signed negative n).natAbs = n := by
  unfold signed
  split <;> simp

/-- The integer part of a double has at most 1024 binary digits. -/
theorem truncate?_lt {x : Float} {n : Int} (h : (ofFloat x).truncate? = some n) : n.natAbs < twoTo 1024 := by
  cases parts : ofFloat x with
  | infinite negative => simp [parts, truncate?] at h
  | undefined => simp [parts, truncate?] at h
  | finite negative m q =>
    obtain ⟨significand, exponent⟩ := ofFloat_finite parts
    have bound : q.toNat ≤ 971 := by omega
    rw [parts] at h
    simp only [truncate?, Option.some.injEq] at h
    subst h
    rw [natAbs_signed]
    calc m * twoTo q.toNat / twoTo (-q).toNat
        ≤ m * twoTo q.toNat := Nat.div_le_self _ _
      _ ≤ m * twoTo 971 := Nat.mul_le_mul_left m (twoTo_le bound)
      _ < twoTo 53 * twoTo 971 := Nat.mul_lt_mul_of_pos_right significand (twoTo_pos 971)
      _ = twoTo 1024 := (twoTo_add 53 971).symm

end BrowserFlow.Binary
