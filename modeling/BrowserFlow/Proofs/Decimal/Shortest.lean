import BrowserFlow.Decimal.Shortest
import BrowserFlow.Proofs.Decimal.Double

/-!
The digits of a double are a decimal in its interval, so they read back as the same double.
-/

namespace BrowserFlow.Decimal

open Binary

/-- The number that a decimal stands for. -/
def value (d : Decimal) : ℚ := d.digits * 10 ^ d.exponent

theorem compare_scaled {x y : ℕ} {u v c : ℚ} (positive : 0 < c) (hx : (x : ℚ) = u * c) (hy : (y : ℚ) = v * c) :
    compare x y = compare u v := by
  cases order : compare x y with
  | lt =>
    have less : (x : ℚ) < y := by exact_mod_cast Nat.compare_eq_lt.mp order
    rw [hx, hy] at less
    exact (compare_lt_iff_lt.mpr (lt_of_mul_lt_mul_right less positive.le)).symm
  | eq =>
    have same : (x : ℚ) = y := by exact_mod_cast Nat.compare_eq_eq.mp order
    rw [hx, hy] at same
    exact (compare_eq_iff_eq.mpr (mul_right_cancel₀ positive.ne' same)).symm
  | gt =>
    have more : (y : ℚ) < x := by exact_mod_cast Nat.compare_eq_gt.mp order
    rw [hx, hy] at more
    exact (compare_gt_iff_gt.mpr (lt_of_mul_lt_mul_right more positive.le)).symm

theorem pow_toNat {b : ℚ} (some : b ≠ 0) (e : ℤ) : b ^ e.toNat = b ^ e * b ^ (-e).toNat := by
  rw [← zpow_natCast, ← zpow_natCast, ← zpow_add₀ some]
  congr 1
  omega

theorem cast_twoTo (n : ℕ) : (twoTo n : ℚ) = 2 ^ n := by
  change ((2 ^ n : ℕ) : ℚ) = 2 ^ n
  push_cast
  rfl

theorem compareScaled_eq (a : ℕ) (i : ℤ) (b : ℕ) (j : ℤ) :
    compareScaled a i b j = compare (a * 10 ^ i : ℚ) (b * 2 ^ j) := by
  have ten := pow_toNat (by norm_num : (10 : ℚ) ≠ 0) i
  have two := pow_toNat (by norm_num : (2 : ℚ) ≠ 0) j
  refine compare_scaled (c := 10 ^ (-i).toNat * 2 ^ (-j).toNat) (by positivity) ?_ ?_
  · rw [Nat.cast_mul, Nat.cast_mul, cast_tenTo, cast_twoTo, ten]
    ring
  · rw [Nat.cast_mul, Nat.cast_mul, cast_tenTo, cast_twoTo, two]
    ring

/-- What reads back as a double lies in its interval. -/
theorem readsBackAs_rounds {d : Decimal} {m : ℕ} {q : ℤ} (h : d.readsBackAs m q = true) : RoundsTo d.value m q := by
  have ends : d.readsBackAs m q =
      ((compareScaled d.digits d.exponent (lowEnd m q) (q - 2) == .gt ||
        (m % 2 == 0 && compareScaled d.digits d.exponent (lowEnd m q) (q - 2) == .eq)) &&
      (compareScaled d.digits d.exponent (4 * m + 2) (q - 2) == .lt ||
        (m % 2 == 0 && compareScaled d.digits d.exponent (4 * m + 2) (q - 2) == .eq))) := rfl
  rw [ends] at h
  simp only [compareScaled_eq, Bool.and_eq_true, Bool.or_eq_true, beq_iff_eq, compare_gt_iff_gt, compare_eq_iff_eq,
    compare_lt_iff_lt] at h
  obtain ⟨low, high⟩ := h
  refine ⟨?_, ?_, ?_⟩
  · rcases low with less | ⟨_, same⟩
    · exact less.le
    · exact same.symm.le
  · rcases high with less | ⟨_, same⟩
    · exact less.le
    · exact same.le
  · intro odd
    have notEven : m % 2 ≠ 0 := by omega
    exact ⟨low.resolve_right fun h => notEven h.1, high.resolve_right fun h => notEven h.1⟩

theorem onGrid?_readsBack {m : ℕ} {q e : ℤ} {d : Decimal} (h : onGrid? m q e = some d) : d.readsBackAs m q = true := by
  unfold onGrid? at h
  dsimp only at h
  split at h
  · rename_i down up
    split at h
    · cases h
      exact up
    · cases h
      exact down
    · cases h
      split
      · exact down
      · exact up
  · rename_i down _
    cases h
    exact down
  · rename_i up
    cases h
    exact up
  · cases h

theorem stripZeros_value (fuel : ℕ) (d : Decimal) : (stripZeros fuel d).value = d.value := by
  induction fuel generalizing d with
  | zero => rfl
  | succ fuel ih =>
    rw [stripZeros]
    split
    · rename_i zero
      have last : d.digits % 10 = 0 := by simpa using (Bool.and_eq_true_iff.mp zero).2
      have digits : (d.digits : ℚ) = 10 * (d.digits / 10 : ℕ) := by
        exact_mod_cast (Nat.mul_div_cancel' (Nat.dvd_of_mod_eq_zero last)).symm
      rw [ih, value, value, digits, zpow_add_one₀ (by norm_num)]
      ring
    · rfl

theorem shortest_rounds {m : ℕ} (positive : 0 < m) (q : ℤ) : RoundsTo (shortest m q).value m q := by
  unfold shortest
  dsimp only
  split
  · rename_i found
    obtain ⟨n, _, found⟩ := List.exists_of_findSome?_eq_some found
    rw [stripZeros_value]
    exact readsBackAs_rounds (onGrid?_readsBack found)
  · have exact : (m * twoTo q.toNat * Nat.pow 5 (-q).toNat : ℕ) * (10 : ℚ) ^ min q 0 = m * 2 ^ q := by
      have two := pow_toNat (by norm_num : (2 : ℚ) ≠ 0) q
      have five : ((Nat.pow 5 (-q).toNat : ℕ) : ℚ) = 5 ^ (-q).toNat := by
        change ((5 ^ (-q).toNat : ℕ) : ℚ) = _
        push_cast
        rfl
      have tens : (10 : ℚ) ^ min q 0 * (2 ^ (-q).toNat * 5 ^ (-q).toNat) = 1 := by
        have exponent : min q 0 = -((-q).toNat : ℤ) := by omega
        rw [← mul_pow, exponent, zpow_neg, zpow_natCast]
        norm_num
      rw [Nat.cast_mul, Nat.cast_mul, cast_twoTo, five, two]
      calc (m * (2 ^ q * 2 ^ (-q).toNat) * 5 ^ (-q).toNat * 10 ^ min q 0 : ℚ)
          = m * 2 ^ q * (10 ^ min q 0 * (2 ^ (-q).toNat * 5 ^ (-q).toNat)) := by ring
        _ = m * 2 ^ q := by rw [tens, mul_one]
    have own := RoundsTo.self (q := q) positive
    rw [← exact] at own
    exact own

end BrowserFlow.Decimal
