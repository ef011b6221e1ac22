import BrowserFlow.Decimal.Binary
import BrowserFlow.Proofs.Decimal.Power
import Mathlib

/-!
Which numbers round to a double. A finite double has one significand and exponent, and around it lies the interval of
the numbers that are nearer to it than to any other double; at its ends they round to the even significand. The
arithmetic of doubles drops digits one by one and remembers what has been dropped, which is enough to find the double
in whose interval a number lies.
-/

namespace BrowserFlow.Binary

open Float.Model Float.Model.UnpackedFloat

/-- The significand and exponent of a finite double: as many digits as fit, unless the exponent is the least. -/
structure IsCanonical (m : ℕ) (q : ℤ) : Prop where
  fits : m < 2 ^ 53
  least : -1074 ≤ q
  full : q = -1074 ∨ 2 ^ 52 ≤ m

/-- The lower end of the interval around `m * 2 ^ q`, in quarters of `2 ^ q`. -/
def lowEnd (m : ℕ) (q : ℤ) : ℕ := if m == 0x10000000000000 && q > -1074 then 4 * m - 1 else 4 * m - 2

/-- The number `x` lies in the interval around `m * 2 ^ q`, to which the ends belong if `m` is even. -/
structure RoundsTo (x : ℚ) (m : ℕ) (q : ℤ) : Prop where
  low : lowEnd m q * (2 : ℚ) ^ (q - 2) ≤ x
  high : x ≤ (4 * m + 2 : ℕ) * (2 : ℚ) ^ (q - 2)
  inside : m % 2 = 1 → lowEnd m q * (2 : ℚ) ^ (q - 2) < x ∧ x < (4 * m + 2 : ℕ) * (2 : ℚ) ^ (q - 2)

/-- The natural number nearest to `t`, the even one of two. -/
structure IsNearest (t : ℚ) (n : ℕ) : Prop where
  low : 2 * (n : ℚ) - 1 ≤ 2 * t
  high : 2 * t ≤ 2 * n + 1
  inside : n % 2 = 1 → 2 * (n : ℚ) - 1 < 2 * t ∧ 2 * t < 2 * n + 1

/-! ### Dropping digits -/

/-- What is kept of the number `t`: its integer part, the next digit, and whether there is anything after that. -/
def Keeps (em : ExtendedMantissa) (t : ℚ) : Prop :=
  ∃ r : ℚ, t = em.mantissa + (if em.roundBit then 1 / 2 else 0) + r ∧ 0 ≤ r ∧ r < 1 / 2 ∧ (em.stickyBit = true ↔ 0 < r)

theorem keeps_exact (n : ℕ) : Keeps (.ofMantissaAndAccuracy n .exact) n :=
  ⟨0, by simp [ExtendedMantissa.ofMantissaAndAccuracy], le_refl _, by norm_num,
    by simp [ExtendedMantissa.ofMantissaAndAccuracy]⟩

theorem Keeps.bounds {em : ExtendedMantissa} {t : ℚ} (keeps : Keeps em t) :
    (em.mantissa : ℚ) ≤ t ∧ t < (em.mantissa + 1 : ℕ) := by
  obtain ⟨r, rfl, least, small, _⟩ := keeps
  push_cast
  split
  · constructor <;> linarith
  · constructor <;> linarith

theorem Keeps.shiftRightOne {em : ExtendedMantissa} {t : ℚ} (keeps : Keeps em t) : Keeps em.shiftRightOne (t / 2) := by
  obtain ⟨r, rfl, least, small, sticky⟩ := keeps
  obtain ⟨n, roundBit, stickyBit⟩ := em
  have halves : (n : ℚ) = 2 * (n / 2 : ℕ) + (n % 2 : ℕ) := by exact_mod_cast (Nat.div_add_mod n 2).symm
  refine ⟨(if roundBit then 1 / 4 else 0) + r / 2, ?_, ?_, ?_, ?_⟩
  · rcases Nat.mod_two_eq_zero_or_one n with even | odd
    · simp only [ExtendedMantissa.shiftRightOne, even, bne_self_eq_false] at halves ⊢
      rw [halves]
      cases roundBit <;> simp <;> ring
    · simp only [ExtendedMantissa.shiftRightOne, odd] at halves ⊢
      rw [halves]
      cases roundBit <;> simp <;> ring
  · cases roundBit <;> simp <;> linarith
  · cases roundBit <;> simp <;> linarith
  · have halved : 0 < r ↔ 0 < r / 2 := by constructor <;> intro <;> linarith
    cases roundBit
    · simpa [ExtendedMantissa.shiftRightOne, ← halved] using sticky
    · simp only [ExtendedMantissa.shiftRightOne, Bool.true_or, true_iff, if_true]
      linarith

theorem Keeps.shiftRight {em : ExtendedMantissa} {t : ℚ} (keeps : Keeps em t) (k : ℕ) :
    Keeps (em >>> k) (t / 2 ^ k) := by
  induction k with
  | zero => simpa [HShiftRight.hShiftRight, Nat.repeat] using keeps
  | succ k ih =>
    have next : em >>> (k + 1) = (em >>> k).shiftRightOne := rfl
    have half : t / 2 ^ (k + 1) = t / 2 ^ k / 2 := by rw [pow_succ, div_div]
    rw [next, half]
    exact ih.shiftRightOne

theorem Keeps.roundedMantissa {em : ExtendedMantissa} {t : ℚ} (keeps : Keeps em t) {n : ℕ} (nearest : IsNearest t n) :
    em.roundedMantissa = n := by
  obtain ⟨r, rfl, least, small, sticky⟩ := keeps
  obtain ⟨low, high, inside⟩ := nearest
  obtain ⟨m, roundBit, stickyBit⟩ := em
  cases roundBit <;> cases stickyBit
  · have exact : r = 0 := by
      have : ¬ 0 < r := by simpa using sticky
      linarith
    have below : (n : ℚ) < m + 1 := by simp [exact] at low; linarith
    have above : (m : ℚ) < n + 1 := by simp [exact] at high; linarith
    have same : n = m := by
      norm_cast at below above
      omega
    simp [ExtendedMantissa.roundedMantissa, ExtendedMantissa.accuracy, Accuracy.roundToNearestEven, same]
  · have positive : 0 < r := by simpa using sticky
    have below : (n : ℚ) < m + 1 := by simp at low; linarith
    have above : (m : ℚ) < n + 1 := by simp at high; linarith
    have same : n = m := by
      norm_cast at below above
      omega
    simp [ExtendedMantissa.roundedMantissa, ExtendedMantissa.accuracy, Accuracy.roundToNearestEven, same]
  · have exact : r = 0 := by
      have : ¬ 0 < r := by simpa using sticky
      linarith
    have below : (n : ℚ) ≤ m + 1 := by simp [exact] at low; linarith
    have above : (m : ℚ) ≤ n := by simp [exact] at high; linarith
    have even : n % 2 = 0 := by
      by_contra odd
      obtain ⟨aboveLow, belowHigh⟩ := inside (by omega)
      simp only [exact, if_true] at aboveLow belowHigh
      have strictlyBelow : (n : ℚ) < m + 1 := by linarith
      have strictlyAbove : (m : ℚ) < n := by linarith
      norm_cast at strictlyBelow strictlyAbove
      omega
    norm_cast at below above
    simp only [ExtendedMantissa.roundedMantissa, ExtendedMantissa.accuracy, Accuracy.roundToNearestEven]
    omega
  · have positive : 0 < r := by simpa using sticky
    have below : (n : ℚ) < m + 2 := by simp at low; linarith
    have above : (m : ℚ) < n := by simp at high; linarith
    have same : n = m + 1 := by
      norm_cast at below above
      omega
    simp [ExtendedMantissa.roundedMantissa, ExtendedMantissa.accuracy, Accuracy.roundToNearestEven, same]

/-! ### The exponent of the double -/

theorem targetExponent_eq (size : ℤ) : Format.binary64.targetExponent size = max (size - 53) (-1074) := rfl

theorem zpow_split (a b : ℤ) : (2 : ℚ) ^ a = 2 ^ b * 2 ^ (a - b) := by
  rw [← zpow_add₀ (by norm_num)]
  congr 1
  omega

theorem lowEnd_le {m : ℕ} (positive : 0 < m) (q : ℤ) : 4 * m - 2 ≤ lowEnd m q ∧ lowEnd m q < 4 * m := by
  unfold lowEnd
  split <;> omega

variable {x : ℚ} {m : ℕ} {q : ℤ}

/-- The interval around a double, in quarters of its last digit. -/
theorem RoundsTo.quarters (rounds : RoundsTo x m q) : (lowEnd m q : ℚ) ≤ x / 2 ^ (q - 2) ∧ x / 2 ^ (q - 2) ≤ 4 * m + 2 ∧
    (m % 2 = 1 → (lowEnd m q : ℚ) < x / 2 ^ (q - 2) ∧ x / 2 ^ (q - 2) < 4 * m + 2) := by
  have unit : (0 : ℚ) < 2 ^ (q - 2) := by positivity
  have cast : ((4 * m + 2 : ℕ) : ℚ) = 4 * m + 2 := by push_cast; ring
  obtain ⟨low, high, inside⟩ := rounds
  rw [cast] at high inside
  refine ⟨(le_div_iff₀ unit).mpr low, (div_le_iff₀ unit).mpr high, ?_⟩
  intro odd
  obtain ⟨below, above⟩ := inside odd
  exact ⟨(lt_div_iff₀ unit).mpr below, (div_lt_iff₀ unit).mpr above⟩

theorem div_zpow_split (x : ℚ) (a b : ℤ) : x / 2 ^ a = x / 2 ^ b / 2 ^ (a - b) := by rw [zpow_split a b, div_div]

theorem RoundsTo.nearest (rounds : RoundsTo x m q) (positive : 0 < m) : IsNearest (x / 2 ^ q) m := by
  have least : (4 * m : ℚ) ≤ lowEnd m q + 2 := by
    have := (lowEnd_le positive q).1
    exact_mod_cast (by omega : 4 * m ≤ lowEnd m q + 2)
  have scaled : x / 2 ^ q = x / 2 ^ (q - 2) / 4 := by
    rw [div_zpow_split x q (q - 2)]
    norm_num
  obtain ⟨low, high, inside⟩ := rounds.quarters
  rw [scaled]
  refine ⟨by linarith, by linarith, ?_⟩
  intro odd
  obtain ⟨below, above⟩ := inside odd
  constructor <;> linarith

theorem lt_zpow_iff (k : ℕ) : x < 2 ^ (q + k) ↔ x / 2 ^ (q - 2) < 2 ^ (k + 2) := by
  have sum : q + k = ((k + 2 : ℕ) : ℤ) + (q - 2) := by omega
  rw [div_lt_iff₀ (by positivity), sum, zpow_add₀ (by norm_num), zpow_natCast]

/-- Below a power of two a number rounds to it from the finer digits there. -/
theorem RoundsTo.nearest_below (rounds : RoundsTo x (2 ^ 52) q) (normal : -1074 < q) (below : x < 2 ^ (q + 52)) :
    IsNearest (x / 2 ^ (q - 1)) (2 ^ 53) := by
  have finer : x / 2 ^ (q - 1) = x / 2 ^ (q - 2) / 2 := by
    rw [div_zpow_split x (q - 1) (q - 2)]
    norm_num
  have least : lowEnd (2 ^ 52) q = 4 * 2 ^ 52 - 1 := by simp [lowEnd, normal]
  have top := (lt_zpow_iff 52).mp below
  obtain ⟨low, _, _⟩ := rounds.quarters
  rw [least] at low
  norm_num at low top
  rw [finer]
  refine ⟨?_, ?_, ?_⟩
  · norm_num
    linarith
  · norm_num
    linarith
  · norm_num

theorem RoundsTo.lt_top (rounds : RoundsTo x m q) (fits : m < 2 ^ 53) : x < 2 ^ (q + 53) := by
  obtain ⟨_, high, _⟩ := rounds.quarters
  have inside : (m : ℚ) + 1 ≤ 2 ^ 53 := by exact_mod_cast fits
  refine (lt_zpow_iff 53).mpr ?_
  norm_num at inside ⊢
  linarith

/-- Only what rounds to a power of two can be smaller than it. -/
theorem RoundsTo.least (rounds : RoundsTo x m q) (full : 2 ^ 52 ≤ m) :
    ¬ x < 2 ^ (q + 51) ∧ (x < 2 ^ (q + 52) → m = 2 ^ 52) := by
  obtain ⟨low, _, _⟩ := rounds.quarters
  constructor
  · intro below
    have below := (lt_zpow_iff 51).mp below
    have least : 2 ^ 53 ≤ lowEnd m q := by
      unfold lowEnd
      split <;> omega
    have least : (2 : ℚ) ^ 53 ≤ lowEnd m q := by exact_mod_cast least
    linarith
  · intro below
    have below := (lt_zpow_iff 52).mp below
    have small : (lowEnd m q : ℚ) < 2 ^ 54 := lt_of_le_of_lt low below
    have small : lowEnd m q < 2 ^ 54 := by exact_mod_cast small
    unfold lowEnd at small
    split at small
    · rename_i power
      simpa using (Bool.and_eq_true_iff.mp power).1
    · omega

/-- A number rounds to a double at the exponent that its size asks for, or at the one below a power of two. -/
theorem RoundsTo.exponent (rounds : RoundsTo x m q) (canonical : IsCanonical m q) {size : ℤ}
    (below : x < 2 ^ size) (above : size ≤ -1021 ∨ (2 : ℚ) ^ (size - 1) ≤ x) : max (size - 53) (-1074) = q ∨
      max (size - 53) (-1074) = q - 1 ∧ m = 2 ^ 52 ∧ -1074 < q ∧ x < 2 ^ (q + 52) := by
  obtain ⟨fits, least, full⟩ := canonical
  have notAbove : size ≤ q + 53 := by
    rcases above with small | above
    · omega
    · have order := (zpow_lt_zpow_iff_right₀ (by norm_num : (1 : ℚ) < 2)).mp (lt_of_le_of_lt above (rounds.lt_top fits))
      omega
  rcases full with rfl | full
  · left
    omega
  · by_cases subnormal : q = -1074
    · left
      omega
    · obtain ⟨notBelow, power⟩ := rounds.least full
      have large : q + 51 < size := by
        by_contra small
        exact notBelow (lt_of_lt_of_le below (zpow_le_zpow_right₀ (by norm_num) (by omega)))
      by_cases top : size = q + 53
      · left
        omega
      · have size_eq : size = q + 52 := by omega
        rw [size_eq] at below
        exact .inr ⟨by omega, power below, by omega, below⟩

/-! ### Rounding -/

theorem ofMantissaAndAccuracy_mantissa (n : ℕ) (accuracy : Accuracy) :
    (ExtendedMantissa.ofMantissaAndAccuracy n accuracy).mantissa = n := by
  unfold ExtendedMantissa.ofMantissaAndAccuracy
  split <;> rfl

/-- The size of a number, that is the place of its first binary digit, from the integer part that is kept of it. -/
theorem Keeps.size {n : ℕ} {accuracy : Accuracy} {t : ℚ} (keeps : Keeps (.ofMantissaAndAccuracy n accuracy) t) (e : ℤ) :
    t * 2 ^ e < 2 ^ totalExponent n e ∧ (n = 0 ∨ (2 : ℚ) ^ (totalExponent n e - 1) ≤ t * 2 ^ e) := by
  obtain ⟨least, most⟩ := keeps.bounds
  rw [ofMantissaAndAccuracy_mantissa] at least most
  have unit : (0 : ℚ) < 2 ^ e := by positivity
  have two : (2 : ℚ) ≠ 0 := by norm_num
  constructor
  · have digits : ((n + 1 : ℕ) : ℚ) ≤ 2 ^ (n.log2 + 1) := by exact_mod_cast Nat.lt_log2_self
    have sum : (2 : ℚ) ^ totalExponent n e = 2 ^ (n.log2 + 1) * 2 ^ e := by
      rw [totalExponent, zpow_add₀ two]
      norm_cast
    rw [sum]
    exact mul_lt_mul_of_pos_right (lt_of_lt_of_le most digits) unit
  · by_cases zero : n = 0
    · exact .inl zero
    · right
      have digits : (2 : ℚ) ^ n.log2 ≤ n := by exact_mod_cast Nat.log2_self_le zero
      have sum : (2 : ℚ) ^ (totalExponent n e - 1) = 2 ^ n.log2 * 2 ^ e := by
        have split : totalExponent n e - 1 = (n.log2 : ℤ) + e := by
          unfold totalExponent
          omega
        rw [split, zpow_add₀ two, zpow_natCast]
      rw [sum]
      exact mul_le_mul_of_nonneg_right (digits.trans least) unit.le

theorem shift_fitting {n : ℕ} {e : ℤ} (fits : n < 2 ^ 53) (least : -1074 ≤ e) :
    shiftToTargetExponent .binary64 n e .exact = (⟨n, false, false⟩, e) := by
  have digits : n.log2 ≤ 52 := by
    by_cases zero : n = 0
    · simp [zero]
    · have := (Nat.log2_lt zero).mpr fits
      omega
  have still : (Format.binary64.targetExponent (totalExponent n e) - e).toNat = 0 := by
    rw [targetExponent_eq, totalExponent]
    omega
  rw [shiftToTargetExponent, shiftToExponent, still]
  simp [ExtendedMantissa.ofMantissaAndAccuracy, HShiftRight.hShiftRight, Nat.repeat]

theorem shift_power {e : ℤ} (least : -1074 ≤ e) :
    shiftToTargetExponent .binary64 (2 ^ 53) e .exact = (⟨2 ^ 52, false, false⟩, e + 1) := by
  have one : (Format.binary64.targetExponent (totalExponent (2 ^ 53) e) - e).toNat = 1 := by
    rw [targetExponent_eq, totalExponent, Nat.log2_two_pow]
    omega
  rw [shiftToTargetExponent, shiftToExponent, one]
  rfl

/-- Rounding what is kept of a number finds the double in whose interval the number lies, if no digits are missing at
    the end: the exponent is at most the one of the double. -/
theorem roundWithAccuracy_eq {n : ℕ} {e : ℤ} {accuracy : Accuracy} {t : ℚ}
    (keeps : Keeps (.ofMantissaAndAccuracy n accuracy) t)
    (fine : e ≤ Format.binary64.targetExponent (totalExponent n e))
    (canonical : IsCanonical m q) (positive : 0 < m) (rounds : RoundsTo (t * 2 ^ e) m q) (sign : Sign) :
    roundWithAccuracy .binary64 sign n e accuracy = .finite sign m q positive := by
  obtain ⟨below, above⟩ := keeps.size e
  have shifted := keeps.shiftRight (Format.binary64.targetExponent (totalExponent n e) - e).toNat
  rw [targetExponent_eq] at fine shifted
  have small : totalExponent n e ≤ -1021 ∨ (2 : ℚ) ^ (totalExponent n e - 1) ≤ t * 2 ^ e := by
    rcases above with zero | above
    · left
      simp only [zero, totalExponent, Nat.log2_zero, Nat.cast_zero] at fine ⊢
      omega
    · exact .inr above
  have reached : e + ((max (totalExponent n e - 53) (-1074) - e).toNat : ℤ) = max (totalExponent n e - 53) (-1074) := by
    omega
  have scaled : t / 2 ^ (max (totalExponent n e - 53) (-1074) - e).toNat =
      t * 2 ^ e / 2 ^ max (totalExponent n e - 53) (-1074) := by
    conv => rhs; rw [← reached, zpow_add₀ (by norm_num), zpow_natCast]
    rw [mul_comm (2 ^ e), mul_div_mul_right _ _ (by positivity)]
  have first : shiftToTargetExponent .binary64 n e accuracy = (ExtendedMantissa.ofMantissaAndAccuracy n accuracy >>>
      (max (totalExponent n e - 53) (-1074) - e).toNat, max (totalExponent n e - 53) (-1074)) := by
    rw [shiftToTargetExponent, shiftToExponent, targetExponent_eq, reached]
  rw [scaled] at shifted
  rw [roundWithAccuracy, first]
  rcases rounds.exponent canonical below small with same | ⟨lower, rfl, normal, top⟩
  · rw [same] at shifted ⊢
    have rounded := shifted.roundedMantissa (rounds.nearest positive)
    simp only [rounded, shift_fitting canonical.fits canonical.least, Nat.ne_of_gt positive, dite_false]
  · rw [lower] at shifted ⊢
    have rounded := shifted.roundedMantissa (rounds.nearest_below normal top)
    have back : q - 1 + 1 = q := by omega
    simp only [rounded, shift_power (e := q - 1) (by omega), back, Nat.ne_of_gt positive, dite_false]

/-- A double lies in its own interval. -/
theorem RoundsTo.self (positive : 0 < m) : RoundsTo (m * 2 ^ q) m q := by
  have unit : (0 : ℚ) < 2 ^ (q - 2) := by positivity
  have quarters : (m * 2 ^ q : ℚ) = (4 * m : ℕ) * 2 ^ (q - 2) := by
    rw [zpow_split q 2]
    push_cast
    ring
  have below : (lowEnd m q : ℚ) < (4 * m : ℕ) := by exact_mod_cast (lowEnd_le positive q).2
  have above : ((4 * m : ℕ) : ℚ) < (4 * m + 2 : ℕ) := by exact_mod_cast (by omega : 4 * m < 4 * m + 2)
  have low := mul_lt_mul_of_pos_right below unit
  have high := mul_lt_mul_of_pos_right above unit
  rw [← quarters] at low high
  exact ⟨low.le, high.le, fun _ => ⟨low, high⟩⟩

theorem fine_of_digits {n : ℕ} {e : ℤ} (digits : 2 ^ 52 ≤ n) :
    e ≤ Format.binary64.targetExponent (totalExponent n e) := by
  have some := (Nat.le_log2 (k := 52) (by omega : n ≠ 0)).mpr digits
  rw [targetExponent_eq, totalExponent]
  omega

/-- A natural number with no more digits than fit is a double. -/
theorem normalize_eq {n : ℕ} (positive : 0 < n) (fits : n < 2 ^ 53) : ∃ m q some,
    normalize .binary64 n 0 .positive = .finite .positive m q some ∧
    IsCanonical m q ∧ q ≤ 0 ∧ 2 ^ 52 ≤ m ∧ (m * 2 ^ q : ℚ) = n := by
  have digits := Nat.log2_self_le (Nat.ne_of_gt positive)
  have next := Nat.lt_log2_self (n := n)
  have most := (Nat.log2_lt (Nat.ne_of_gt positive)).mpr fits
  obtain ⟨k, missing⟩ : ∃ k, n.log2 + k = 52 := ⟨52 - n.log2, by omega⟩
  have target : Format.binary64.targetExponent (totalExponent n 0) = -(k : ℤ) := by
    rw [targetExponent_eq, totalExponent]
    omega
  have shift : (- -(k : ℤ)).toNat = k := by omega
  have some : 0 < n <<< k := by
    rw [Nat.shiftLeft_eq]
    positivity
  have full : 2 ^ 52 ≤ n <<< k := by
    rw [Nat.shiftLeft_eq, ← missing, pow_add]
    exact Nat.mul_le_mul_right _ digits
  have fitting : n <<< k < 2 ^ 53 := by
    have power : 2 ^ 53 = 2 ^ (n.log2 + 1) * 2 ^ k := by
      rw [← pow_add]
      congr 1
      omega
    rw [Nat.shiftLeft_eq, power]
    exact Nat.mul_lt_mul_of_pos_right next (by positivity)
  have canonical : IsCanonical (n <<< k) (-k) := ⟨fitting, by omega, .inr full⟩
  have sign : compare (n : ℤ) 0 = .gt := Int.compare_eq_gt.mpr (by omega)
  refine ⟨n <<< k, -k, some, ?_, canonical, by omega, full, ?_⟩
  · rw [UnpackedFloat.normalize, sign]
    simp only [UnpackedFloat.round, Int.toNat_natCast, target, decreaseExponent, shift, zero_sub]
    exact roundWithAccuracy_eq (keeps_exact _) (fine_of_digits full) canonical some (.self some) _
  · rw [Nat.shiftLeft_eq, zpow_neg, zpow_natCast]
    push_cast
    rw [mul_assoc, mul_inv_cancel₀ (by positivity), mul_one]

/-! ### Products and quotients -/

theorem mul_eq {m₁ m₂ : ℕ} {e₁ e₂ : ℤ} (some₁ : 0 < m₁) (some₂ : 0 < m₂) (digits : 2 ^ 52 ≤ m₁ * m₂)
    (canonical : IsCanonical m q) (positive : 0 < m) (rounds : RoundsTo (m₁ * 2 ^ e₁ * (m₂ * 2 ^ e₂)) m q)
    (s₁ s₂ : Sign) : UnpackedFloat.mul .binary64 (.finite s₁ m₁ e₁ some₁) (.finite s₂ m₂ e₂ some₂) =
      .finite (s₁ * s₂) m q positive := by
  have product : (m₁ * 2 ^ e₁ * (m₂ * 2 ^ e₂) : ℚ) = (m₁ * m₂ : ℕ) * 2 ^ (e₁ + e₂) := by
    rw [zpow_add₀ (by norm_num)]
    push_cast
    ring
  rw [product] at rounds
  exact roundWithAccuracy_eq (keeps_exact _) (fine_of_digits digits) canonical positive rounds _

theorem keeps_quotient (n : ℕ) {d : ℕ} (some : 0 < d) :
    Keeps (.ofMantissaAndAccuracy (n / d) (accuracyOfFraction (n % d) d)) (n / d : ℚ) := by
  have divisor : (0 : ℚ) < d := by exact_mod_cast some
  have division : (n : ℚ) = d * (n / d : ℕ) + (n % d : ℕ) := by exact_mod_cast (Nat.div_add_mod n d).symm
  have quotient : (n / d : ℚ) = (n / d : ℕ) + (n % d : ℕ) / d := by
    conv => lhs; rw [division]
    rw [add_div, mul_div_cancel_left₀ _ divisor.ne']
  have below : ((n % d : ℕ) / d : ℚ) < 1 := by
    rw [div_lt_iff₀ divisor, one_mul]
    exact_mod_cast Nat.mod_lt n some
  rw [quotient]
  unfold accuracyOfFraction
  split
  · rename_i exact
    simpa [exact] using keeps_exact (n / d)
  · rename_i inexact
    have left : (0 : ℚ) < (n % d : ℕ) / d := div_pos (by exact_mod_cast Nat.pos_of_ne_zero inexact) divisor
    cases order : compare (2 * (n % d)) d with
    | lt =>
      have half : (2 * (n % d : ℕ) : ℚ) < d := by exact_mod_cast Nat.compare_eq_lt.mp order
      have small : ((n % d : ℕ) / d : ℚ) < 1 / 2 := by
        rw [div_lt_iff₀ divisor]
        linarith
      exact ⟨(n % d : ℕ) / d, by simp [ExtendedMantissa.ofMantissaAndAccuracy], left.le, small,
        by simp [ExtendedMantissa.ofMantissaAndAccuracy, left]⟩
    | eq =>
      have half : (2 * (n % d : ℕ) : ℚ) = d := by exact_mod_cast Nat.compare_eq_eq.mp order
      have middle : ((n % d : ℕ) / d : ℚ) = 1 / 2 := by
        rw [div_eq_iff divisor.ne']
        linarith
      exact ⟨0, by simp [ExtendedMantissa.ofMantissaAndAccuracy, middle], le_refl _, by norm_num,
        by simp [ExtendedMantissa.ofMantissaAndAccuracy]⟩
    | gt =>
      have half : (d : ℚ) < 2 * (n % d : ℕ) := by exact_mod_cast Nat.compare_eq_gt.mp order
      have large : (1 / 2 : ℚ) < (n % d : ℕ) / d := by
        rw [lt_div_iff₀ divisor]
        linarith
      refine ⟨(n % d : ℕ) / d - 1 / 2, ?_, by linarith, by linarith, ?_⟩
      · simp only [ExtendedMantissa.ofMantissaAndAccuracy, if_true]
        ring
      · simp only [ExtendedMantissa.ofMantissaAndAccuracy, true_iff]
        linarith

/-- The digits of a quotient reach as far as the double needs. -/
theorem fine_quotient {m₁ m₂ k : ℕ} {e₁ e₂ e : ℤ} (some₁ : 0 < m₁) (some₂ : 0 < m₂)
    (below : (m₁ * 2 ^ e₁ / (m₂ * 2 ^ e₂) : ℚ) < 2 ^ totalExponent k e)
    (least : e ≤ Format.binary64.targetExponent (totalExponent m₁ e₁ - totalExponent m₂ e₂)) :
    e ≤ Format.binary64.targetExponent (totalExponent k e) := by
  obtain ⟨_, dividend⟩ := (keeps_exact m₁).size e₁
  obtain ⟨divisor, _⟩ := (keeps_exact m₂).size e₂
  have dividend := dividend.resolve_left (Nat.ne_of_gt some₁)
  have positive : (0 : ℚ) < m₂ * 2 ^ e₂ := mul_pos (by exact_mod_cast some₂) (by positivity)
  have above : (2 : ℚ) ^ (totalExponent m₁ e₁ - 1 - totalExponent m₂ e₂) < 2 ^ totalExponent k e := by
    refine lt_of_le_of_lt ?_ below
    rw [zpow_sub₀ (by norm_num)]
    exact div_le_div₀ (le_trans (by positivity) dividend) dividend positive divisor.le
  have order := (zpow_lt_zpow_iff_right₀ (by norm_num : (1 : ℚ) < 2)).mp above
  rw [targetExponent_eq] at least ⊢
  omega

theorem div_eq {m₁ m₂ : ℕ} {e₁ e₂ : ℤ} (some₁ : 0 < m₁) (some₂ : 0 < m₂) (canonical : IsCanonical m q)
    (positive : 0 < m) (rounds : RoundsTo (m₁ * 2 ^ e₁ / (m₂ * 2 ^ e₂)) m q) (s₁ s₂ : Sign) :
    UnpackedFloat.div .binary64 (.finite s₁ m₁ e₁ some₁) (.finite s₂ m₂ e₂ some₂) = .finite (s₁ / s₂) m q positive := by
  rw [UnpackedFloat.div, divCore]
  generalize least : min (e₁ - e₂) (Format.binary64.targetExponent (totalExponent m₁ e₁ - totalExponent m₂ e₂)) = e
  generalize shift : (e₁ - e₂ - e).toNat = k
  have keeps := keeps_quotient (m₁ <<< k) some₂
  have moved : (e₁ : ℤ) = k + e + e₂ := by omega
  have value : (m₁ <<< k : ℕ) / (m₂ : ℚ) * 2 ^ e = m₁ * 2 ^ e₁ / (m₂ * 2 ^ e₂) := by
    have two : (2 : ℚ) ≠ 0 := by norm_num
    have divisor : (m₂ : ℚ) ≠ 0 := by exact_mod_cast Nat.ne_of_gt some₂
    rw [Nat.shiftLeft_eq, moved, zpow_add₀ two, zpow_add₀ two, zpow_natCast, ← mul_assoc, ← mul_assoc,
      mul_div_mul_right _ _ (by positivity)]
    push_cast
    ring
  rw [← value] at rounds
  have below := (keeps.size e).1
  rw [value] at below
  have fine := fine_quotient some₁ some₂ below (by omega)
  exact roundWithAccuracy_eq keeps fine canonical positive rounds _

end BrowserFlow.Binary
