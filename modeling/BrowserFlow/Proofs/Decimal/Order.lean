import BrowserFlow.Proofs.Decimal.Shortest

/-!
Finite doubles and integers compare as the numbers that they stand for.
-/

namespace BrowserFlow.Binary

open Float.Model Float.Model.UnpackedFloat

/-- The number that a double stands for, if it is finite. -/
def value? : Binary → Option ℚ
  | finite negative m q => some (signed negative m * 2 ^ q)
  | _ => none

theorem cast_signed (negative : Bool) (m : ℕ) (q : ℤ) :
    (signed negative m * 2 ^ q : ℚ) = if negative then -(m * 2 ^ q : ℚ) else m * 2 ^ q := by
  cases negative <;> simp [signed]

/-- Of two doubles the one with the greater exponent is the greater one: its significand is full. -/
theorem lt_of_exponent {m₁ m₂ : ℕ} {q₁ q₂ : ℤ} (first : IsCanonical m₁ q₁) (second : IsCanonical m₂ q₂)
    (less : q₁ < q₂) : (m₁ * 2 ^ q₁ : ℚ) < m₂ * 2 ^ q₂ := by
  have least := first.least
  have full : 2 ^ 52 ≤ m₂ := second.full.resolve_left (by omega)
  calc (m₁ * 2 ^ q₁ : ℚ)
      < 2 ^ 53 * 2 ^ q₁ := mul_lt_mul_of_pos_right (by exact_mod_cast first.fits) (by positivity)
    _ = 2 ^ 52 * 2 ^ (q₁ + 1) := by
      rw [zpow_add_one₀ (by norm_num)]
      ring
    _ ≤ 2 ^ 52 * 2 ^ q₂ := mul_le_mul_of_nonneg_left (zpow_le_zpow_right₀ (by norm_num) (by omega)) (by positivity)
    _ ≤ m₂ * 2 ^ q₂ := mul_le_mul_of_nonneg_right (by exact_mod_cast full) (by positivity)

theorem compare_parts {m₁ m₂ : ℕ} {q₁ q₂ : ℤ} (first : IsCanonical m₁ q₁) (second : IsCanonical m₂ q₂) :
    (compare q₁ q₂).then (compare m₁ m₂) = compare (m₁ * 2 ^ q₁ : ℚ) (m₂ * 2 ^ q₂) := by
  rcases lt_trichotomy q₁ q₂ with less | same | more
  · rw [compare_lt_iff_lt.mpr less, compare_lt_iff_lt.mpr (lt_of_exponent first second less)]
    rfl
  · subst same
    have unit : (0 : ℚ) < 2 ^ q₁ := by positivity
    rw [(compare_eq_iff_eq (a := q₁) (b := q₁)).mpr rfl]
    apply Decimal.compare_scaled (inv_pos.mpr unit)
    · rw [mul_inv_cancel_right₀ unit.ne']
    · rw [mul_inv_cancel_right₀ unit.ne']
  · rw [compare_gt_iff_gt.mpr more, compare_gt_iff_gt.mpr (lt_of_exponent second first more)]
    rfl

theorem swap_compare_neg (x y : ℚ) : (compare x y).swap = compare (-x) (-y) := by
  rcases lt_trichotomy x y with less | same | more
  · rw [compare_lt_iff_lt.mpr less, compare_gt_iff_gt.mpr (neg_lt_neg less)]
    rfl
  · rw [compare_eq_iff_eq.mpr same, compare_eq_iff_eq.mpr (congrArg _ same)]
    rfl
  · rw [compare_gt_iff_gt.mpr more, compare_lt_iff_lt.mpr (neg_lt_neg more)]
    rfl

theorem value_zero {s : Sign} {a : ℚ} (value : (ofUnpacked (.zero s)).value? = some a) : a = 0 := by
  cases value
  simp [signed]

theorem signed_pos {m : ℕ} (positive : 0 < m) (q : ℤ) : (0 : ℚ) < signed (isNegative .positive) m * 2 ^ q := by
  have size : (0 : ℚ) < m * 2 ^ q := by positivity
  simpa [isNegative, signed] using size

theorem signed_neg {m : ℕ} (positive : 0 < m) (q : ℤ) : (signed (isNegative .negative) m * 2 ^ q : ℚ) < 0 := by
  have size : (0 : ℚ) < m * 2 ^ q := by positivity
  simpa [isNegative, signed] using size

/-- Unpacked doubles that are finite compare as their numbers. -/
theorem compare_unpacked {u v : UnpackedFloat} {a b : ℚ}
    (first : ∀ s m q positive, u = .finite s m q positive → IsCanonical m q)
    (second : ∀ s m q positive, v = .finite s m q positive → IsCanonical m q)
    (hu : (ofUnpacked u).value? = some a) (hv : (ofUnpacked v).value? = some b) : u.compare v = some (compare a b) := by
  cases u with
  | infinity s => cases hu
  | notANumber => cases hu
  | zero s =>
    rw [value_zero hu]
    cases v with
    | infinity t => cases hv
    | notANumber => cases hv
    | zero t =>
      rw [value_zero hv, compare_eq_iff_eq.mpr rfl]
      rfl
    | finite t m q positive =>
      cases hv
      cases t with
      | positive => exact congrArg Option.some (compare_lt_iff_lt.mpr (signed_pos positive q)).symm
      | negative => exact congrArg Option.some (compare_gt_iff_gt.mpr (signed_neg positive q)).symm
  | finite s m q positive =>
    cases hu
    cases v with
    | infinity t => cases hv
    | notANumber => cases hv
    | zero t =>
      rw [value_zero hv]
      cases s with
      | positive => exact congrArg Option.some (compare_gt_iff_gt.mpr (signed_pos positive q)).symm
      | negative => exact congrArg Option.some (compare_lt_iff_lt.mpr (signed_neg positive q)).symm
    | finite t n e positive' =>
      cases hv
      have parts := compare_parts (first s m q positive rfl) (second t n e positive' rfl)
      cases s with
      | positive =>
        cases t with
        | positive =>
          rw [cast_signed, cast_signed]
          exact congrArg Option.some parts
        | negative =>
          have order := (signed_neg positive' e).trans (signed_pos positive q)
          exact congrArg Option.some (compare_gt_iff_gt.mpr order).symm
      | negative =>
        cases t with
        | positive =>
          have order := (signed_neg positive q).trans (signed_pos positive' e)
          exact congrArg Option.some (compare_lt_iff_lt.mpr order).symm
        | negative =>
          rw [cast_signed, cast_signed]
          change some ((compare q e).then (compare m n)).swap = some (compare (-(m * 2 ^ q : ℚ)) (-(n * 2 ^ e)))
          rw [parts, swap_compare_neg]

theorem compare_floats {x y : Float} {a b : ℚ} (hx : (ofFloat x).value? = some a) (hy : (ofFloat y).value? = some b) :
    x.toModel.unpack.compare y.toModel.unpack = some (compare a b) := by
  rw [ofFloat_eq] at hx hy
  exact compare_unpacked (fun s m q positive same => (unpack_canonical same).1)
    (fun s m q positive same => (unpack_canonical same).1) hx hy

theorem lt_iff {x y : Float} {a b : ℚ} (hx : (ofFloat x).value? = some a) (hy : (ofFloat y).value? = some b) :
    x < y ↔ a < b := by
  have model : x < y ↔ x.toModel.unpack.compare y.toModel.unpack = some .lt := by
    change (decide (x.toModel < y.toModel)) = true ↔ _
    rw [decide_eq_true_eq]
    change (x.toModel.unpack.compare y.toModel.unpack == some .lt) = true ↔ _
    rw [beq_iff_eq]
  rw [model, compare_floats hx hy, Option.some.injEq, compare_lt_iff_lt]

theorem beq_iff {x y : Float} {a b : ℚ} (hx : (ofFloat x).value? = some a) (hy : (ofFloat y).value? = some b) :
    (x == y) = true ↔ a = b := by
  change (x.toModel.unpack.compare y.toModel.unpack == some .eq) = true ↔ _
  rw [beq_iff_eq, compare_floats hx hy, Option.some.injEq, compare_eq_iff_eq]

theorem value?_zero : (ofFloat 0.0).value? = some 0 := by
  have parts : ofFloat 0.0 = .finite false 0 (-1074) := by decide +kernel
  rw [parts]
  simp [value?, signed]

theorem gtInt_iff {x : Binary} {a : ℚ} (hx : x.value? = some a) (n : ℤ) : x.gtInt n = true ↔ (n : ℚ) < a := by
  cases x with
  | infinite negative => cases hx
  | undefined => cases hx
  | finite negative m q =>
    cases hx
    have scale : (0 : ℚ) < 2 ^ (-q).toNat := by positivity
    have scaled : (signed negative m * 2 ^ q * 2 ^ (-q).toNat : ℚ) = (signed negative (m * twoTo q.toNat) : ℤ) := by
      rw [mul_assoc, ← Decimal.pow_toNat (by norm_num), ← Decimal.cast_twoTo]
      cases negative <;> simp [signed]
    have units : (n * 2 ^ (-q).toNat : ℚ) = (n * (twoTo (-q).toNat : ℕ) : ℤ) := by
      rw [Int.cast_mul, Int.cast_natCast, Decimal.cast_twoTo]
    rw [gtInt, decide_eq_true_eq, ← mul_lt_mul_iff_left₀ scale, scaled, units, Int.cast_lt]

/-- The integer part, dropped towards zero. -/
def cut (a : ℚ) : ℤ := if 0 ≤ a then ⌊a⌋ else ⌈a⌉

theorem cut_neg (a : ℚ) : cut (-a) = -cut a := by
  unfold cut
  rcases lt_trichotomy a 0 with negative | rfl | positive
  · rw [if_pos (by linarith), if_neg (by linarith), Int.floor_neg]
  · simp
  · rw [if_neg (by linarith), if_pos positive.le, Int.ceil_neg]

theorem cut_signed (negative : Bool) (m : ℕ) (q : ℤ) :
    cut (signed negative m * 2 ^ q) = signed negative (m * twoTo q.toNat / twoTo (-q).toNat) := by
  have scale : (2 : ℚ) ^ (-q).toNat ≠ 0 := by positivity
  have fraction : (m * 2 ^ q : ℚ) = (m * twoTo q.toNat : ℕ) / (twoTo (-q).toNat : ℕ) := by
    rw [Nat.cast_mul, Decimal.cast_twoTo, Decimal.cast_twoTo, Decimal.pow_toNat (by norm_num), ← mul_assoc,
      mul_div_cancel_right₀ _ scale]
  have whole : cut (m * 2 ^ q) = (m * twoTo q.toNat / twoTo (-q).toNat : ℕ) := by
    rw [cut, if_pos (by positivity), fraction, Rat.floor_natCast_div_natCast, Int.natCast_div]
  rw [cast_signed]
  cases negative with
  | false => exact whole
  | true => exact (cut_neg _).trans (congrArg _ whole)

end BrowserFlow.Binary
