import BrowserFlow.Decimal.Numeral
import BrowserFlow.Proofs.Decimal.Rounding

/-!
Doubles by their parts. A finite double is what its sign, significand and exponent are packed to, so an operation
gives it as soon as the exact result lies in its interval.
-/

namespace BrowserFlow.Binary

open Float.Model Float.Model.UnpackedFloat

/-! ### The parts of a double -/

def isNegative : Sign → Bool
  | .negative => true
  | .positive => false

/-- What an unpacked double stands for. -/
def ofUnpacked : UnpackedFloat → Binary
  | .infinity s => .infinite (isNegative s)
  | .notANumber => .undefined
  | .zero s => .finite (isNegative s) 0 (-1074)
  | .finite s m q _ => .finite (isNegative s) m q

theorem toNat_unpackMantissa (b : BitVec 64) : (@unpackMantissa .binary64 b).toNat = b.toNat % 2 ^ 52 := by
  simp [unpackMantissa]

theorem toNat_unpackExponent (b : BitVec 64) :
    (@unpackExponent .binary64 b).toNat = b.toNat / 2 ^ 52 % 2 ^ 11 := by
  simp [unpackExponent, Nat.shiftRight_eq_div_pow]

theorem toNat_unpackSign (b : BitVec 64) : (@unpackSign .binary64 b).toNat = b.toNat / 2 ^ 63 % 2 := by
  simp [unpackSign, Nat.shiftRight_eq_div_pow]

theorem isNegative_ofBitVec (b : BitVec 1) : isNegative (Sign.ofBitVec b) = (b.toNat == 1) := by
  have bound := b.isLt
  unfold Sign.ofBitVec
  by_cases zero : b = 0#1
  · subst zero
    rfl
  · have one : b.toNat = 1 := by
      have : b.toNat ≠ 0 := fun same => zero (BitVec.eq_of_toNat_eq same)
      omega
    rw [if_neg zero, one]
    rfl

theorem isNegative_unpackSign (bits : UInt64) :
    isNegative (.ofBitVec (@unpackSign .binary64 bits.toBitVec)) = (bits >>> 63 == 1) := by
  rw [isNegative_ofBitVec, toNat_unpackSign, Bool.eq_iff_iff, beq_iff_eq, beq_iff_eq, ← UInt64.toNat_inj,
    UInt64.toNat_shiftRight, UInt64.toNat_toBitVec]
  have bound := bits.toNat_lt
  have last : bits.toNat >>> 63 = bits.toNat / 2 ^ 63 := Nat.shiftRight_eq_div_pow _ _
  simp only [UInt64.toNat_ofNat, last]
  omega

theorem toNat_exponentBits (bits : UInt64) :
    ((bits >>> 52) &&& 0x7FF).toNat = (@unpackExponent .binary64 bits.toBitVec).toNat := by
  rw [toNat_unpackExponent, UInt64.toNat_and, UInt64.toNat_shiftRight]
  simp only [Nat.shiftRight_eq_div_pow]
  exact Nat.and_two_pow_sub_one_eq_mod (bits.toNat / 2 ^ 52) 11

theorem toNat_mantissaBits (bits : UInt64) :
    (bits &&& 0xFFFFFFFFFFFFF).toNat = (@unpackMantissa .binary64 bits.toBitVec).toNat := by
  rw [toNat_unpackMantissa, UInt64.toNat_and]
  exact Nat.and_two_pow_sub_one_eq_mod bits.toNat 52

theorem toNat_implicit (f : BitVec 52) : (1#1 ++ f).toNat = 2 ^ 52 + f.toNat := by
  rw [BitVec.toNat_append, ← Nat.shiftLeft_add_eq_or_of_lt f.isLt]
  simp [Nat.shiftLeft_eq]

theorem ofFloat_eq (x : Float) : ofFloat x = ofUnpacked x.toModel.unpack := by
  have infinite (e : BitVec 11) : (e.toNat == 0x7FF) = decide (e = -1#11) := by
    rw [Bool.eq_iff_iff, beq_iff_eq, decide_eq_true_eq, ← BitVec.toNat_inj]
    rfl
  have zero {w : ℕ} (e : BitVec w) : (e.toNat == 0) = decide (e = 0#w) := by
    rw [Bool.eq_iff_iff, beq_iff_eq, decide_eq_true_eq, ← BitVec.toNat_inj]
    rfl
  unfold ofFloat Float.Model.unpack UnpackedFloat.unpack
  dsimp only [Float.toBits]
  rw [← isNegative_unpackSign, toNat_exponentBits, toNat_mantissaBits, infinite, zero, zero]
  simp only [decide_eq_true_eq]
  split
  · split <;> rfl
  · split
    · rename_i least
      rw [least]
      split
      · rename_i none
        rw [none]
        rfl
      · rfl
    · rw [ofUnpacked, toNat_implicit]
      rfl

/-! ### Packing -/

/-- The exponent and the fraction that a finite double is packed with. -/
theorem pack_finite (s : Sign) {m : ℕ} {q : ℤ} (canonical : IsCanonical m q) (positive : 0 < m) (top : q ≤ 971) :
    UnpackedFloat.pack .binary64 (.finite s m q positive) = packComponents .binary64 s
      (.ofNat 11 (if 2 ^ 52 ≤ m then (q + 1075).toNat else 0)) (.ofNat 52 m) := by
  obtain ⟨fits, least, full⟩ := canonical
  have biased : (q + Format.binary64.exponentBias + Format.binary64.mantissaBitsWithoutImplicit).toNat =
      (q + 1075).toNat := by
    have bias : (Format.binary64.exponentBias : ℤ) = 1023 := rfl
    have bits : (Format.binary64.mantissaBitsWithoutImplicit : ℤ) = 52 := rfl
    rw [bias, bits]
    omega
  have finite : ¬ 2 ^ Format.binary64.exponentBits ≤ (q + 1075).toNat + 1 := by
    have most : 2 ^ Format.binary64.exponentBits = 2048 := rfl
    omega
  rw [UnpackedFloat.pack, biased, if_neg finite]
  have digits : m.log2 + 1 = Format.binary64.mantissaBits ↔ 2 ^ 52 ≤ m := by
    have bits : Format.binary64.mantissaBits = 53 := rfl
    have most := (Nat.log2_lt (Nat.ne_of_gt positive)).mpr fits
    have some := Nat.le_log2 (k := 52) (Nat.ne_of_gt positive)
    rw [bits]
    omega
  simp only [digits]
  split <;> rfl

theorem toNat_pos {f : BitVec 52} (some : f ≠ 0#52) : 0 < f.toNat :=
  Nat.pos_of_ne_zero fun same => some (BitVec.eq_of_toNat_eq same)

theorem unpack_components (s : Sign) (e : BitVec 11) (f : BitVec 52) :
    UnpackedFloat.unpack .binary64 (packComponents .binary64 s e f) =
      if e = -1#11 then if f = 0#52 then .infinity s else .notANumber
      else if e = 0#11 then if some : f = 0#52 then .zero s else .finite s f.toNat (-1074) (toNat_pos some)
      else .finite s (2 ^ 52 + f.toNat) (e.toNat - 1075) (by omega) := by
  have bias : (Format.binary64.exponentBias : ℤ) + (Format.binary64.mantissaBitsWithoutImplicit : ℤ) = 1075 := rfl
  unfold UnpackedFloat.unpack
  simp only [unpackMantissa_packComponents, unpackExponent_packComponents, unpackSign_packComponents,
    Sign.ofBitVec_toBitVec, bias]
  split
  · rfl
  · split
    · rename_i least
      subst least
      rfl
    · simp only [toNat_implicit]

/-- A double by its three fields. -/
theorem exists_components (a : Float.Model) : ∃ (s : Sign) (e : BitVec 11) (f : BitVec 52),
    a.toBits.toBitVec = packComponents .binary64 s e f ∧
    a.unpack = UnpackedFloat.unpack .binary64 (packComponents .binary64 s e f) :=
  have components := @packComponents_unpackSign_unpackExponent_unpackMantissa .binary64 a.toBits.toBitVec
  ⟨_, _, _, components.symm, by rw [components]; rfl⟩

theorem unpack_pack (s : Sign) {m : ℕ} {q : ℤ} (canonical : IsCanonical m q) (positive : 0 < m) (top : q ≤ 971) :
    (Float.Model.pack (.finite s m q positive)).unpack = .finite s m q positive := by
  change UnpackedFloat.unpack .binary64 (UnpackedFloat.pack .binary64 (.finite s m q positive)) = _
  rw [pack_finite s canonical positive top, unpack_components]
  obtain ⟨fits, least, full⟩ := canonical
  have fraction : (BitVec.ofNat 52 m).toNat = m % 2 ^ 52 := BitVec.toNat_ofNat m 52
  by_cases normal : 2 ^ 52 ≤ m
  · have exponent : (BitVec.ofNat 11 (q + 1075).toNat).toNat = (q + 1075).toNat := by
      rw [BitVec.toNat_ofNat, Nat.mod_eq_of_lt (by omega)]
    have notLast : BitVec.ofNat 11 (q + 1075).toNat ≠ -1#11 := by
      intro same
      have last : (q + 1075).toNat = 2047 := by rw [← exponent, same]; rfl
      omega
    have notFirst : BitVec.ofNat 11 (q + 1075).toNat ≠ 0#11 := by
      intro same
      have first : (q + 1075).toNat = 0 := by rw [← exponent, same]; rfl
      omega
    have significand : 2 ^ 52 + m % 2 ^ 52 = m := by omega
    have back : ((q + 1075).toNat : ℤ) - 1075 = q := by omega
    simp only [if_pos normal, notLast, notFirst, if_false, exponent, fraction, significand, back]
  · have significand : (BitVec.ofNat 52 m).toNat = m := by
      rw [fraction]
      omega
    have some : BitVec.ofNat 52 m ≠ 0#52 := by
      intro same
      have none : m = 0 := by rw [← significand, same]; rfl
      omega
    have subnormal : q = -1074 := by omega
    subst subnormal
    have notLast : BitVec.ofNat 11 0 ≠ -1#11 := by decide
    simp only [if_neg normal, notLast, some, if_false, if_true, dite_false, significand]

theorem unpack_canonical {a : Float.Model} {s : Sign} {m : ℕ} {q : ℤ} {positive : 0 < m}
    (h : a.unpack = .finite s m q positive) : IsCanonical m q ∧ q ≤ 971 := by
  obtain ⟨s', e, f, _, unpacked⟩ := exists_components a
  have fraction := f.isLt
  have exponent := e.isLt
  rw [h, unpack_components] at unpacked
  split at unpacked
  · split at unpacked <;> cases unpacked
  · rename_i notLast
    split at unpacked
    · split at unpacked
      · cases unpacked
      · cases unpacked
        exact ⟨⟨by omega, by decide, .inl rfl⟩, by decide⟩
    · rename_i notFirst
      have least : e.toNat ≠ 0 := fun same => notFirst (BitVec.eq_of_toNat_eq same)
      have most : e.toNat ≠ 2047 := fun same => notLast (BitVec.eq_of_toNat_eq same)
      cases unpacked
      exact ⟨⟨by omega, by omega, .inr (by omega)⟩, by omega⟩

theorem pack_unpack (a : Float.Model) : Float.Model.pack a.unpack = a := by
  have packed : UnpackedFloat.pack .binary64 a.unpack = a.toBits.toBitVec := pack_unpack_of_valid a.valid
  cases a
  rw [Float.Model.pack]
  congr 1
  rw [packed]

/-! ### Reading numbers in decimal -/

/-- The double with the significand `m` and the exponent `q`. -/
def IsDouble (a : Float.Model) (m : ℕ) (q : ℤ) : Prop := ∃ positive, a.unpack = .finite .positive m q positive

theorem toFloat_double {n : ℕ} (positive : 0 < n) (fits : n < 2 ^ 53) : ∃ m q,
    IsDouble n.toUInt64.toFloat.toModel m q ∧ 2 ^ 52 ≤ m ∧ (m * 2 ^ q : ℚ) = n := by
  have word : n.toUInt64.toNat = n := by
    rw [Nat.toUInt64, UInt64.toNat_ofNat']
    exact Nat.mod_eq_of_lt (by omega)
  obtain ⟨m, q, some, normal, canonical, top, full, value⟩ := normalize_eq positive fits
  have model : n.toUInt64.toFloat.toModel = Float.Model.pack (normalize .binary64 n.toUInt64.toNat 0 .positive) := rfl
  rw [word, normal] at model
  exact ⟨m, q, ⟨some, by rw [model, unpack_pack .positive canonical some (by omega)]⟩, full, value⟩

/-- The significand and exponent of a positive double. -/
def parts? : UnpackedFloat → Option (ℕ × ℤ)
  | .finite .positive m q _ => some (m, q)
  | _ => none

theorem parts?_eq {u : UnpackedFloat} {m : ℕ} {q : ℤ} (h : parts? u = some (m, q)) :
    ∃ positive, u = .finite .positive m q positive := by
  unfold parts? at h
  split at h
  · cases h
    exact ⟨_, rfl⟩
  · cases h

theorem powers_exact : ∀ e : Fin 23, ∃ p ∈ parts? Float.exactlyRepresentablePowersOfTen[e].toModel.unpack,
    2 ^ 52 ≤ p.1 ∧ p.1 * 2 ^ p.2.toNat = 10 ^ e.val * 2 ^ (-p.2).toNat := by
  decide +kernel

theorem mul_zpow_eq {m n : ℕ} {q : ℤ} (h : m * 2 ^ q.toNat = n * 2 ^ (-q).toNat) : (m * 2 ^ q : ℚ) = n := by
  have scaled : (m * 2 ^ q.toNat : ℚ) = n * 2 ^ (-q).toNat := by exact_mod_cast h
  have exponent : q = (q.toNat : ℤ) - ((-q).toNat : ℤ) := by omega
  rw [exponent, zpow_sub₀ (by norm_num), zpow_natCast, zpow_natCast, ← mul_div_assoc, scaled,
    mul_div_cancel_right₀ _ (by positivity)]

theorem power_double {e : ℕ} (small : e < Float.exactlyRepresentablePowersOfTen.size) : ∃ m q,
    IsDouble Float.exactlyRepresentablePowersOfTen[e].toModel m q ∧ 2 ^ 52 ≤ m ∧ (m * 2 ^ q : ℚ) = (10 ^ e : ℕ) := by
  obtain ⟨⟨m, q⟩, found, full, value⟩ := powers_exact ⟨e, small⟩
  exact ⟨m, q, parts?_eq found, full, mul_zpow_eq value⟩

section

variable {m : ℕ} {q : ℤ} (canonical : IsCanonical m q) (positive : 0 < m)

include canonical

theorem IsDouble.mul {x y : Float} {m₁ m₂ : ℕ} {q₁ q₂ : ℤ} (hx : IsDouble x.toModel m₁ q₁)
    (hy : IsDouble y.toModel m₂ q₂) (full : 2 ^ 52 ≤ m₁) (rounds : RoundsTo (m₁ * 2 ^ q₁ * (m₂ * 2 ^ q₂)) m q) :
    x * y = .ofModel (.pack (.finite .positive m q positive)) := by
  obtain ⟨some₁, hx⟩ := hx
  obtain ⟨some₂, hy⟩ := hy
  have digits : 2 ^ 52 ≤ m₁ * m₂ := Nat.le_trans full (Nat.le_mul_of_pos_right m₁ some₂)
  change Float.ofModel (.pack (UnpackedFloat.mul .binary64 x.toModel.unpack y.toModel.unpack)) = _
  rw [hx, hy, mul_eq some₁ some₂ digits canonical positive rounds]
  rfl

theorem IsDouble.div {x y : Float} {m₁ m₂ : ℕ} {q₁ q₂ : ℤ} (hx : IsDouble x.toModel m₁ q₁)
    (hy : IsDouble y.toModel m₂ q₂) (rounds : RoundsTo (m₁ * 2 ^ q₁ / (m₂ * 2 ^ q₂)) m q) :
    x / y = .ofModel (.pack (.finite .positive m q positive)) := by
  obtain ⟨some₁, hx⟩ := hx
  obtain ⟨some₂, hy⟩ := hy
  change Float.ofModel (.pack (UnpackedFloat.div .binary64 x.toModel.unpack y.toModel.unpack)) = _
  rw [hx, hy, div_eq some₁ some₂ canonical positive rounds]
  rfl

theorem ofScientific_whole {n : ℕ} (some : 0 < n) (rounds : RoundsTo n m q) :
    Float.ofScientific n false 0 = .ofModel (.pack (.finite .positive m q positive)) := by
  unfold Float.ofScientific
  split
  · rename_i small
    obtain ⟨m₁, q₁, double, full, value⟩ := toFloat_double some small.1
    obtain ⟨m₂, q₂, power, _, one⟩ := power_double (e := 0) (by decide)
    have product : (m₁ * 2 ^ q₁ * (m₂ * 2 ^ q₂) : ℚ) = n := by
      rw [value, one]
      norm_num
    rw [← product] at rounds
    exact double.mul canonical positive power full rounds
  · have shifted : 0 < n <<< 53 := by
      rw [Nat.shiftLeft_eq]
      positivity
    have digits : 2 ^ 52 ≤ n <<< 53 * 10 ^ 0 := by
      rw [Nat.shiftLeft_eq]
      omega
    have product : ((n <<< 53 : ℕ) * 2 ^ (-53 : ℤ) * ((10 ^ 0 : ℕ) * 2 ^ (0 : ℤ)) : ℚ) = n := by
      rw [Nat.shiftLeft_eq]
      push_cast
      norm_num
      ring
    have most : (2 : ℤ) ^ Format.binary64.exponentBits = 2048 := rfl
    have read : UnpackedFloat.ofScientific .binary64 n 0 = .finite .positive m q positive := by
      rw [UnpackedFloat.ofScientific, dif_neg (Nat.ne_of_gt some), most, if_neg (by decide), if_neg (by omega),
        if_pos (by decide)]
      rw [← product] at rounds
      exact mul_eq shifted (by decide) digits canonical positive rounds .positive .positive
    change Float.ofModel (.pack (UnpackedFloat.ofScientific .binary64 n 0)) = _
    rw [read]

theorem ofScientific_fraction {n k : ℕ} (some : 0 < n) (places : 0 < k) (near : k ≤ 2048 + n.log2)
    (rounds : RoundsTo (n / (10 ^ k : ℕ)) m q) :
    Float.ofScientific n true k = .ofModel (.pack (.finite .positive m q positive)) := by
  unfold Float.ofScientific
  split
  · rename_i small
    obtain ⟨m₁, q₁, double, full, value⟩ := toFloat_double some small.1
    obtain ⟨m₂, q₂, power, _, one⟩ := power_double (e := k) (Nat.lt_succ_of_le small.2)
    rw [← value, ← one] at rounds
    exact double.div canonical positive power rounds
  · have exponent : Int.negOfNat k = -(k : ℤ) := Int.negOfNat_eq
    have most : (2 : ℤ) ^ Format.binary64.exponentBits = 2048 := rfl
    have read : UnpackedFloat.ofScientific .binary64 n (-(k : ℤ)) = .finite .positive m q positive := by
      have power : 0 < 10 ^ (- -(k : ℤ)).toNat := by positivity
      have quotient : (n * 2 ^ (0 : ℤ) / ((10 ^ (- -(k : ℤ)).toNat : ℕ) * 2 ^ (0 : ℤ)) : ℚ) = n / (10 ^ k : ℕ) := by
        have same : (- -(k : ℤ)).toNat = k := by omega
        rw [same, zpow_zero, mul_one, mul_one]
      rw [UnpackedFloat.ofScientific, dif_neg (Nat.ne_of_gt some), most, if_neg (by omega), if_neg (by omega),
        if_neg (by omega)]
      rw [← quotient] at rounds
      exact div_eq some power canonical positive rounds .positive .positive
    change Float.ofModel (.pack (UnpackedFloat.ofScientific .binary64 n (Int.negOfNat k))) = _
    rw [exponent, read]

end

/-- A natural number between powers of ten. -/
theorem toDigits_bounds {n : ℕ} (some : 0 < n) :
    10 ^ ((Nat.toDigits 10 n).length - 1) ≤ n ∧ n < 10 ^ (Nat.toDigits 10 n).length := by
  have digits : 0 < (Nat.toDigits 10 n).length := List.length_pos_iff.mpr Nat.toDigits_ne_nil
  constructor
  · by_cases one : (Nat.toDigits 10 n).length - 1 = 0
    · rw [one]
      exact some
    · by_contra less
      have := (Nat.length_toDigits_le_iff (by decide) (by omega)).mpr (Nat.not_le.mp less)
      omega
  · exact (Nat.length_toDigits_le_iff (by decide) digits).mp (Nat.le_refl _)

theorem range_bound : (2 : ℚ) ^ (1200 : ℤ) ≤ 10 ^ (400 : ℤ) := by
  have cubes : (2 : ℚ) ^ (1200 : ℤ) = (2 ^ 3) ^ 400 := by
    rw [← pow_mul]
    rfl
  rw [cubes]
  exact pow_le_pow_left₀ (by norm_num) (by norm_num) 400

theorem RoundsTo.above {x : ℚ} {m : ℕ} {q : ℤ} (rounds : RoundsTo x m q) (positive : 0 < m) :
    (2 : ℚ) ^ (q - 1) ≤ x := by
  have quarters : (2 : ℚ) ^ (q - 1) = 2 * 2 ^ (q - 2) := by
    have next : q - 1 = q - 2 + 1 := by omega
    rw [next, zpow_add_one₀ (by norm_num), mul_comm]
  have two : (2 : ℚ) ≤ lowEnd m q := by
    have := (lowEnd_le positive q).1
    exact_mod_cast (by omega : 2 ≤ lowEnd m q)
  rw [quarters]
  exact (mul_le_mul_of_nonneg_right two (by positivity)).trans rounds.low

theorem RoundsTo.digits_pos {m n : ℕ} {q e : ℤ} (rounds : RoundsTo (n * 10 ^ e) m q) (positive : 0 < m) : 0 < n := by
  rcases Nat.eq_zero_or_pos n with rfl | some
  · have above := rounds.above positive
    have unit : (0 : ℚ) < 2 ^ (q - 1) := by positivity
    simp at above
    linarith
  · exact some

/-- A decimal in the interval of a double has its first digit near the point. -/
theorem RoundsTo.near {m n : ℕ} {q e : ℤ} (canonical : IsCanonical m q) (positive : 0 < m) (top : q ≤ 971)
    (rounds : RoundsTo (n * 10 ^ e) m q) : -400 ≤ ((Nat.toDigits 10 n).length : ℤ) + e ∧
      ((Nat.toDigits 10 n).length : ℤ) + e ≤ 400 := by
  have ten : (1 : ℚ) < 10 := by norm_num
  have least := rounds.above positive
  have most := rounds.lt_top canonical.fits
  obtain ⟨low, high⟩ := toDigits_bounds (rounds.digits_pos positive)
  have digits : 0 < (Nat.toDigits 10 n).length := List.length_pos_iff.mpr Nat.toDigits_ne_nil
  generalize (Nat.toDigits 10 n).length = d at low high digits ⊢
  constructor
  · have above : (10 : ℚ) ^ (-400 : ℤ) < 10 ^ (d + e) :=
      calc (10 : ℚ) ^ (-400 : ℤ)
          ≤ 2 ^ (-1200 : ℤ) := by
            rw [zpow_neg, zpow_neg]
            exact inv_anti₀ (by positivity) range_bound
        _ ≤ 2 ^ (q - 1) := zpow_le_zpow_right₀ (by norm_num) (by have := canonical.least; omega)
        _ ≤ n * 10 ^ e := least
        _ < (10 ^ d : ℕ) * 10 ^ e := mul_lt_mul_of_pos_right (by exact_mod_cast high) (by positivity)
        _ = 10 ^ (d + e) := by rw [zpow_add₀ (by norm_num), zpow_natCast]; push_cast; rfl
    exact ((zpow_lt_zpow_iff_right₀ ten).mp above).le
  · have below : (10 : ℚ) ^ ((d - 1 : ℕ) + e) < 10 ^ (400 : ℤ) :=
      calc (10 : ℚ) ^ ((d - 1 : ℕ) + e)
          = (10 ^ (d - 1) : ℕ) * 10 ^ e := by rw [zpow_add₀ (by norm_num), zpow_natCast]; push_cast; rfl
        _ ≤ n * 10 ^ e := mul_le_mul_of_nonneg_right (by exact_mod_cast low) (by positivity)
        _ < 2 ^ (q + 53) := most
        _ ≤ 2 ^ (1200 : ℤ) := zpow_le_zpow_right₀ (by norm_num) (by omega)
        _ ≤ 10 ^ (400 : ℤ) := range_bound
    have order := (zpow_lt_zpow_iff_right₀ ten).mp below
    omega

theorem ofUnpacked_finite {u : UnpackedFloat} {negative : Bool} {m : ℕ} {q : ℤ} (positive : 0 < m)
    (h : ofUnpacked u = .finite negative m q) : ∃ s, isNegative s = negative ∧ u = .finite s m q positive := by
  cases u with
  | finite s _ _ _ =>
    cases h
    exact ⟨s, rfl, rfl⟩
  | zero s =>
    cases h
    omega
  | infinity s => cases h
  | notANumber => cases h

theorem neg_pack {m : ℕ} {q : ℤ} (canonical : IsCanonical m q) (positive : 0 < m) (top : q ≤ 971) :
    -Float.ofModel (.pack (.finite .positive m q positive)) = .ofModel (.pack (.finite .negative m q positive)) := by
  change Float.ofModel (.pack (Float.Model.pack (.finite .positive m q positive)).unpack.neg) = _
  rw [unpack_pack .positive canonical positive top]
  rfl

theorem cast_tenTo (n : ℕ) : (tenTo n : ℚ) = 10 ^ n := by
  change ((10 ^ n : ℕ) : ℚ) = 10 ^ n
  push_cast
  rfl

/-- A decimal in the interval of a double reads as this double. -/
theorem nearestFloat_eq {x : Float} {negative : Bool} {m : ℕ} {q : ℤ} (parts : ofFloat x = .finite negative m q)
    (positive : 0 < m) {n : ℕ} {e : ℤ} (rounds : RoundsTo (n * 10 ^ e) m q) :
    Numeral.nearestFloat negative n e = x := by
  rw [ofFloat_eq] at parts
  obtain ⟨s, sign, unpacked⟩ := ofUnpacked_finite positive parts
  obtain ⟨canonical, top⟩ := unpack_canonical unpacked
  obtain ⟨low, high⟩ := rounds.near canonical positive top
  have some := rounds.digits_pos positive
  have packed : .ofModel (.pack (.finite s m q positive)) = x := by rw [← unpacked, pack_unpack]
  have magnitude : (if n == 0 || ((Nat.toDigits 10 n).length : ℤ) + e < -400 then (0.0 : Float)
      else if 400 < ((Nat.toDigits 10 n).length : ℤ) + e then 1.0 / 0.0
      else if 0 ≤ e then Float.ofScientific (n * tenTo e.toNat) false 0 else Float.ofScientific n true (-e).toNat) =
      .ofModel (.pack (.finite .positive m q positive)) := by
    have notZero : (n == 0) = false := by simpa using Nat.ne_of_gt some
    rw [notZero, Bool.false_or, if_neg (by simpa using low), if_neg (by omega)]
    by_cases whole : 0 ≤ e
    · rw [if_pos whole]
      have value : (n * 10 ^ e : ℚ) = (n * tenTo e.toNat : ℕ) := by
        have exponent : e = (e.toNat : ℤ) := by omega
        conv => lhs; rw [exponent, zpow_natCast]
        rw [Nat.cast_mul, cast_tenTo]
      rw [value] at rounds
      exact ofScientific_whole canonical positive (Nat.mul_pos some (tenTo_pos _)) rounds
    · rw [if_neg whole]
      have value : (n * 10 ^ e : ℚ) = n / (10 ^ (-e).toNat : ℕ) := by
        have exponent : e = -((-e).toNat : ℤ) := by omega
        conv => lhs; rw [exponent, zpow_neg, zpow_natCast]
        push_cast
        rfl
      rw [value] at rounds
      have power := Nat.le_trans (Nat.pow_le_pow_left (by decide : 2 ≤ 10) _) (toDigits_bounds some).1
      have digits := (Nat.le_log2 (Nat.ne_of_gt some)).mpr power
      exact ofScientific_fraction canonical positive some (by omega) (by omega) rounds
  rw [Numeral.nearestFloat, magnitude, ← packed, ← sign]
  cases s with
  | positive => rfl
  | negative => exact neg_pack canonical positive top

theorem nearestFloat_zero {x : Float} {negative : Bool} {q : ℤ} (parts : ofFloat x = .finite negative 0 q) (e : ℤ) :
    Numeral.nearestFloat negative 0 e = x := by
  rw [ofFloat_eq] at parts
  cases unpacked : x.toModel.unpack with
  | zero s =>
    have packed : .ofModel (.pack (.zero s)) = x := by rw [← unpacked, pack_unpack]
    rw [unpacked] at parts
    rw [← packed, Numeral.nearestFloat]
    simp only [beq_self_eq_true, Bool.true_or, if_true]
    cases s <;> cases parts <;> decide +kernel
  | finite s m q positive =>
    rw [unpacked] at parts
    cases parts
    omega
  | infinity s =>
    rw [unpacked] at parts
    cases parts
  | notANumber =>
    rw [unpacked] at parts
    cases parts

end BrowserFlow.Binary
