import BrowserFlow.Proofs.Decimal.Numeral
import BrowserFlow.Proofs.Decimal.Shortest
import BrowserFlow.Proofs.Value.Json

/-!
A number in JSON text reads as the number that was written. The text of a double always has a point or an exponent,
so that it is not taken for an integer, and its digits lie in the interval of the double.
-/

namespace BrowserFlow

open Binary

/-- What may follow a number in text: nothing that would go on with it. -/
def Json.EndsNumber (rest : List Char) : Prop := ∀ c ∈ rest.head?, c.isDigit = false ∧ c ≠ '.' ∧ c ≠ 'e' ∧ c ≠ 'E'

namespace Json

open Text Numeral

/-- What may follow digits: no further digit. -/
def EndsDigits (rest : List Char) : Prop := ∀ c ∈ rest.head?, c.isDigit = false

/-- Digits of a numeral are read up to the first other character. -/
theorem digits_span {ds rest : List Char} (digits : ∀ c ∈ ds, c.isDigit = true) (other : EndsDigits rest) :
    (ds ++ rest).takeWhile Char.isDigit = ds ∧ (ds ++ rest).dropWhile Char.isDigit = rest := by
  induction ds with
  | nil =>
    cases rest with
    | nil => exact ⟨rfl, rfl⟩
    | cons c rest =>
      have stop := other c rfl
      simp [stop]
  | cons d ds ih =>
    have head := digits d (by simp)
    obtain ⟨taken, left⟩ := ih fun c member => digits c (List.mem_cons_of_mem _ member)
    rw [List.cons_append, List.takeWhile_cons_of_pos head, List.dropWhile_cons_of_pos head, taken, left]
    exact ⟨rfl, rfl⟩

theorem EndsNumber.digits {rest : List Char} (ends : EndsNumber rest) : EndsDigits rest :=
  fun c head => (ends c head).1

theorem readWhole_positive {d : Char} {ds rest : List Char} (digits : ∀ c ∈ d :: ds, c.isDigit = true)
    (leading : d ≠ '0') (other : EndsDigits rest) : readWhole (d :: ds ++ rest) = some (d :: ds, rest) := by
  obtain ⟨taken, left⟩ := digits_span digits other
  unfold readWhole
  split
  · rename_i zero
    cases zero
    exact absurd rfl leading
  · dsimp only
    rw [taken, left]
    rfl

theorem readFraction_digits {ds rest : List Char} (digits : AreDigits ds) (other : EndsDigits rest) :
    readFraction ('.' :: (ds ++ rest)) = (ds, rest) := by
  obtain ⟨taken, left⟩ := digits_span digits.2 other
  have some : ds.isEmpty = false := by simpa using digits.1
  simp only [readFraction, taken, left, some]
  rfl

theorem readFraction_none {rest : List Char} (other : ∀ c ∈ rest.head?, c ≠ '.') : readFraction rest = ([], rest) := by
  unfold readFraction
  split
  · exact absurd rfl (other _ rfl)
  · rfl

theorem readExponent_none {rest : List Char} (other : ∀ c ∈ rest.head?, c ≠ 'e' ∧ c ≠ 'E') :
    readExponent rest = (none, rest) := by
  unfold readExponent
  split
  · rename_i c tail
    obtain ⟨small, capital⟩ := other c rfl
    simp [small, capital]
  · rfl

theorem EndsNumber.exponent {rest : List Char} (ends : EndsNumber rest) : readExponent rest = (none, rest) :=
  readExponent_none fun c head => (ends c head).2.2

theorem splitSign_digit {d : Char} (digit : d.isDigit = true) (cs : List Char) :
    splitSign (d :: cs) = (false, d :: cs) := by
  unfold splitSign
  split
  · rename_i same
    cases same
    exact absurd digit (by decide)
  · rename_i same
    cases same
    exact absurd digit (by decide)
  · rfl

theorem readExponent_signed {cs ds rest : List Char} {negative : Bool} (sign : splitSign cs = (negative, ds ++ rest))
    (digits : AreDigits ds) (other : EndsDigits rest) :
    readExponent ('e' :: cs) = (some (signed negative (natOfDigits ds)), rest) := by
  obtain ⟨taken, left⟩ := digits_span digits.2 other
  have some : ds.isEmpty = false := by simpa using digits.1
  simp only [readExponent, sign, taken, left, some]
  rfl

theorem readExponent_toString (n : ℤ) {rest : List Char} (other : EndsDigits rest) :
    readExponent ('e' :: ((toString n).toList ++ rest)) = (some n, rest) := by
  have digits := toDigits_areDigits n.natAbs
  rw [toList_toString]
  by_cases negative : n < 0
  · have value : signed true n.natAbs = n := by
      rw [signed, if_pos rfl]
      omega
    have sign : splitSign ('-' :: Nat.toDigits 10 n.natAbs ++ rest) = (true, Nat.toDigits 10 n.natAbs ++ rest) := rfl
    rw [if_pos negative, readExponent_signed sign digits other, natOfDigits_toDigits, value]
  · have value : signed false n.natAbs = n := by
      rw [signed, if_neg (by decide)]
      omega
    have unsigned : splitSign (Nat.toDigits 10 n.natAbs ++ rest) = (false, Nat.toDigits 10 n.natAbs ++ rest) := by
      obtain ⟨d, ds, same⟩ := List.exists_cons_of_ne_nil digits.1
      rw [same, List.cons_append]
      exact splitSign_digit (digits.2 d (by simp [same])) _
    rw [if_neg negative, readExponent_signed unsigned digits other, natOfDigits_toDigits, value]

/-! ### Integers -/

theorem toDigits_leading {n : ℕ} (some : 0 < n) : ∃ d ds, Nat.toDigits 10 n = d :: ds ∧ d ≠ '0' := by
  induction n using Nat.base_induction 10 (by decide) with
  | single m small =>
    refine ⟨m.digitChar, [], Nat.toDigits_of_lt_base small, ?_⟩
    rw [ne_eq, Nat.digitChar_eq_zero]
    omega
  | digit m k small positive ih =>
    obtain ⟨d, ds, same, leading⟩ := ih positive
    refine ⟨d, ds ++ Nat.toDigits 10 k, ?_, leading⟩
    rw [← Nat.toDigits_append_toDigits (by decide) positive small, same]
    rfl

theorem readWhole_toDigits (n : ℕ) {rest : List Char} (other : EndsDigits rest) :
    readWhole (Nat.toDigits 10 n ++ rest) = some (Nat.toDigits 10 n, rest) := by
  rcases Nat.eq_zero_or_pos n with rfl | positive
  · rfl
  · obtain ⟨d, ds, same, leading⟩ := toDigits_leading positive
    have digits := (toDigits_areDigits n).2
    rw [same] at digits ⊢
    exact readWhole_positive digits leading other

theorem readNumber_integer (negative : Bool) {n : ℕ} (short : n < tenTo maxDigits) {rest : List Char}
    (ends : EndsNumber rest) :
    readNumber negative (Nat.toDigits 10 n ++ rest) = some (.int (signed negative n), rest) := by
  have whole := readWhole_toDigits n ends.digits
  have fraction := readFraction_none fun c head => (ends c head).2.1
  have exponent := ends.exponent
  have fits := length_toDigits_le short
  rw [readNumber, whole]
  simp only [Option.bind_eq_bind, Option.bind_some, fraction, exponent, List.isEmpty_nil, Option.isNone_none,
    Bool.and_self, if_true, if_neg fits, natOfDigits_toDigits]
  rfl

/-! ### Doubles -/

theorem readNumber_float (negative : Bool) {cs tail tail' rest whole fraction : List Char} {exponent : Option ℤ}
    (hw : readWhole cs = some (whole, tail)) (hf : readFraction tail = (fraction, tail'))
    (he : readExponent tail' = (exponent, rest)) (float : (fraction.isEmpty && exponent.isNone) = false) :
    readNumber negative cs = some (.float (nearestFloat negative (natOfDigits (whole ++ fraction))
      (exponent.getD 0 - fraction.length)), rest) := by
  simp only [readNumber, hw, Option.bind_eq_bind, Option.bind_some, hf, he, float, Bool.false_eq_true, if_false]

theorem natOfDigits_zeros (k : ℕ) (ds : List Char) : natOfDigits (List.replicate k '0' ++ ds) = natOfDigits ds := by
  change Nat.ofDigitChars 10 (List.replicate k '0' ++ ds) 0 = Nat.ofDigitChars 10 ds 0
  rw [Nat.ofDigitChars_append, Nat.ofDigitChars_replicate_zero, Nat.mul_zero]

theorem natOfDigits_filled (ds : List Char) (k : ℕ) :
    natOfDigits (ds ++ List.replicate k '0') = 10 ^ k * natOfDigits ds := by
  change Nat.ofDigitChars 10 (ds ++ List.replicate k '0') 0 = 10 ^ k * Nat.ofDigitChars 10 ds 0
  rw [Nat.ofDigitChars_append, Nat.ofDigitChars_replicate_zero]

theorem zeros_digits (k : ℕ) : ∀ c ∈ List.replicate k '0', c.isDigit = true := by
  intro c member
  rw [(List.mem_replicate.mp member).2]
  rfl

/-- A number is read from the text, with the value of the digits `ds` whose point stands after `point` of them. -/
def ReadsAs (negative : Bool) (cs rest ds : List Char) (point : ℤ) : Prop := ∃ n e,
  readNumber negative cs = some (.float (nearestFloat negative n e), rest) ∧
  (n * 10 ^ e : ℚ) = natOfDigits ds * 10 ^ (point - ds.length)

theorem exponentText_eq (e : ℤ) : (FloatStyle.compact.exponentText e).toList = (toString e).toList := by
  have some : 1 - (toString e.natAbs).length = 0 := by
    have := Nat.length_repr_pos (n := e.natAbs)
    rw [Nat.toString_eq_repr]
    omega
  have width : FloatStyle.compact.exponentWidth = 1 := rfl
  have plain : FloatStyle.compact.plusSign = false := rfl
  rw [FloatStyle.exponentText, String.toList_append, width, toList_padZeros, some, toList_toString, plain]
  by_cases negative : e < 0
  · simp [negative]
  · simp [negative]

section

variable (negative : Bool) {d : Char} {ds rest : List Char} (digits : ∀ c ∈ d :: ds, c.isDigit = true)
  (leading : d ≠ '0') (ends : EndsNumber rest)

include digits leading ends

theorem reads_exponent (top : ℤ) : ReadsAs negative
    (d :: ((if ds.isEmpty then [] else '.' :: ds) ++ 'e' :: ((toString top).toList ++ rest))) rest (d :: ds)
    (top + 1) := by
  have exponent := readExponent_toString top ends.digits
  have stop : EndsDigits ('e' :: ((toString top).toList ++ rest)) := by simp [EndsDigits]
  cases ds with
  | nil =>
    have whole := readWhole_positive digits leading stop
    have fraction : readFraction ('e' :: ((toString top).toList ++ rest)) = ([], _) := readFraction_none (by simp)
    exact ⟨_, _, readNumber_float negative whole fraction exponent rfl, by simp⟩
  | cons c cs =>
    have single : ∀ c ∈ [d], c.isDigit = true := fun c member => digits c (by simp [List.mem_singleton.mp member])
    have others : AreDigits (c :: cs) := ⟨by simp, fun x member => digits x (List.mem_cons_of_mem _ member)⟩
    have point : EndsDigits ('.' :: ((c :: cs) ++ 'e' :: ((toString top).toList ++ rest))) := by simp [EndsDigits]
    have whole := readWhole_positive single leading point
    have fraction := readFraction_digits others stop
    refine ⟨_, _, readNumber_float negative whole fraction exponent rfl, ?_⟩
    simp

omit leading in
theorem reads_leading_zeros (zeros : ℕ) : ReadsAs negative
    ('0' :: '.' :: (List.replicate zeros '0' ++ (d :: ds)) ++ rest) rest (d :: ds) (-(zeros : ℤ)) := by
  have others : AreDigits (List.replicate zeros '0' ++ (d :: ds)) :=
    ⟨by simp, List.forall_mem_append.mpr ⟨zeros_digits zeros, digits⟩⟩
  have whole : readWhole ('0' :: '.' :: (List.replicate zeros '0' ++ (d :: ds)) ++ rest) = some (['0'], _) := rfl
  have fraction := readFraction_digits others ends.digits
  have exponent := ends.exponent
  have float : ((List.replicate zeros '0' ++ (d :: ds)).isEmpty && (none : Option ℤ).isNone) = false := by simp
  have zero : natOfDigits ('0' :: (List.replicate zeros '0' ++ (d :: ds))) = natOfDigits (d :: ds) :=
    natOfDigits_zeros (zeros + 1) (d :: ds)
  refine ⟨_, _, readNumber_float negative whole fraction exponent float, ?_⟩
  rw [List.singleton_append, zero]
  congr 2
  simp only [Option.getD_none, List.length_append, List.length_replicate]
  omega

theorem reads_point {front back : List Char} (same : d :: front ++ back = d :: ds) (some : back ≠ []) :
    ReadsAs negative (d :: front ++ '.' :: (back ++ rest)) rest (d :: ds) (front.length + 1) := by
  rw [← same] at digits ⊢
  have others : AreDigits back := ⟨some, fun c member => digits c (List.mem_append_right _ member)⟩
  have point : EndsDigits ('.' :: (back ++ rest)) := by simp [EndsDigits]
  have whole := readWhole_positive (fun c member => digits c (List.mem_append_left _ member)) leading point
  have fraction := readFraction_digits others ends.digits
  have exponent := ends.exponent
  have float : (back.isEmpty && (none : Option ℤ).isNone) = false := by simpa using some
  refine ⟨_, _, readNumber_float negative whole fraction exponent float, ?_⟩
  congr 2
  simp only [Option.getD_none, List.length_append, List.length_cons]
  omega

theorem reads_filled (zeros : ℕ) : ReadsAs negative (d :: ds ++ List.replicate zeros '0' ++ '.' :: '0' :: rest) rest
    (d :: ds) ((d :: ds).length + zeros) := by
  have filled : ∀ c ∈ d :: (ds ++ List.replicate zeros '0'), c.isDigit = true := by
    rw [← List.cons_append]
    exact List.forall_mem_append.mpr ⟨digits, zeros_digits zeros⟩
  have point : EndsDigits ('.' :: '0' :: rest) := by simp [EndsDigits]
  have zero : AreDigits ['0'] := ⟨by simp, by simp⟩
  have whole := readWhole_positive filled leading point
  have fraction := readFraction_digits zero ends.digits
  have exponent := ends.exponent
  refine ⟨_, _, readNumber_float negative whole fraction exponent rfl, ?_⟩
  have all : d :: (ds ++ List.replicate zeros '0') ++ ['0'] = d :: ds ++ List.replicate (zeros + 1) '0' := by
    rw [List.replicate_succ', ← List.append_assoc]
    rfl
  have difference : ((d :: ds).length + zeros - (d :: ds).length : ℤ) = zeros := by omega
  rw [all, natOfDigits_filled, difference]
  simp only [Option.getD_none, List.length_singleton]
  push_cast
  rw [pow_succ, zpow_natCast]
  norm_num
  ring

/-- Digits laid out read as the number that they stand for. -/
theorem reads_layOut (point : ℤ) :
    ReadsAs negative ((FloatStyle.compact.layOut (d :: ds) point).toList ++ rest) rest (d :: ds) point := by
  unfold FloatStyle.layOut
  dsimp only
  split
  · have exponential := reads_exponent negative digits leading ends (point - 1)
    rw [sub_add_cancel] at exponential
    simp only [List.take_succ_cons, List.take_zero, List.drop_succ_cons, List.drop_zero, String.toList_append,
      exponentText_eq, String.toList_ofList]
    cases ds with
    | nil => simpa using exponential
    | cons c cs => simpa using exponential
  · split
    · rename_i small
      have positional := reads_leading_zeros negative digits ends (-point).toNat
      have back : -((-point).toNat : ℤ) = point := by omega
      rw [back] at positional
      simpa [toList_pushn] using positional
    · obtain ⟨n, same⟩ : ∃ n : ℕ, point = n + 1 := ⟨(point - 1).toNat, by omega⟩
      have size : point.toNat = n + 1 := by omega
      rw [size]
      by_cases inside : n < ds.length
      · have parts : d :: ds.take n ++ ds.drop n = d :: ds := by rw [List.cons_append, List.take_append_drop]
        have some : ds.drop n ≠ [] := by simpa using inside
        have positional := reads_point negative digits leading ends parts some
        have length : (ds.take n).length = n := by simpa using inside.le
        rw [length, ← same] at positional
        have shown : (ds.drop n).isEmpty = false := by simpa using some
        simpa [toList_pushn, length, shown] using positional
      · have filled := reads_filled negative digits leading ends (n - ds.length)
        have whole : ((d :: ds).length + (n - ds.length : ℕ) : ℤ) = point := by
          rw [List.length_cons]
          omega
        have all : (d :: ds).take (n + 1) = d :: ds := List.take_of_length_le (by rw [List.length_cons]; omega)
        have none : (d :: ds).drop (n + 1) = [] := List.drop_of_length_le (by rw [List.length_cons]; omega)
        have zeros : n + 1 - (ds.length + 1) = n - ds.length := by omega
        rw [whole] at filled
        simpa [toList_pushn, all, none, zeros] using filled

end

theorem readNumber_digit {negative : Bool} {cs : List Char} {found : Value × List Char}
    (h : readNumber negative cs = some found) : ∃ d ds, cs = d :: ds ∧ d.isDigit = true := by
  obtain ⟨⟨whole, tail⟩, digits, _⟩ := Option.bind_eq_some_iff.mp h
  unfold readWhole at digits
  split at digits
  · exact ⟨_, _, rfl, rfl⟩
  · cases cs with
    | nil => simp at digits
    | cons d ds =>
      by_cases digit : d.isDigit = true
      · exact ⟨d, ds, rfl, digit⟩
      · simp [List.takeWhile_cons_of_neg digit] at digits

theorem render_finite {x : Float} {negative : Bool} {m : ℕ} {q : ℤ} (parts : ofFloat x = .finite negative m q) :
    (FloatStyle.compact.render x).toList = (if negative then ['-'] else []) ++ (if m == 0 then "0.0"
      else FloatStyle.compact.layOut (Nat.toDigits 10 (Decimal.shortest m q).digits)
        ((Nat.toDigits 10 (Decimal.shortest m q).digits).length + (Decimal.shortest m q).exponent)).toList := by
  rw [FloatStyle.render, parts]
  cases negative <;> simp

/-- The text of a finite double is a sign, if there is one, and what reads as this double. -/
theorem render_reads {x : Float} {negative : Bool} {m : ℕ} {q : ℤ} (parts : ofFloat x = .finite negative m q) :
    ∃ body, (FloatStyle.compact.render x).toList = (if negative then ['-'] else []) ++ body ∧
      ∀ rest, EndsNumber rest → readNumber negative (body ++ rest) = some (.float x, rest) := by
  refine ⟨_, render_finite parts, ?_⟩
  intro rest ends
  rcases Nat.eq_zero_or_pos m with rfl | positive
  · have whole : readWhole ('0' :: '.' :: '0' :: rest) = some (['0'], _) := rfl
    have digit : AreDigits ['0'] := ⟨by simp, by simp⟩
    have fraction := readFraction_digits digit ends.digits
    have exponent := ends.exponent
    have read := readNumber_float negative whole fraction exponent rfl
    have zero : natOfDigits (['0'] ++ ['0']) = 0 := rfl
    rw [zero, nearestFloat_zero parts] at read
    rw [beq_self_eq_true, if_pos rfl]
    exact read
  · have rounds := Decimal.shortest_rounds positive q
    have notZero : (m == 0) = false := by simpa using Nat.ne_of_gt positive
    obtain ⟨d, ds, same, leading⟩ := toDigits_leading (rounds.digits_pos positive)
    have digits := (toDigits_areDigits (Decimal.shortest m q).digits).2
    have read := natOfDigits_toDigits (Decimal.shortest m q).digits
    rw [notZero, same]
    rw [same] at digits read
    obtain ⟨n, e, number, value⟩ := reads_layOut negative digits leading ends
      ((d :: ds).length + (Decimal.shortest m q).exponent)
    have exponent : ((d :: ds).length + (Decimal.shortest m q).exponent - (d :: ds).length : ℤ) =
        (Decimal.shortest m q).exponent := by omega
    rw [read, exponent] at value
    rw [Decimal.value, ← value] at rounds
    rw [nearestFloat_eq parts positive rounds] at number
    exact number

end Json

end BrowserFlow
