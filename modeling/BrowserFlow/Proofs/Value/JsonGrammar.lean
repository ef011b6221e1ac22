import BrowserFlow.Proofs.Value.JsonText

/-!
The grammar of JSON text, apart from how it is read. The reader accepts a text just when the grammar gives it a
meaning, and reads that meaning.
-/

namespace BrowserFlow.Json

open Text Numeral

def AreSpaces (cs : List Char) : Prop := ∀ c ∈ cs, isSpace c = true

/-- Four hexadecimal digits. -/
inductive IsUnit : List Char → ℕ → Prop
  | intro {a b c d : Char} {i j k l : ℕ} (first : hexValue? a = some i) (second : hexValue? b = some j)
      (third : hexValue? c = some k) (fourth : hexValue? d = some l) :
      IsUnit [a, b, c, d] (i * 4096 + j * 256 + k * 16 + l)

/-- The character that two halves make. -/
@[irreducible] def joined (high low : ℕ) : Char := Char.ofNat (0x10000 + (high - 0xD800) * 0x400 + (low - 0xDC00))

/-- The text begins with the second half of a pair. -/
def BeginsLow (cs : List Char) : Prop :=
  ∃ hex n rest, cs = '\\' :: 'u' :: (hex ++ rest) ∧ IsUnit hex n ∧ isLowHalf n = true

/-- The text of a string between its quotes, and the characters that it stands for. A half that has no other half
    stands for the replacement character. -/
inductive Spells : List Char → List Char → Prop
  | done : Spells [] []
  | plain {c : Char} {cs ds : List Char} (quote : c ≠ '"') (backslash : c ≠ '\\') (control : ¬ c.toNat < 0x20)
      (rest : Spells cs ds) : Spells (c :: cs) (c :: ds)
  | escape {e d : Char} {cs ds : List Char} (escape : simpleEscape? e = some d) (rest : Spells cs ds) :
      Spells ('\\' :: e :: cs) (d :: ds)
  | unit {hex cs ds : List Char} {n : ℕ} (unit : IsUnit hex n) (high : isHighHalf n = false)
      (low : isLowHalf n = false) (rest : Spells cs ds) : Spells ('\\' :: 'u' :: (hex ++ cs)) (Char.ofNat n :: ds)
  | pair {hex hex' cs ds : List Char} {n m : ℕ} (unit : IsUnit hex n) (high : isHighHalf n = true)
      (unit' : IsUnit hex' m) (low : isLowHalf m = true) (rest : Spells cs ds) :
      Spells ('\\' :: 'u' :: (hex ++ '\\' :: 'u' :: (hex' ++ cs)))
        (joined n m :: ds)
  | half {hex cs ds : List Char} {n : ℕ} (unit : IsUnit hex n)
      (half : isLowHalf n = true ∨ isHighHalf n = true ∧ ¬ BeginsLow cs) (rest : Spells cs ds) :
      Spells ('\\' :: 'u' :: (hex ++ cs)) (replacement :: ds)

/-- Digits without a zero in front. -/
structure IsWhole (ds : List Char) : Prop where
  digits : AreDigits ds
  zero : ds.head? = some '0' → ds = ['0']

/-- The fraction of a number with its digits, if it has one. -/
inductive Fraction : List Char → List Char → Prop
  | none : Fraction [] []
  | digits {ds : List Char} (digits : AreDigits ds) : Fraction ('.' :: ds) ds

/-- The signs of an exponent, and whether they make it negative. -/
def signs : List (List Char × Bool) := [([], false), (['+'], false), (['-'], true)]

inductive Exponent : List Char → Option ℤ → Prop
  | none : Exponent [] none
  | digits {mark : Char} {sign ds : List Char} {negative : Bool} (marks : mark = 'e' ∨ mark = 'E')
      (known : (sign, negative) ∈ signs) (digits : AreDigits ds) :
      Exponent (mark :: (sign ++ ds)) (some (Binary.signed negative (natOfDigits ds)))

/-- A number without its sign. -/
inductive Number (negative : Bool) : List Char → Value → Prop
  | integer {whole : List Char} (plain : IsWhole whole) (short : whole.length ≤ maxDigits) :
      Number negative whole (.int (Binary.signed negative (natOfDigits whole)))
  | double {whole fraction exponent ds : List Char} {e : Option ℤ} (plain : IsWhole whole) (digits : Fraction fraction ds)
      (power : Exponent exponent e) (some : fraction ++ exponent ≠ []) : Number negative (whole ++ (fraction ++ exponent))
        (.float (nearestFloat negative (natOfDigits (whole ++ ds)) (e.getD 0 - ds.length)))

def words : List (String × Value) :=
  [("null", .null), ("true", .bool true), ("false", .bool false), ("NaN", .float (0.0 / 0.0)),
    ("Infinity", .float (1.0 / 0.0)), ("-Infinity", .float (-1.0 / 0.0))]

mutual

inductive Denotes : List Char → Value → Prop
  | word {word : String} {v : Value} (known : (word, v) ∈ words) : Denotes word.toList v
  | number {cs : List Char} {v : Value} (number : Number false cs v) : Denotes cs v
  | negative {cs : List Char} {v : Value} (number : Number true cs v) : Denotes ('-' :: cs) v
  | string {body cs : List Char} (spells : Spells body cs) : Denotes ('"' :: (body ++ ['"'])) (.str (String.ofList cs))
  | emptyList {gap : List Char} (blank : AreSpaces gap) : Denotes ('[' :: (gap ++ [']'])) (.list [])
  | list {gap items : List Char} {vs : List Value} (blank : AreSpaces gap) (members : Items items vs) :
      Denotes ('[' :: (gap ++ (items ++ [']']))) (.list vs)
  | emptyObject {gap : List Char} (blank : AreSpaces gap) : Denotes ('\x7b' :: (gap ++ ['\x7d'])) (.dict [])
  | object {gap pairs : List Char} {entries : List (String × Value)} (blank : AreSpaces gap) (members : Pairs pairs entries) :
      Denotes ('\x7b' :: (gap ++ (pairs ++ ['\x7d']))) (.dict (Entries.collect entries))

/-- Values with commas between them, and blanks after each. -/
inductive Items : List Char → List Value → Prop
  | last {text gap : List Char} {v : Value} (value : Denotes text v) (blank : AreSpaces gap) : Items (text ++ gap) [v]
  | more {text gap gap' items : List Char} {v : Value} {vs : List Value} (value : Denotes text v) (blank : AreSpaces gap)
      (blank' : AreSpaces gap') (rest : Items items vs) : Items (text ++ (gap ++ ',' :: (gap' ++ items))) (v :: vs)

/-- A key in quotes, a colon and a value. -/
inductive Pair : List Char → String × Value → Prop
  | intro {body key gap gap' text : List Char} {v : Value} (spells : Spells body key) (blank : AreSpaces gap)
      (blank' : AreSpaces gap') (value : Denotes text v) :
      Pair ('"' :: (body ++ '"' :: (gap ++ ':' :: (gap' ++ text)))) (String.ofList key, v)

inductive Pairs : List Char → List (String × Value) → Prop
  | last {text gap : List Char} {entry : String × Value} (pair : Pair text entry) (blank : AreSpaces gap) :
      Pairs (text ++ gap) [entry]
  | more {text gap gap' pairs : List Char} {entry : String × Value} {entries : List (String × Value)}
      (pair : Pair text entry) (blank : AreSpaces gap) (blank' : AreSpaces gap') (rest : Pairs pairs entries) :
      Pairs (text ++ (gap ++ ',' :: (gap' ++ pairs))) (entry :: entries)

end

/-- A text with this value, and blanks around it. -/
def Means (cs : List Char) (v : Value) : Prop :=
  ∃ before text after, cs = before ++ (text ++ after) ∧ AreSpaces before ∧ AreSpaces after ∧ Denotes text v

/-! ### Strings -/

theorem IsUnit.reads {hex : List Char} {n : ℕ} (unit : IsUnit hex n) (rest : List Char) :
    hex4? (hex ++ rest) = some (n, rest) := by
  cases unit with
  | intro first second third fourth => simp [hex4?, first, second, third, fourth]

theorem hex4?_some {cs rest : List Char} {n : ℕ} (read : hex4? cs = some (n, rest)) :
    ∃ hex, cs = hex ++ rest ∧ IsUnit hex n := by
  unfold hex4? at read
  split at read
  · rename_i a b c d tail
    obtain ⟨i, first, read⟩ := Option.bind_eq_some_iff.mp read
    obtain ⟨j, second, read⟩ := Option.bind_eq_some_iff.mp read
    obtain ⟨k, third, read⟩ := Option.bind_eq_some_iff.mp read
    obtain ⟨l, fourth, read⟩ := Option.bind_eq_some_iff.mp read
    cases read
    exact ⟨[a, b, c, d], rfl, .intro first second third fourth⟩
  · cases read

/-- A quote is no hexadecimal digit. -/
theorem IsUnit.within {hex tail body rest : List Char} {n : ℕ} (unit : IsUnit hex n)
    (same : hex ++ tail = body ++ '"' :: rest) : ∃ left, body = hex ++ left := by
  have quote : '"' ∉ hex := by
    cases unit with
    | intro first second third fourth =>
      intro member
      simp only [List.mem_cons, List.not_mem_nil, or_false] at member
      rcases member with rfl | rfl | rfl | rfl <;> contradiction
  rcases List.append_eq_append_iff.mp same with ⟨left, rfl, -⟩ | ⟨left, rfl, more⟩
  · exact ⟨left, rfl⟩
  · cases left with
    | nil => exact ⟨[], by simp⟩
    | cons c left =>
      cases more
      exact absurd (by simp) quote

theorem beginsLow_quote {body rest : List Char} : BeginsLow (body ++ '"' :: rest) ↔ BeginsLow body := by
  constructor
  · rintro ⟨hex, n, tail, same, unit, low⟩
    match body with
    | [] => cases same
    | [_] => cases same
    | a :: b :: body =>
      simp only [List.cons_append, List.cons.injEq] at same
      obtain ⟨rfl, rfl, same⟩ := same
      obtain ⟨left, rfl⟩ := unit.within same.symm
      exact ⟨hex, n, left, rfl, unit, low⟩
  · rintro ⟨hex, n, tail, rfl, unit, low⟩
    exact ⟨hex, n, tail ++ '"' :: rest, by simp, unit, low⟩

theorem not_high_of_low {n : ℕ} (low : isLowHalf n = true) : isHighHalf n = false := by
  simp only [isLowHalf, isHighHalf, Bool.and_eq_true, decide_eq_true_eq, Bool.and_eq_false_imp, decide_eq_false_iff_not]
    at low ⊢
  omega

section

variable {hex hex' rest : List Char} {n m : ℕ}

theorem unicodeEscape?_unit (unit : IsUnit hex n) (high : isHighHalf n = false) (low : isLowHalf n = false) :
    unicodeEscape? (hex ++ rest) = some (Char.ofNat n, rest) := by
  simp [unicodeEscape?, unit.reads, high, low]

theorem unicodeEscape?_pair (unit : IsUnit hex n) (high : isHighHalf n = true) (unit' : IsUnit hex' m)
    (low : isLowHalf m = true) : unicodeEscape? (hex ++ '\\' :: 'u' :: (hex' ++ rest)) =
      some (joined n m, rest) := by
  unfold joined
  simp [unicodeEscape?, unit.reads, high, unit'.reads, low]

theorem unicodeEscape?_half (unit : IsUnit hex n)
    (half : isLowHalf n = true ∨ isHighHalf n = true ∧ ¬ BeginsLow rest) :
    unicodeEscape? (hex ++ rest) = some (replacement, rest) := by
  rcases half with low | ⟨high, alone⟩
  · simp [unicodeEscape?, unit.reads, not_high_of_low low, low]
  · simp only [unicodeEscape?, unit.reads, Option.bind_eq_bind, Option.bind_some, high, if_true]
    split
    · rename_i tail
      cases read : hex4? tail with
      | none => rfl
      | some found =>
        obtain ⟨m, left⟩ := found
        obtain ⟨hex', rfl, unit'⟩ := hex4?_some read
        have other : isLowHalf m = false := by
          rw [Bool.eq_false_iff]
          exact fun low => alone ⟨hex', m, left, rfl, unit', low⟩
        simp [other]
    · rfl

theorem unicodeEscape?_some {cs : List Char} {c : Char} (read : unicodeEscape? cs = some (c, rest)) :
    (∃ hex n, cs = hex ++ rest ∧ IsUnit hex n ∧ isHighHalf n = false ∧ isLowHalf n = false ∧ c = Char.ofNat n) ∨
    (∃ hex n hex' m, cs = hex ++ '\\' :: 'u' :: (hex' ++ rest) ∧ IsUnit hex n ∧ isHighHalf n = true ∧
      IsUnit hex' m ∧ isLowHalf m = true ∧ c = joined n m) ∨
    ∃ hex n, cs = hex ++ rest ∧ IsUnit hex n ∧ (isLowHalf n = true ∨ isHighHalf n = true ∧ ¬ BeginsLow rest) ∧
      c = replacement := by
  obtain ⟨⟨n, left⟩, first, -⟩ := Option.bind_eq_some_iff.mp read
  obtain ⟨hex, rfl, unit⟩ := hex4?_some first
  cases high : isHighHalf n with
  | false =>
    cases low : isLowHalf n with
    | false =>
      cases read.symm.trans (unicodeEscape?_unit unit high low)
      exact .inl ⟨hex, n, rfl, unit, high, low, rfl⟩
    | true =>
      cases read.symm.trans (unicodeEscape?_half unit (.inl low))
      exact .inr (.inr ⟨hex, n, rfl, unit, .inl low, rfl⟩)
  | true =>
    by_cases paired : BeginsLow left
    · obtain ⟨hex', m, tail, rfl, unit', low⟩ := paired
      cases read.symm.trans (unicodeEscape?_pair unit high unit' low)
      exact .inr (.inl ⟨hex, n, hex', m, rfl, unit, high, unit', low, rfl⟩)
    · cases read.symm.trans (unicodeEscape?_half unit (.inr ⟨high, paired⟩))
      exact .inr (.inr ⟨hex, n, rfl, unit, .inr ⟨high, paired⟩, rfl⟩)

end

theorem readString_escape {cs rest : List Char} {d : Char} (escape : unicodeEscape? cs = some (d, rest)) (fuel : ℕ) :
    readString (fuel + 1) ('\\' :: 'u' :: cs) =
      (readString fuel rest).map fun found => (d :: found.1, found.2) := by
  rw [readString.eq_def]
  simp only [Char.reduceBEq, Bool.false_eq_true, if_false, Char.reduceToNat, Nat.reduceLT, if_true, escape,
    Option.bind_eq_bind, Option.bind_some]
  cases readString fuel rest <;> rfl

theorem Spells.reads {body ds : List Char} (spells : Spells body ds) {fuel : ℕ} (enough : body.length < fuel)
    (rest : List Char) : readString fuel (body ++ '"' :: rest) = some (ds, rest) := by
  induction spells generalizing fuel with
  | done =>
    obtain ⟨fuel, rfl⟩ := Nat.exists_eq_succ_of_ne_zero (Nat.ne_of_gt enough)
    rfl
  | plain quote backslash control _ ih =>
    obtain ⟨fuel, rfl⟩ : ∃ k, fuel = k + 1 := Nat.exists_eq_succ_of_ne_zero (by omega)
    rw [List.cons_append, readString_other quote control backslash, ih (Nat.lt_of_succ_lt_succ enough)]
    rfl
  | escape escape _ ih =>
    obtain ⟨fuel, rfl⟩ : ∃ k, fuel = k + 1 := Nat.exists_eq_succ_of_ne_zero (by omega)
    simp only [List.length_cons] at enough
    rw [List.cons_append, List.cons_append, readString_escaped escape, ih (by omega)]
    rfl
  | unit unit high low _ ih =>
    obtain ⟨fuel, rfl⟩ : ∃ k, fuel = k + 1 := Nat.exists_eq_succ_of_ne_zero (by omega)
    simp only [List.length_cons, List.length_append] at enough
    rw [List.cons_append, List.cons_append, List.append_assoc, readString_escape (unicodeEscape?_unit unit high low),
      ih (by omega)]
    rfl
  | pair unit high unit' low _ ih =>
    obtain ⟨fuel, rfl⟩ : ∃ k, fuel = k + 1 := Nat.exists_eq_succ_of_ne_zero (by omega)
    simp only [List.length_cons, List.length_append] at enough
    rw [List.cons_append, List.cons_append, List.append_assoc, List.cons_append, List.cons_append, List.append_assoc,
      readString_escape (unicodeEscape?_pair unit high unit' low), ih (by omega)]
    rfl
  | half unit half _ ih =>
    obtain ⟨fuel, rfl⟩ : ∃ k, fuel = k + 1 := Nat.exists_eq_succ_of_ne_zero (by omega)
    simp only [List.length_cons, List.length_append] at enough
    rw [← @beginsLow_quote _ rest] at half
    rw [List.cons_append, List.cons_append, List.append_assoc, readString_escape (unicodeEscape?_half unit half),
      ih (by omega)]
    rfl

theorem readString_some {fuel : ℕ} {cs ds rest : List Char} (read : readString fuel cs = some (ds, rest)) :
    ∃ body, cs = body ++ '"' :: rest ∧ Spells body ds := by
  induction fuel generalizing cs ds with
  | zero =>
    rw [readString.eq_def] at read
    cases read
  | succ fuel ih =>
    rw [readString.eq_def] at read
    cases cs with
    | nil => cases read
    | cons c cs =>
      dsimp only at read
      split at read
      · rename_i quote
        cases read
        exact ⟨[], by rw [beq_iff_eq.mp quote]; rfl, .done⟩
      · rename_i quote
        split at read
        · cases read
        · rename_i control
          split at read
          · rename_i backslash
            rw [beq_iff_eq.mp backslash]
            split at read
            · rename_i tail
              obtain ⟨⟨d, left⟩, escape, read⟩ := Option.bind_eq_some_iff.mp read
              obtain ⟨⟨text, last⟩, inner, made⟩ := Option.bind_eq_some_iff.mp read
              cases made
              obtain ⟨body, rfl, spells⟩ := ih inner
              rcases unicodeEscape?_some escape with ⟨hex, n, rfl, unit, high, low, rfl⟩ |
                ⟨hex, n, hex', m, rfl, unit, high, unit', low, rfl⟩ | ⟨hex, n, rfl, unit, half, rfl⟩
              · exact ⟨'\\' :: 'u' :: (hex ++ body), by simp, .unit unit high low spells⟩
              · exact ⟨'\\' :: 'u' :: (hex ++ '\\' :: 'u' :: (hex' ++ body)), by simp,
                  .pair unit high unit' low spells⟩
              · rw [beginsLow_quote] at half
                exact ⟨'\\' :: 'u' :: (hex ++ body), by simp, .half unit half spells⟩
            · rename_i e tail _
              obtain ⟨d, escape, read⟩ := Option.bind_eq_some_iff.mp read
              obtain ⟨⟨text, last⟩, inner, made⟩ := Option.bind_eq_some_iff.mp read
              cases made
              obtain ⟨body, rfl, spells⟩ := ih inner
              exact ⟨'\\' :: e :: body, rfl, .escape escape spells⟩
            · cases read
          · rename_i backslash
            obtain ⟨⟨text, last⟩, inner, made⟩ := Option.bind_eq_some_iff.mp read
            cases made
            obtain ⟨body, rfl, spells⟩ := ih inner
            exact ⟨c :: body, rfl, .plain (by simpa using quote) (by simpa using backslash) control spells⟩

/-! ### Numbers -/

theorem span_some {cs : List Char} : ∃ ds rest, cs = ds ++ rest ∧ (∀ c ∈ ds, c.isDigit = true) ∧
    cs.takeWhile Char.isDigit = ds ∧ cs.dropWhile Char.isDigit = rest :=
  ⟨_, _, (List.takeWhile_append_dropWhile ..).symm, fun _ member => List.mem_takeWhile_imp member, rfl, rfl⟩

theorem IsWhole.reads {whole rest : List Char} (plain : IsWhole whole) (other : EndsDigits rest) :
    readWhole (whole ++ rest) = some (whole, rest) := by
  obtain ⟨d, ds, rfl⟩ := List.exists_cons_of_ne_nil plain.digits.1
  by_cases zero : d = '0'
  · rw [plain.zero (by rw [zero]; rfl)]
    rfl
  · exact readWhole_positive plain.digits.2 zero other

theorem readWhole_some {cs whole rest : List Char} (read : readWhole cs = some (whole, rest)) :
    cs = whole ++ rest ∧ IsWhole whole := by
  unfold readWhole at read
  split at read
  · cases read
    exact ⟨rfl, ⟨by simp, by simp⟩, fun _ => rfl⟩
  · rename_i other
    dsimp only at read
    split at read
    · cases read
    · rename_i filled
      cases read
      obtain ⟨ds, rest, same, digits, taken, left⟩ := @span_some cs
      rw [taken] at filled ⊢
      rw [left]
      refine ⟨same, ⟨by simpa using filled, digits⟩, ?_⟩
      intro zero
      obtain ⟨tail, rfl⟩ : ∃ tail, ds = '0' :: tail := List.head?_eq_some_iff.mp zero
      exact absurd same (other (tail ++ rest))

theorem Fraction.reads {text ds rest : List Char} (fraction : Fraction text ds) (digits : EndsDigits rest)
    (point : ∀ c ∈ rest.head?, c ≠ '.') : readFraction (text ++ rest) = (ds, rest) := by
  cases fraction with
  | none => exact readFraction_none point
  | digits filled => exact readFraction_digits filled digits

theorem readFraction_some {cs ds rest : List Char} (read : readFraction cs = (ds, rest)) :
    ∃ text, cs = text ++ rest ∧ Fraction text ds := by
  unfold readFraction at read
  split at read
  · rename_i tail
    obtain ⟨run, left, same, digits, taken, after⟩ := @span_some tail
    rw [taken, after] at read
    dsimp only at read
    split at read
    · cases read
      exact ⟨[], rfl, .none⟩
    · rename_i filled
      cases read
      exact ⟨'.' :: ds, by rw [same]; rfl, .digits ⟨by simpa using filled, digits⟩⟩
  · cases read
    exact ⟨[], rfl, .none⟩

theorem splitSign_run {sign ds : List Char} {negative : Bool} (known : (sign, negative) ∈ signs) (digits : AreDigits ds)
    (rest : List Char) : splitSign (sign ++ (ds ++ rest)) = (negative, ds ++ rest) := by
  obtain ⟨d, tail, rfl⟩ := List.exists_cons_of_ne_nil digits.1
  simp only [signs, List.mem_cons, List.not_mem_nil, or_false, Prod.mk.injEq] at known
  rcases known with ⟨rfl, rfl⟩ | ⟨rfl, rfl⟩ | ⟨rfl, rfl⟩
  · exact splitSign_digit (digits.2 d List.mem_cons_self) _
  · rfl
  · rfl

theorem splitSign_some {cs tail : List Char} {negative : Bool} (split : splitSign cs = (negative, tail)) :
    ∃ sign, (sign, negative) ∈ signs ∧ cs = sign ++ tail := by
  unfold splitSign at split
  split at split
  · cases split
    exact ⟨['-'], by decide, rfl⟩
  · cases split
    exact ⟨['+'], by decide, rfl⟩
  · cases split
    exact ⟨[], by decide, rfl⟩

theorem Exponent.reads {text rest : List Char} {e : Option ℤ} (exponent : Exponent text e) (ends : EndsNumber rest) :
    readExponent (text ++ rest) = (e, rest) := by
  cases exponent with
  | none => exact ends.exponent
  | @digits mark sign ds negative marks known digits =>
    obtain ⟨taken, left⟩ := digits_span digits.2 ends.digits
    have filled : ds.isEmpty = false := by simpa using digits.1
    have split := splitSign_run known digits rest
    have marked : (mark == 'e' || mark == 'E') = true := by simpa using marks
    rw [List.cons_append, List.append_assoc]
    simp only [readExponent, marked, if_true, split, taken, left, filled, Bool.false_eq_true, if_false]
    rfl

theorem readExponent_some {cs rest : List Char} {e : Option ℤ} (read : readExponent cs = (e, rest)) :
    ∃ text, cs = text ++ rest ∧ Exponent text e := by
  unfold readExponent at read
  split at read
  · rename_i mark tail
    split at read
    · rename_i marks
      obtain ⟨negative, run, signed⟩ : ∃ negative run, splitSign tail = (negative, run) := ⟨_, _, rfl⟩
      obtain ⟨sign, known, rfl⟩ := splitSign_some signed
      obtain ⟨ds, left, rfl, digits, taken, after⟩ := @span_some run
      rw [signed] at read
      dsimp only at read
      rw [taken, after] at read
      split at read
      · cases read
        exact ⟨[], rfl, .none⟩
      · rename_i filled
        cases read
        exact ⟨mark :: (sign ++ ds), by simp, .digits (by simpa using marks) known ⟨by simpa using filled, digits⟩⟩
    · cases read
      exact ⟨[], rfl, .none⟩
  · cases read
    exact ⟨[], rfl, .none⟩

theorem Fraction.ends {text ds rest : List Char} (fraction : Fraction text ds) (other : EndsDigits rest) :
    EndsDigits (text ++ rest) := by
  cases fraction with
  | none => exact other
  | digits => exact fun c head => by cases head; decide

theorem Exponent.ends {text rest : List Char} {e : Option ℤ} (exponent : Exponent text e) (ends : EndsNumber rest) :
    EndsDigits (text ++ rest) ∧ ∀ c ∈ (text ++ rest).head?, c ≠ '.' := by
  cases exponent with
  | none => exact ⟨ends.digits, fun c head => (ends c head).2.1⟩
  | digits marks =>
    refine ⟨fun c head => ?_, fun c head => ?_⟩
    all_goals
      cases head
      rcases marks with rfl | rfl <;> decide

/-- A number is an integer if it has neither a fraction nor an exponent. -/
theorem isInteger_iff {fraction exponent ds : List Char} {e : Option ℤ} (digits : Fraction fraction ds)
    (power : Exponent exponent e) : (ds.isEmpty && e.isNone) = true ↔ fraction ++ exponent = [] := by
  cases digits with
  | none => cases power <;> simp
  | digits filled =>
    have some := filled.1
    simp [some]

theorem Number.reads {negative : Bool} {cs rest : List Char} {v : Value} (number : Number negative cs v)
    (ends : EndsNumber rest) : readNumber negative (cs ++ rest) = some (v, rest) := by
  cases number with
  | integer plain short =>
    have whole := plain.reads ends.digits
    have fraction := Fraction.none.reads ends.digits fun c head => (ends c head).2.1
    have exponent := Exponent.none.reads ends
    rw [List.nil_append] at fraction exponent
    simp only [readNumber, whole, Option.bind_eq_bind, Option.bind_some, fraction, exponent, List.isEmpty_nil,
      Option.isNone_none, Bool.and_self, if_true, if_neg (Nat.not_lt.mpr short)]
    rfl
  | @double whole fraction exponent ds e plain digits power some =>
    obtain ⟨other, point⟩ := power.ends ends
    have float : (ds.isEmpty && e.isNone) = false := Bool.eq_false_iff.mpr (mt (isInteger_iff digits power).mp some)
    rw [List.append_assoc, List.append_assoc]
    exact readNumber_float negative (plain.reads (digits.ends other)) (digits.reads other point) (power.reads ends) float

theorem readNumber_some {negative : Bool} {cs rest : List Char} {v : Value}
    (read : readNumber negative cs = some (v, rest)) : ∃ text, cs = text ++ rest ∧ Number negative text v := by
  obtain ⟨⟨whole, tail⟩, first, parsed⟩ := Option.bind_eq_some_iff.mp read
  obtain ⟨rfl, plain⟩ := readWhole_some first
  obtain ⟨ds, left, second⟩ : ∃ ds left, readFraction tail = (ds, left) := ⟨_, _, rfl⟩
  obtain ⟨e, last, third⟩ : ∃ e last, readExponent left = (e, last) := ⟨_, _, rfl⟩
  obtain ⟨fraction, rfl, digits⟩ := readFraction_some second
  obtain ⟨exponent, rfl, power⟩ := readExponent_some third
  simp only [second, third] at parsed
  split at parsed
  · rename_i integer
    split at parsed
    · cases parsed
    · rename_i short
      cases parsed
      have none := (isInteger_iff digits power).mp integer
      rw [← List.append_assoc fraction, none, List.nil_append]
      exact ⟨whole, rfl, .integer plain (Nat.not_lt.mp short)⟩
  · rename_i float
    cases parsed
    exact ⟨whole ++ (fraction ++ exponent), by simp, .double plain digits power (mt (isInteger_iff digits power).mpr float)⟩

/-! ### Values -/

theorem exists_gap (cs : List Char) : ∃ gap, AreSpaces gap ∧ cs = gap ++ skipSpace cs :=
  ⟨cs.takeWhile isSpace, fun _ member => List.mem_takeWhile_imp member, (List.takeWhile_append_dropWhile ..).symm⟩

theorem skipSpace_spaces {gap : List Char} (blank : AreSpaces gap) {c : Char} (visible : isSpace c = false)
    (cs : List Char) : skipSpace (gap ++ c :: cs) = c :: cs := by
  induction gap with
  | nil => exact skipSpace_visible visible cs
  | cons d gap ih =>
    rw [List.cons_append, skipSpace, List.dropWhile_cons_of_pos (blank d List.mem_cons_self)]
    exact ih fun c member => blank c (List.mem_cons_of_mem _ member)

theorem skipSpace_all {gap : List Char} (blank : AreSpaces gap) : skipSpace gap = [] :=
  List.dropWhile_eq_nil_iff.mpr blank

theorem readWord_some {cs rest : List Char} {v : Value} (read : readWord cs = some (v, rest)) :
    ∃ word, (word, v) ∈ words ∧ cs = word.toList ++ rest := by
  have read : words.findSome? (fun entry => (afterWord? entry.1 cs).map (entry.2, ·)) = some (v, rest) := read
  obtain ⟨⟨word, w⟩, known, found⟩ := List.exists_of_findSome?_eq_some read
  obtain ⟨left, after, same⟩ := Option.map_eq_some_iff.mp found
  cases same
  unfold afterWord? at after
  split at after
  · rename_i front
    cases after
    obtain ⟨tail, rfl⟩ := List.isPrefixOf_iff_prefix.mp front
    refine ⟨word, known, ?_⟩
    rw [← String.length_toList, List.drop_left]
  · cases after

section

variable {fuel : ℕ}

/-- What is read with so much fuel has the meaning that is read. -/
structure Sound (fuel : ℕ) : Prop where
  value : ∀ {cs v rest}, readValue fuel cs = some (v, rest) → ∃ text, cs = text ++ rest ∧ Denotes text v
  items : ∀ {cs vs rest}, readItems fuel cs = some (vs, rest) → ∃ items, cs = items ++ ']' :: rest ∧ Items items vs
  pairs : ∀ {cs entries rest}, readPairs fuel cs = some (entries, rest) →
    ∃ pairs, cs = pairs ++ '\x7d' :: rest ∧ Pairs pairs entries

theorem readItems_some (sound : Sound fuel) {cs rest : List Char} {vs : List Value}
    (read : readItems (fuel + 1) cs = some (vs, rest)) : ∃ items, cs = items ++ ']' :: rest ∧ Items items vs := by
  rw [readItems.eq_def] at read
  obtain ⟨⟨v, left⟩, first, onward⟩ := Option.bind_eq_some_iff.mp read
  obtain ⟨text, rfl, value⟩ := sound.value first
  obtain ⟨gap, blank, same⟩ := exists_gap left
  dsimp only at onward
  split at onward
  · rename_i tail close
    cases onward
    refine ⟨text ++ gap, ?_, .last value blank⟩
    rw [same, close, List.append_assoc]
  · rename_i tail comma
    obtain ⟨⟨others, last⟩, more, made⟩ := Option.bind_eq_some_iff.mp onward
    cases made
    obtain ⟨gap', blank', same'⟩ := exists_gap tail
    obtain ⟨items, after, members⟩ := sound.items more
    refine ⟨text ++ (gap ++ ',' :: (gap' ++ items)), ?_, .more value blank blank' members⟩
    rw [same, comma, same', after]
    simp
  · cases onward

theorem readPairs_some (sound : Sound fuel) {cs rest : List Char} {entries : List (String × Value)}
    (read : readPairs (fuel + 1) cs = some (entries, rest)) :
    ∃ pairs, cs = pairs ++ '\x7d' :: rest ∧ Pairs pairs entries := by
  rw [readPairs.eq_def] at read
  dsimp only at read
  split at read
  · rename_i tail
    obtain ⟨⟨key, left⟩, quoted, onward⟩ := Option.bind_eq_some_iff.mp read
    obtain ⟨body, rfl, spells⟩ := readString_some quoted
    obtain ⟨gap, blank, same⟩ := exists_gap left
    dsimp only at onward
    split at onward
    · rename_i next colon
      obtain ⟨⟨v, left⟩, first, onward⟩ := Option.bind_eq_some_iff.mp onward
      obtain ⟨gap', blank', same'⟩ := exists_gap next
      obtain ⟨text, after, value⟩ := sound.value first
      have pair := Pair.intro spells blank blank' value
      obtain ⟨trail, blank, end'⟩ := exists_gap left
      rw [same, colon, same', after]
      dsimp only at onward
      split at onward
      · rename_i rest close
        cases onward
        refine ⟨_, ?_, .last pair blank⟩
        rw [end', close]
        simp
      · rename_i rest comma
        obtain ⟨⟨others, last⟩, more, made⟩ := Option.bind_eq_some_iff.mp onward
        cases made
        obtain ⟨lead, blank', start⟩ := exists_gap rest
        obtain ⟨pairs, after, members⟩ := sound.pairs more
        refine ⟨_, ?_, .more pair blank blank' members⟩
        rw [end', comma, start, after]
        simp
      · cases onward
    · cases onward
  · cases read

theorem readValue_some (sound : Sound fuel) {cs rest : List Char} {v : Value}
    (read : readValue (fuel + 1) cs = some (v, rest)) : ∃ text, cs = text ++ rest ∧ Denotes text v := by
  rw [readValue.eq_def] at read
  dsimp only at read
  split at read
  · cases read
  · rename_i tail
    obtain ⟨⟨cs, left⟩, quoted, made⟩ := Option.bind_eq_some_iff.mp read
    cases made
    obtain ⟨body, rfl, spells⟩ := readString_some quoted
    exact ⟨'"' :: (body ++ ['"']), by simp, .string spells⟩
  · rename_i tail
    obtain ⟨gap, blank, same⟩ := exists_gap tail
    split at read
    · rename_i left close
      cases read
      refine ⟨'[' :: (gap ++ [']']), ?_, .emptyList blank⟩
      rw [same, close]
      simp
    · obtain ⟨⟨vs, left⟩, inner, made⟩ := Option.bind_eq_some_iff.mp read
      cases made
      obtain ⟨items, after, members⟩ := sound.items inner
      refine ⟨'[' :: (gap ++ (items ++ [']'])), ?_, .list blank members⟩
      rw [same, after]
      simp
  · rename_i tail
    obtain ⟨gap, blank, same⟩ := exists_gap tail
    split at read
    · rename_i left close
      cases read
      refine ⟨'\x7b' :: (gap ++ ['\x7d']), ?_, .emptyObject blank⟩
      rw [same, close]
      simp
    · obtain ⟨⟨entries, left⟩, inner, made⟩ := Option.bind_eq_some_iff.mp read
      cases made
      obtain ⟨pairs, after, members⟩ := sound.pairs inner
      refine ⟨'\x7b' :: (gap ++ (pairs ++ ['\x7d'])), ?_, .object blank members⟩
      rw [same, after]
      simp
  · rename_i c tail _ _ _
    split at read
    · rename_i found word
      cases read
      obtain ⟨word, known, same⟩ := readWord_some word
      exact ⟨word.toList, same, .word known⟩
    · split at read
      · rename_i minus
        obtain ⟨text, rfl, number⟩ := readNumber_some read
        exact ⟨'-' :: text, by rw [beq_iff_eq.mp minus]; rfl, .negative number⟩
      · obtain ⟨text, same, number⟩ := readNumber_some read
        exact ⟨text, same, .number number⟩

theorem sound (fuel : ℕ) : Sound fuel := by
  induction fuel with
  | zero =>
    refine ⟨fun read => ?_, fun read => ?_, fun read => ?_⟩
    · rw [readValue.eq_def] at read
      cases read
    · rw [readItems.eq_def] at read
      cases read
    · rw [readPairs.eq_def] at read
      cases read
  | succ fuel ih => exact ⟨readValue_some ih, readItems_some ih, readPairs_some ih⟩

end

/-! ### Texts of the grammar are read -/

theorem space_ends {c : Char} (blank : isSpace c = true) : c.isDigit = false ∧ c ≠ '.' ∧ c ≠ 'e' ∧ c ≠ 'E' := by
  simp only [isSpace, Bool.or_eq_true, beq_iff_eq] at blank
  rcases blank with ((rfl | rfl) | rfl) | rfl <;> decide

theorem endsNumber_spaces {gap rest : List Char} (blank : AreSpaces gap) (ends : EndsNumber rest) :
    EndsNumber (gap ++ rest) := by
  cases gap with
  | nil => exact ends
  | cons c gap =>
    intro d head
    cases head
    exact space_ends (blank c List.mem_cons_self)

theorem endsNumber_mark {c : Char} (mark : c = ',' ∨ c = ']' ∨ c = '\x7d') (rest : List Char) :
    EndsNumber (c :: rest) := by
  intro d head
  cases head
  rcases mark with rfl | rfl | rfl <;> decide

theorem BeginsValue.append {text : List Char} (begins : BeginsValue text) (rest : List Char) :
    BeginsValue (text ++ rest) := by
  obtain ⟨c, cs, rfl, visible⟩ := begins
  exact ⟨c, cs ++ rest, rfl, visible⟩

theorem BeginsValue.skip {text gap : List Char} (begins : BeginsValue text) (blank : AreSpaces gap) :
    skipSpace (gap ++ text) = text := by
  obtain ⟨c, cs, rfl, visible, -⟩ := begins
  exact skipSpace_spaces blank visible cs

theorem written_word {word : String} {v : Value} (known : (word, v) ∈ words) : Written word.toList v := by
  simp only [words, List.mem_cons, List.not_mem_nil, or_false, Prod.mk.injEq] at known
  rcases known with ⟨rfl, rfl⟩ | ⟨rfl, rfl⟩ | ⟨rfl, rfl⟩ | ⟨rfl, rfl⟩ | ⟨rfl, rfl⟩ | ⟨rfl, rfl⟩
  all_goals exact written_of_reads ⟨_, _, rfl, by decide⟩ fun _ _ _ _ => rfl

theorem written_spelled {body cs : List Char} (spells : Spells body cs) :
    Written ('"' :: (body ++ ['"'])) (.str (String.ofList cs)) := by
  apply written_of_reads ⟨'"', _, rfl, by decide⟩
  intro fuel rest enough ends
  simp only [List.length_cons, List.length_append, List.length_nil] at enough
  have read := spells.reads (by omega : body.length < fuel) rest
  rw [List.cons_append, List.append_assoc, readValue.eq_def]
  change ((readString fuel (body ++ '"' :: rest)).bind fun found =>
    some (Value.str (String.ofList found.1), found.2)) = _
  rw [read, Option.bind_some]

theorem written_emptyList {gap : List Char} (blank : AreSpaces gap) : Written ('[' :: (gap ++ [']'])) (.list []) := by
  apply written_of_reads ⟨'[', _, rfl, by decide⟩
  intro fuel rest enough ends
  have close := skipSpace_spaces blank (by decide : isSpace ']' = false) rest
  rw [List.cons_append, List.append_assoc, readValue.eq_def]
  simp only [List.singleton_append, close]

theorem written_emptyObject {gap : List Char} (blank : AreSpaces gap) :
    Written ('\x7b' :: (gap ++ ['\x7d'])) (.dict []) := by
  apply written_of_reads ⟨'\x7b', _, rfl, by decide⟩
  intro fuel rest enough ends
  have close := skipSpace_spaces blank (by decide : isSpace '\x7d' = false) rest
  rw [List.cons_append, List.append_assoc, readValue.eq_def]
  simp only [List.singleton_append, close]

/-- Reading the text gives the members of a list, up to the bracket that closes it. -/
structure ReadAsItems (text : List Char) (vs : List Value) : Prop where
  begins : BeginsValue text
  reads : ∀ fuel rest, text.length < fuel → readItems fuel (text ++ ']' :: rest) = some (vs, rest)

structure ReadAsPairs (text : List Char) (entries : List (String × Value)) : Prop where
  begins : BeginsValue text
  reads : ∀ fuel rest, text.length < fuel → readPairs fuel (text ++ '\x7d' :: rest) = some (entries, rest)

/-- What an object goes on with after an entry. -/
def afterPair (fuel : ℕ) (entry : String × Value) (tail : List Char) : Option (List (String × Value) × List Char) :=
  match skipSpace tail with
  | '\x7d' :: rest => some ([entry], rest)
  | ',' :: rest => (readPairs fuel (skipSpace rest)).bind fun found => some (entry :: found.1, found.2)
  | _ => none

/-- Reading the text gives an entry, and what follows decides whether others come. -/
structure ReadAsPair (text : List Char) (entry : String × Value) : Prop where
  begins : BeginsValue text
  reads : ∀ fuel tail, text.length ≤ fuel → EndsNumber tail →
    readPairs (fuel + 1) (text ++ tail) = afterPair fuel entry tail

theorem readAsItems_last {text gap : List Char} {v : Value} (written : Written text v) (blank : AreSpaces gap) :
    ReadAsItems (text ++ gap) [v] := by
  refine ⟨written.begins.append gap, ?_⟩
  intro fuel rest enough
  obtain ⟨fuel, rfl⟩ : ∃ k, fuel = k + 1 := Nat.exists_eq_succ_of_ne_zero (by omega)
  rw [List.length_append] at enough
  have read := written.reads fuel (gap ++ ']' :: rest) (by omega) (endsNumber_spaces blank (endsNumber_mark (by simp) _))
  rw [List.append_assoc, readItems, read]
  simp only [Option.bind_eq_bind, Option.bind_some, skipSpace_spaces blank (by decide : isSpace ']' = false)]

theorem readAsItems_more {text gap gap' items : List Char} {v : Value} {vs : List Value} (written : Written text v)
    (blank : AreSpaces gap) (blank' : AreSpaces gap') (others : ReadAsItems items vs) :
    ReadAsItems (text ++ (gap ++ ',' :: (gap' ++ items))) (v :: vs) := by
  refine ⟨written.begins.append _, ?_⟩
  intro fuel rest enough
  obtain ⟨fuel, rfl⟩ : ∃ k, fuel = k + 1 := Nat.exists_eq_succ_of_ne_zero (by omega)
  simp only [List.length_append, List.length_cons] at enough
  have read := written.reads fuel (gap ++ ',' :: (gap' ++ (items ++ ']' :: rest))) (by omega)
    (endsNumber_spaces blank (endsNumber_mark (by simp) _))
  have starts := (others.begins.append (']' :: rest)).skip blank'
  have shown : text ++ (gap ++ ',' :: (gap' ++ items)) ++ ']' :: rest =
      text ++ (gap ++ ',' :: (gap' ++ (items ++ ']' :: rest))) := by simp
  rw [shown, readItems, read]
  simp only [Option.bind_eq_bind, Option.bind_some, skipSpace_spaces blank (by decide : isSpace ',' = false), starts,
    others.reads fuel rest (by omega)]

theorem readAsPair {body key gap gap' text : List Char} {v : Value} (spells : Spells body key) (blank : AreSpaces gap)
    (blank' : AreSpaces gap') (written : Written text v) :
    ReadAsPair ('"' :: (body ++ '"' :: (gap ++ ':' :: (gap' ++ text)))) (String.ofList key, v) := by
  refine ⟨⟨'"', _, rfl, by decide⟩, ?_⟩
  intro fuel tail enough ends
  simp only [List.length_append, List.length_cons] at enough
  have name := spells.reads (by omega : body.length < fuel) (gap ++ ':' :: (gap' ++ (text ++ tail)))
  have value := written.reads fuel tail (by omega) ends
  have starts := (written.begins.append tail).skip blank'
  have shown : '"' :: (body ++ '"' :: (gap ++ ':' :: (gap' ++ text))) ++ tail =
      '"' :: (body ++ '"' :: (gap ++ ':' :: (gap' ++ (text ++ tail)))) := by simp
  rw [shown, readPairs.eq_def]
  simp only [name, Option.bind_eq_bind, Option.bind_some, skipSpace_spaces blank (by decide : isSpace ':' = false),
    starts, value]
  rfl

theorem readAsPairs_last {text gap : List Char} {entry : String × Value} (pair : ReadAsPair text entry)
    (blank : AreSpaces gap) : ReadAsPairs (text ++ gap) [entry] := by
  refine ⟨pair.begins.append gap, ?_⟩
  intro fuel rest enough
  obtain ⟨fuel, rfl⟩ : ∃ k, fuel = k + 1 := Nat.exists_eq_succ_of_ne_zero (by omega)
  rw [List.length_append] at enough
  have read := pair.reads fuel (gap ++ '\x7d' :: rest) (by omega) (endsNumber_spaces blank (endsNumber_mark (by simp) _))
  rw [List.append_assoc, read, afterPair, skipSpace_spaces blank (by decide)]
  rfl

theorem readAsPairs_more {text gap gap' pairs : List Char} {entry : String × Value} {entries : List (String × Value)}
    (pair : ReadAsPair text entry) (blank : AreSpaces gap) (blank' : AreSpaces gap') (others : ReadAsPairs pairs entries) :
    ReadAsPairs (text ++ (gap ++ ',' :: (gap' ++ pairs))) (entry :: entries) := by
  refine ⟨pair.begins.append _, ?_⟩
  intro fuel rest enough
  obtain ⟨fuel, rfl⟩ : ∃ k, fuel = k + 1 := Nat.exists_eq_succ_of_ne_zero (by omega)
  simp only [List.length_append, List.length_cons] at enough
  have read := pair.reads fuel (gap ++ ',' :: (gap' ++ (pairs ++ '\x7d' :: rest))) (by omega)
    (endsNumber_spaces blank (endsNumber_mark (by simp) _))
  have starts := (others.begins.append ('\x7d' :: rest)).skip blank'
  have shown : text ++ (gap ++ ',' :: (gap' ++ pairs)) ++ '\x7d' :: rest =
      text ++ (gap ++ ',' :: (gap' ++ (pairs ++ '\x7d' :: rest))) := by simp
  rw [shown, read, afterPair, skipSpace_spaces blank (by decide)]
  simp only [starts, others.reads fuel rest (by omega), Option.bind_some]

theorem written_items {gap items : List Char} {vs : List Value} (blank : AreSpaces gap) (inner : ReadAsItems items vs) :
    Written ('[' :: (gap ++ (items ++ [']']))) (.list vs) := by
  apply written_of_reads ⟨'[', _, rfl, by decide⟩
  intro fuel rest enough ends
  simp only [List.length_cons, List.length_append, List.length_nil] at enough
  have read := inner.reads fuel rest (by omega)
  obtain ⟨c, cs, rfl, visible, close, -⟩ := inner.begins
  have shown : '[' :: (gap ++ (c :: cs ++ [']'])) ++ rest = '[' :: (gap ++ c :: (cs ++ ']' :: rest)) := by simp
  rw [shown, readValue_list (skipSpace_spaces blank visible _) close, ← List.cons_append, read]
  rfl

theorem written_pairs {gap pairs : List Char} {entries : List (String × Value)} (blank : AreSpaces gap)
    (inner : ReadAsPairs pairs entries) :
    Written ('\x7b' :: (gap ++ (pairs ++ ['\x7d']))) (.dict (Entries.collect entries)) := by
  apply written_of_reads ⟨'\x7b', _, rfl, by decide⟩
  intro fuel rest enough ends
  simp only [List.length_cons, List.length_append, List.length_nil] at enough
  have read := inner.reads fuel rest (by omega)
  obtain ⟨c, cs, rfl, visible, -, close⟩ := inner.begins
  have shown : '\x7b' :: (gap ++ (c :: cs ++ ['\x7d'])) ++ rest = '\x7b' :: (gap ++ c :: (cs ++ '\x7d' :: rest)) := by simp
  rw [shown, readValue_object (skipSpace_spaces blank visible _) close, ← List.cons_append, read]
  rfl

mutual

theorem Denotes.written {text : List Char} {v : Value} : Denotes text v → Written text v
  | .word known => written_word known
  | .number number => written_number fun _ ends => number.reads ends
  | .negative number => written_number fun _ ends => number.reads ends
  | .string spells => written_spelled spells
  | .emptyList blank => written_emptyList blank
  | .list blank members => written_items blank members.reads
  | .emptyObject blank => written_emptyObject blank
  | .object blank members => written_pairs blank members.reads

theorem Items.reads {text : List Char} {vs : List Value} : Items text vs → ReadAsItems text vs
  | .last value blank => readAsItems_last value.written blank
  | .more value blank blank' rest => readAsItems_more value.written blank blank' rest.reads

theorem Pair.reads {text : List Char} {entry : String × Value} : Pair text entry → ReadAsPair text entry
  | .intro spells blank blank' value => readAsPair spells blank blank' value.written

theorem Pairs.reads {text : List Char} {entries : List (String × Value)} : Pairs text entries → ReadAsPairs text entries
  | .last pair blank => readAsPairs_last pair.reads blank
  | .more pair blank blank' rest => readAsPairs_more pair.reads blank blank' rest.reads

end

/-- The reader accepts just the texts that the grammar gives a meaning, and reads that meaning. -/
theorem parse?_iff {cs : List Char} {v : Value} : parse? cs = some v ↔ Means cs v := by
  constructor
  · intro read
    obtain ⟨before, blank, same⟩ := exists_gap cs
    obtain ⟨⟨w, rest⟩, value, ending⟩ := Option.bind_eq_some_iff.mp read
    obtain ⟨text, whole, denotes⟩ := (sound _).value value
    dsimp only at ending
    split at ending
    · rename_i none
      cases ending
      refine ⟨before, text, rest, by rw [← whole]; exact same, blank, ?_, denotes⟩
      exact List.dropWhile_eq_nil_iff.mp (List.isEmpty_iff.mp none)
    · cases ending
  · rintro ⟨before, text, after, rfl, blank, blank', denotes⟩
    have written := denotes.written
    have nothing : EndsNumber [] := by simp [EndsNumber]
    have ends := endsNumber_spaces blank' nothing
    rw [List.append_nil] at ends
    have read := written.reads (2 * (before ++ (text ++ after)).length + 2) after
      (by simp only [List.length_append]; omega) ends
    rw [parse?, (written.begins.append after).skip blank, read]
    simp only [Option.bind_eq_bind, Option.bind_some, skipSpace_all blank', List.isEmpty_nil, if_true]

end BrowserFlow.Json
