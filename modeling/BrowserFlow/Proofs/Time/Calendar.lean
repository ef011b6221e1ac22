import BrowserFlow.Time.Calendar
import Mathlib.Data.Nat.Init
import Mathlib.Tactic.ByContra
import Mathlib.Tactic.SplitIfs

/-!
The numbers of days and the dates of the calendar are in step: a number has one date, and every date is that of its
number.
-/

namespace BrowserFlow.Calendar

def yearLength (year : Nat) : Nat := if isLeap year then 366 else 365

/-- A day number as four hundred years, centuries, cycles of four years, years and days. The last day of a long
    cycle is the 366th of its last year. -/
theorem yearOf_parts (n : Nat) : ∃ quarters centuries cycles years days,
    yearOf n = (400 * quarters + 100 * centuries + 4 * cycles + years + 1, days) ∧
    n = 146097 * quarters + 36524 * centuries + 1461 * cycles + 365 * years + days ∧
    centuries ≤ 3 ∧ cycles ≤ 24 ∧ years ≤ 3 ∧
    (days < 365 ∨ days = 365 ∧ years = 3 ∧ (cycles < 24 ∨ centuries = 3)) := by
  have century : n % 146097 - 36524 * min 3 (n % 146097 / 36524) < 36525 ∧
      (n % 146097 - 36524 * min 3 (n % 146097 / 36524) = 36524 → min 3 (n % 146097 / 36524) = 3) ∧
      n = 146097 * (n / 146097) + 36524 * min 3 (n % 146097 / 36524) +
        (n % 146097 - 36524 * min 3 (n % 146097 / 36524)) := by omega
  refine ⟨_, _, _, _, _, rfl, ?_, by omega, ?_, by omega, ?_⟩
  all_goals
    generalize n % 146097 - 36524 * min 3 (n % 146097 / 36524) = m at *
    omega

theorem daysBeforeYear_parts {quarters centuries cycles years : Nat} (hc : centuries ≤ 3) (hk : cycles ≤ 24)
    (hr : years ≤ 3) : daysBeforeYear (400 * quarters + 100 * centuries + 4 * cycles + years + 1) =
      146097 * quarters + 36524 * centuries + 1461 * cycles + 365 * years := by
  have fourth : (400 * quarters + 100 * centuries + 4 * cycles + years) / 4 =
      100 * quarters + 25 * centuries + cycles := by omega
  have hundredth : (400 * quarters + 100 * centuries + 4 * cycles + years) / 100 = 4 * quarters + centuries := by omega
  have quarter : (400 * quarters + 100 * centuries + 4 * cycles + years) / 400 = quarters := by omega
  simp only [daysBeforeYear, Nat.add_sub_cancel, fourth, hundredth, quarter]
  omega

/-- The days of the year before a day, and those of the years before its year, make up the day's number. -/
theorem yearOf_days (n : Nat) : daysBeforeYear (yearOf n).1 + (yearOf n).2 = n := by
  obtain ⟨quarters, centuries, cycles, years, days, same, total, hc, hk, hr, _⟩ := yearOf_parts n
  rw [same, daysBeforeYear_parts hc hk hr]
  omega

theorem yearOf_lt (n : Nat) : (yearOf n).2 < yearLength (yearOf n).1 := by
  obtain ⟨quarters, centuries, cycles, years, days, same, _, hc, hk, hr, short | ⟨rfl, rfl, long⟩⟩ := yearOf_parts n
  · rw [same, yearLength]
    split
    · dsimp only
      omega
    · exact short
  · have leap : isLeap (400 * quarters + 100 * centuries + 4 * cycles + 3 + 1) = true := by
      simp only [isLeap, Bool.and_eq_true, Bool.or_eq_true, beq_iff_eq, bne_iff_ne]
      omega
    rw [same, yearLength, leap, if_pos rfl]
    exact Nat.lt_succ_self 365

/-- So many days together. -/
def total (lengths : List Nat) : Nat := lengths.foldr (· + ·) 0

@[simp] theorem total_nil : total [] = 0 := rfl

@[simp] theorem total_cons (length : Nat) (lengths : List Nat) : total (length :: lengths) = length + total lengths := rfl

theorem total_monthLengths (year : Nat) : total (monthLengths year) = yearLength year := by
  cases leap : isLeap year <;> simp [monthLengths, yearLength, leap]

/-- A day within the months is a day of one of them, after all the days of the months before. -/
theorem findMonth_spec (month : Nat) (lengths : List Nat) (n : Nat) (within : n < total lengths) :
    ∃ i < lengths.length, (findMonth month lengths n).1 = month + i ∧ 1 ≤ (findMonth month lengths n).2 ∧
      (findMonth month lengths n).2 ≤ lengths.getD i 0 ∧
      total (lengths.take i) + (findMonth month lengths n).2 = n + 1 := by
  induction lengths generalizing month n with
  | nil => simp at within
  | cons length lengths ih =>
    rw [findMonth]
    split
    · exact ⟨0, by simp, by simp, by simp, by simp; omega, by simp⟩
    · have rest : n - length < total lengths := by
        rw [total_cons] at within
        omega
      obtain ⟨i, small, first, positive, bound, total⟩ := ih (month + 1) (n - length) rest
      refine ⟨i + 1, by simp; omega, by omega, positive, by simpa using bound, ?_⟩
      rw [List.take_succ_cons, total_cons]
      omega

theorem foldl_add (lengths : List Nat) (n : Nat) : lengths.foldl (· + ·) n = n + total lengths := by
  induction lengths generalizing n with
  | nil => simp
  | cons length lengths ih =>
    rw [List.foldl_cons, ih, total_cons]
    omega

theorem Date.ofNumber_spec (number : Nat) (positive : 1 ≤ number) :
    (Date.ofNumber number).number = number ∧
      ((Date.ofNumber number).year ≤ 9999 → (Date.ofNumber number).isValid = true) := by
  have within := yearOf_lt (number - 1)
  rw [← total_monthLengths] at within
  obtain ⟨i, small, month, first, bound, total⟩ := findMonth_spec 1 _ _ within
  have days := yearOf_days (number - 1)
  have positiveYear : 1 ≤ (yearOf (number - 1)).1 := by
    obtain ⟨_, _, _, _, _, same, _⟩ := yearOf_parts (number - 1)
    rw [same]
    exact Nat.le_add_left 1 _
  have twelve : (monthLengths (yearOf (number - 1)).1).length = 12 := rfl
  have back : 1 + i - 1 = i := by omega
  have whole : Date.ofNumber number = ⟨(yearOf (number - 1)).1, 1 + i,
      (findMonth 1 (monthLengths (yearOf (number - 1)).1) (yearOf (number - 1)).2).2⟩ := by
    rw [← month]
    rfl
  rw [whole]
  refine ⟨?_, fun late => ?_⟩
  · simp only [Date.number, foldl_add, back]
    omega
  · simp only [Date.isValid, back, Bool.and_eq_true, decide_eq_true_eq]
    refine ⟨⟨⟨⟨⟨positiveYear, late⟩, ?_⟩, ?_⟩, first⟩, bound⟩
    · omega
    · omega

/-- The last day of year 9999 bounds the numbers of all days up to it. -/
theorem number_le {number : Nat} (late : (Date.ofNumber number).year ≤ 9999) : number ≤ 3652059 := by
  obtain ⟨quarters, centuries, cycles, years, days, same, total, hc, hk, hr, long⟩ := yearOf_parts (number - 1)
  have year : (Date.ofNumber number).year = (yearOf (number - 1)).1 := rfl
  rw [year, same] at late
  dsimp only at late
  omega

/-- A day of a month tells the month and the day apart from all others of the year. -/
theorem total_take_inj {lengths : List Nat} {i j a b : Nat} (first : 1 ≤ a ∧ a ≤ lengths.getD i 0)
    (second : 1 ≤ b ∧ b ≤ lengths.getD j 0) (same : total (lengths.take i) + a = total (lengths.take j) + b) :
    i = j ∧ a = b := by
  induction lengths generalizing i j with
  | nil =>
    rw [List.getD_nil] at first
    omega
  | cons length lengths ih =>
    cases i with
    | zero =>
      cases j with
      | zero => simpa using same
      | succ j =>
        rw [List.getD_cons_zero] at first
        rw [List.take_zero, List.take_succ_cons, total_cons, total_nil] at same
        omega
    | succ i =>
      cases j with
      | zero =>
        rw [List.getD_cons_zero] at second
        rw [List.take_zero, List.take_succ_cons, total_cons, total_nil] at same
        omega
      | succ j =>
        rw [List.getD_cons_succ] at first second
        rw [List.take_succ_cons, List.take_succ_cons, total_cons, total_cons] at same
        obtain ⟨rfl, rfl⟩ := ih first second (by omega)
        exact ⟨rfl, rfl⟩

theorem total_take_le (lengths : List Nat) {i a : Nat} (day : a ≤ lengths.getD i 0) :
    total (lengths.take i) + a ≤ total lengths := by
  induction lengths generalizing i with
  | nil => simpa using day
  | cons length lengths ih =>
    cases i with
    | zero =>
      rw [List.getD_cons_zero] at day
      rw [List.take_zero, total_nil, total_cons]
      omega
    | succ i =>
      rw [List.getD_cons_succ] at day
      have rest := ih day
      rw [List.take_succ_cons, total_cons, total_cons]
      omega

theorem daysBeforeYear_succ {year : Nat} (positive : 1 ≤ year) :
    daysBeforeYear (year + 1) = daysBeforeYear year + yearLength year := by
  obtain ⟨y, rfl⟩ := Nat.exists_eq_add_of_le' positive
  have hundred : y / 100 ≤ y := Nat.div_le_self y 100
  simp only [daysBeforeYear, yearLength, isLeap, Nat.add_sub_cancel, Nat.succ_div, Bool.and_eq_true, Bool.or_eq_true,
    beq_iff_eq, bne_iff_ne, ← Nat.dvd_iff_mod_eq_zero]
  generalize y / 4 = fourths at *
  generalize y / 100 = hundredths at *
  generalize y / 400 = quarters at *
  split_ifs <;> omega

theorem daysBeforeYear_le {first second : Nat} (positive : 1 ≤ first) (order : first ≤ second) :
    daysBeforeYear first ≤ daysBeforeYear second := by
  induction second, order using Nat.le_induction with
  | base => exact Nat.le_refl _
  | succ second order ih =>
    rw [daysBeforeYear_succ (Nat.le_trans positive order)]
    omega

theorem monthLength_le (year i : Nat) : (monthLengths year).getD i 0 ≤ 31 := by
  have short : ∀ n ∈ monthLengths year, n ≤ 31 := by
    unfold monthLengths
    split <;> decide
  rw [List.getD_eq_getElem?_getD]
  cases found : (monthLengths year)[i]? with
  | none => exact Nat.zero_le _
  | some n => exact short n (List.mem_of_getElem? found)

/-- The days of its year up to and with a date. -/
def Date.dayOfYear (d : Date) : Nat := total ((monthLengths d.year).take (d.month - 1)) + d.day

theorem Date.number_eq (d : Date) : d.number = daysBeforeYear d.year + d.dayOfYear := by
  rw [number, foldl_add, dayOfYear]
  omega

theorem Date.isValid_iff {d : Date} : d.isValid = true ↔ (1 ≤ d.year ∧ d.year ≤ 9999) ∧ (1 ≤ d.month ∧ d.month ≤ 12) ∧
    1 ≤ d.day ∧ d.day ≤ (monthLengths d.year).getD (d.month - 1) 0 := by
  simp only [isValid, Bool.and_eq_true, decide_eq_true_eq, and_assoc]

theorem Date.number_range {d : Date} (valid : d.isValid = true) :
    daysBeforeYear d.year < d.number ∧ d.number ≤ daysBeforeYear (d.year + 1) := by
  obtain ⟨⟨positive, _⟩, _, first, last⟩ := isValid_iff.mp valid
  have within := total_take_le _ last
  rw [total_monthLengths] at within
  rw [number_eq, daysBeforeYear_succ positive, dayOfYear]
  omega

theorem Date.number_inj {d e : Date} (first : d.isValid = true) (second : e.isValid = true)
    (same : d.number = e.number) : d = e := by
  obtain ⟨before, upTo⟩ := number_range first
  obtain ⟨before', upTo'⟩ := number_range second
  have year : d.year = e.year := by
    rcases Nat.lt_trichotomy d.year e.year with less | year | more
    · have order := daysBeforeYear_le (Nat.le_add_left 1 _) (Nat.succ_le_of_lt less)
      omega
    · exact year
    · have order := daysBeforeYear_le (Nat.le_add_left 1 _) (Nat.succ_le_of_lt more)
      omega
  obtain ⟨_, ⟨positive, _⟩, day⟩ := isValid_iff.mp first
  obtain ⟨_, ⟨positive', _⟩, day'⟩ := isValid_iff.mp second
  rw [number_eq, number_eq, year, dayOfYear, dayOfYear, year] at same
  rw [year] at day
  obtain ⟨month, sameDay⟩ := total_take_inj day day' (by omega)
  cases d
  cases e
  simp only [Date.mk.injEq] at *
  omega

theorem Date.ofNumber_number {d : Date} (valid : d.isValid = true) : Date.ofNumber d.number = d := by
  obtain ⟨before, upTo⟩ := number_range valid
  obtain ⟨number, there⟩ := ofNumber_spec d.number (by omega)
  obtain ⟨⟨_, last⟩, _⟩ := isValid_iff.mp valid
  have late : (Date.ofNumber d.number).year ≤ 9999 := by
    have days := yearOf_days (d.number - 1)
    have year : (Date.ofNumber d.number).year = (yearOf (d.number - 1)).1 := rfl
    have bound : daysBeforeYear (d.year + 1) ≤ 3652059 := @daysBeforeYear_le _ 10000 (by omega) (by omega)
    by_contra later
    have beyond : 3652059 ≤ daysBeforeYear (yearOf (d.number - 1)).1 := @daysBeforeYear_le 10000 _ (by omega) (by omega)
    omega
  exact number_inj (there late) valid number

end BrowserFlow.Calendar
