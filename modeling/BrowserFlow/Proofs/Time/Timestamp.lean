import BrowserFlow.Proofs.Time.Calendar
import BrowserFlow.Proofs.Time.HeaderText
import BrowserFlow.Proofs.Decimal.Power
import BrowserFlow.Script.Summary
import Mathlib.Data.List.TakeDrop
import Mathlib.Tactic.ByContra

/-!
The time of a script header is read back to the millisecond, from year 1000 on, where years have four digits.
-/

namespace BrowserFlow

namespace Iso8601

theorem digits?_add (first second acc : Nat) (cs : List Char) :
    digits? (first + second) acc cs = (digits? first acc cs).bind fun (value, rest) => digits? second value rest := by
  induction first generalizing acc cs with
  | zero => simp [digits?]
  | succ first ih =>
    rw [Nat.succ_add]
    cases cs with
    | nil => rfl
    | cons c cs =>
      rw [digits?, digits?]
      split
      · exact ih _ _
      · rfl

theorem digits?_digits (width acc n : Nat) (rest : List Char) :
    digits? width acc (Instant.digits width n ++ rest) = some (acc * tenTo width + n % tenTo width, rest) := by
  induction width generalizing n rest with
  | zero => simp [digits?, Instant.digits, Nat.mod_one]
  | succ width ih =>
    have small : n % 10 < 10 := Nat.mod_lt n (by decide)
    have digit : (Nat.digitChar (n % 10)).isDigit = true := by
      rw [Nat.isDigit_digitChar]
      exact decide_eq_true small
    have value : (Nat.digitChar (n % 10)).toNat - 0x30 = n % 10 := Nat.toNat_digitChar_sub_48_of_lt_ten small
    have whole : n % tenTo (width + 1) = n % 10 + 10 * (n / 10 % tenTo width) := by
      rw [tenTo_succ, Nat.mod_mul]
    rw [Instant.digits, List.append_assoc, digits?_add, ih]
    simp only [Option.bind_some, List.singleton_append, digits?, digit, value, if_true]
    rw [whole, tenTo_succ]
    congr 2
    grind

theorem digits?_fitting {width n : Nat} (fits : n < tenTo width) (rest : List Char) :
    digits? width 0 (Instant.digits width n ++ rest) = some (n, rest) := by
  rw [digits?_digits, Nat.mod_eq_of_lt fits, Nat.zero_mul, Nat.zero_add]

theorem digits?_few {width : Nat} {ds : List Char} (few : ds.length < width) (acc : Nat) {c : Char}
    (mark : c.isDigit = false) (rest : List Char) : digits? width acc (ds ++ c :: rest) = none := by
  induction ds generalizing width acc with
  | nil =>
    obtain ⟨width, rfl⟩ := Nat.exists_eq_succ_of_ne_zero (Nat.ne_of_gt few)
    simp [digits?, mark]
  | cons d ds ih =>
    obtain ⟨width, rfl⟩ := Nat.exists_eq_succ_of_ne_zero (Nat.ne_of_gt (Nat.zero_lt_of_lt few))
    have fewer : ds.length < width := Nat.lt_of_succ_lt_succ few
    rw [List.cons_append, digits?]
    split
    · exact ih fewer _
    · rfl

theorem head_digits (width n : Nat) (rest : List Char) :
    (head (Instant.digits (width + 1) n ++ rest)).isDigit = true := by
  have all := Instant.digits_areDigits (width + 1) n
  cases same : Instant.digits (width + 1) n with
  | nil => simp [Instant.digits] at same
  | cons c cs => exact all c (by simp [same])

theorem digit_beq {c d : Char} (digit : c.isDigit = true) (mark : d.isDigit = false) : (c == d) = false := by
  apply beq_eq_false_iff_ne.mpr
  rintro rfl
  cases digit.symm.trans mark

theorem head_digits_beq {mark : Char} (other : mark.isDigit = false) (width n : Nat) (rest : List Char) :
    (head (Instant.digits (width + 1) n ++ rest) == mark) = false :=
  digit_beq (head_digits width n rest) other

@[simp] theorem length_digits (width n : Nat) : (Instant.digits width n).length = width := by
  induction width generalizing n with
  | zero => rfl
  | succ width ih => simp [Instant.digits, ih]

theorem encode_ascii (cs : List Char) (ascii : ∀ c ∈ cs, c.toNat < 0x80) : (Utf8.encode cs).length = cs.length := by
  induction cs with
  | nil => rfl
  | cons c cs ih =>
    have head := ascii c (by simp)
    have tail := ih fun d member => ascii d (List.mem_cons_of_mem _ member)
    have one : Utf8.encodeChar c = [c.toNat.toUInt8] := by simp [Utf8.encodeChar, head]
    rw [Utf8.encode] at tail ⊢
    rw [List.flatMap_cons, List.length_append, tail, one]
    simp only [List.length_cons, List.length_nil]
    omega

theorem digits_ascii (width n : Nat) : ∀ c ∈ Instant.digits width n, c.toNat < 0x80 := by
  intro c member
  have range := Text.digit_range (Instant.digits_areDigits width n c member)
  omega

theorem date?_text (d : Calendar.Date) (hy : d.year < 10000) (hm : d.month < 100) (hd : d.day < 100)
    (rest : List Char) : date? 10 (Instant.digits 4 d.year ++ '-' ::
      (Instant.digits 2 d.month ++ '-' :: (Instant.digits 2 d.day ++ rest))) = some d := by
  have year : digits? 4 0 (Instant.digits 4 d.year ++ '-' ::
      (Instant.digits 2 d.month ++ '-' :: (Instant.digits 2 d.day ++ rest))) = some (d.year, '-' ::
        (Instant.digits 2 d.month ++ '-' :: (Instant.digits 2 d.day ++ rest))) := by
    exact digits?_fitting hy _
  have month : digits? 2 0 (Instant.digits 2 d.month ++ '-' :: (Instant.digits 2 d.day ++ rest)) =
      some (d.month, '-' :: (Instant.digits 2 d.day ++ rest)) := by
    exact digits?_fitting hm _
  have day : digits? 2 0 (Instant.digits 2 d.day ++ rest) = some (d.day, rest) := by
    exact digits?_fitting hd _
  have noWeek := head_digits_beq (show 'W'.isDigit = false by decide) 1 d.month ('-' :: (Instant.digits 2 d.day ++ rest))
  have dash (cs : List Char) : (head ('-' :: cs) == '-') = true := rfl
  simp only [date?, year, Option.bind_eq_bind, Option.bind_some, dash, if_true, List.drop_succ_cons, List.drop_zero,
    noWeek, Bool.false_eq_true, if_false, month, day, beq_self_eq_true]

theorem clockParts_colon (parts : List Nat) (left : Nat) {n : Nat} (more : 3 < n) {value : Nat} (hv : value < 100)
    (rest : List Char) : clockParts true parts (left + 1) n (Instant.digits 2 value ++ ':' :: rest) =
      clockParts true (value :: parts) left (n - 3) rest := by
  have read : digits? 2 0 (Instant.digits 2 value ++ ':' :: rest) = some (value, ':' :: rest) := by
    exact digits?_fitting hv _
  have colon : head (':' :: rest) = ':' := rfl
  have notLast : ¬ n ≤ 3 := by omega
  rw [clockParts, read]
  simp [colon, notLast]

theorem clockParts_fraction {parts : List Nat} (started : parts ≠ []) (left : Nat) {n : Nat} (more : 3 < n)
    {value : Nat} (hv : value < 100) (rest : List Char) :
    clockParts true parts (left + 1) n (Instant.digits 2 value ++ '.' :: rest) =
      (fraction? (n - 3) rest).bind fun (micro, remains) => clockParts.finish (value :: parts) micro remains := by
  have read : digits? 2 0 (Instant.digits 2 value ++ '.' :: rest) = some (value, '.' :: rest) := by
    exact digits?_fitting hv _
  have point : head ('.' :: rest) = '.' := rfl
  have notLast : ¬ n ≤ 3 := by omega
  rw [clockParts, read]
  simp [point, notLast, started]

theorem fraction?_digits {ms : Nat} (hm : ms < 1000) {c : Char} (after : c.isDigit = false) (seen : c ≠ Char.ofNat 0)
    (rest : List Char) : fraction? 3 (Instant.digits 3 ms ++ c :: rest) = some (ms * 1000, true) := by
  have read : digits? 3 0 (Instant.digits 3 ms ++ c :: rest) = some (ms, c :: rest) := by
    exact digits?_fitting hm _
  simp [fraction?, read, after, head, seen, tenTo]

/-- A time of day as a header shows it, without its offset. -/
def clockText (h m s ms : Nat) : List Char :=
  Instant.digits 2 h ++ ':' :: (Instant.digits 2 m ++ ':' :: (Instant.digits 2 s ++ '.' :: Instant.digits 3 ms))

theorem clockText_append (h m s ms : Nat) (rest : List Char) : Instant.digits 2 h ++ ':' :: (Instant.digits 2 m ++ ':' ::
    (Instant.digits 2 s ++ '.' :: (Instant.digits 3 ms ++ rest))) = clockText h m s ms ++ rest := by simp [clockText]

theorem clockText_characters {h m s ms : Nat} : ∀ c ∈ clockText h m s ms, c.isDigit = true ∨ c = ':' ∨ c = '.' := by
  intro c member
  simp only [clockText, List.mem_append, List.mem_cons] at member
  have digit (width n : Nat) : c ∈ Instant.digits width n → c.isDigit = true := Instant.digits_areDigits width n c
  grind

theorem length_clockText (h m s ms : Nat) : (Utf8.encode (clockText h m s ms)).length = 12 := by
  have ascii : ∀ c ∈ clockText h m s ms, c.toNat < 0x80 := by
    intro c member
    rcases clockText_characters c member with digit | rfl | rfl
    · have range := Text.digit_range digit
      omega
    · decide
    · decide
  rw [encode_ascii _ ascii]
  simp [clockText]

/-- None of its characters begins an offset. -/
theorem clockText_plain {h m s ms : Nat} :
    ∀ c ∈ clockText h m s ms, (!(c == '+' || c == '-' || c == 'Z')) = true := by
  intro c member
  rcases clockText_characters c member with digit | rfl | rfl
  · rw [digit_beq digit (show '+'.isDigit = false by decide), digit_beq digit (show '-'.isDigit = false by decide),
      digit_beq digit (show 'Z'.isDigit = false by decide)]
    rfl
  · rfl
  · rfl

theorem clockParts_text {h m s ms : Nat} (hh : h < 100) (hm : m < 100) (hs : s < 100) (hms : ms < 1000)
    (rest : List Char) : clockParts true [] 3 12 (clockText h m s ms ++ '+' :: rest) = some ⟨h, m, s, ms * 1000, true⟩ := by
  rw [← clockText_append, clockParts_colon [] 2 (by decide) hh, clockParts_colon [h] 1 (by decide) hm,
    clockParts_fraction (by simp) 0 (by decide) hs, fraction?_digits hms (by decide) (by decide)]
  rfl

theorem time?_text {h m s ms : Nat} (hh : h < 100) (hm : m < 100) (hs : s < 100) (hms : ms < 1000) :
    time? (Instant.digits 2 h ++ ':' :: (Instant.digits 2 m ++ ':' :: (Instant.digits 2 s ++ '.' ::
      (Instant.digits 3 ms ++ "+00:00".toList)))) = some (⟨h, m, s, ms * 1000, true⟩, some 0) := by
  have offset : "+00:00".toList = '+' :: "00:00".toList := rfl
  have taken : (clockText h m s ms ++ '+' :: "00:00".toList).takeWhile (fun c => !(c == '+' || c == '-' || c == 'Z')) =
      clockText h m s ms := by
    rw [List.takeWhile_append_of_pos clockText_plain, List.takeWhile_cons_of_neg (by simp), List.append_nil]
  have left : (clockText h m s ms ++ '+' :: "00:00".toList).dropWhile (fun c => !(c == '+' || c == '-' || c == 'Z')) =
      '+' :: "00:00".toList := by
    rw [List.dropWhile_append_of_pos clockText_plain, List.dropWhile_cons_of_neg (by simp)]
  have clock := clockParts_text hh hm hs hms "00:00".toList
  have zone : clockParts true [] 3 (Utf8.encode ['0', '0', ':', '0', '0']).length ['0', '0', ':', '0', '0'] =
      some ⟨0, 0, 0, 0, false⟩ := by rfl
  rw [clockText_append, offset, time?]
  simp only [List.span_eq_takeWhile_dropWhile, taken, left, length_clockText, clock, Option.bind_eq_bind,
    Option.bind_some]
  simp [zone]

theorem read?_text (d : Calendar.Date) (late : d.year < 10000) (valid : d.isValid = true) {h m s ms : Nat}
    (hh : h < 24) (hm : m < 60) (hs : s < 60) (hms : ms < 1000) :
    read? (Instant.digits 4 d.year ++ '-' :: (Instant.digits 2 d.month ++ '-' :: (Instant.digits 2 d.day ++ 'T' ::
      (Instant.digits 2 h ++ ':' :: (Instant.digits 2 m ++ ':' :: (Instant.digits 2 s ++ '.' ::
        (Instant.digits 3 ms ++ "+00:00".toList))))))) =
      some ⟨(Instant.ofDate d (((h * 60 + m) * 60 + s) * 1000000 + ms * 1000)).micros, some 0⟩ := by
  obtain ⟨month, day⟩ : d.month < 100 ∧ d.day < 100 := by
    have ⟨_, ⟨_, twelve⟩, _, last⟩ := Calendar.Date.isValid_iff.mp valid
    have short := Calendar.monthLength_le d.year (d.month - 1)
    omega
  generalize clock : Instant.digits 2 h ++ ':' :: (Instant.digits 2 m ++ ':' :: (Instant.digits 2 s ++ '.' ::
    (Instant.digits 3 ms ++ "+00:00".toList))) = time
  have timed : time? time = some (⟨h, m, s, ms * 1000, true⟩, some 0) := by
    rw [← clock]
    exact time?_text (by omega) (by omega) (by omega) hms
  have dated := date?_text d late month day ('T' :: time)
  generalize text : Instant.digits 4 d.year ++ '-' :: (Instant.digits 2 d.month ++ '-' :: (Instant.digits 2 d.day ++
    'T' :: time)) = cs at dated ⊢
  have size : (Utf8.encode cs).length = 29 := by
    have ascii : ∀ c ∈ cs, c.toNat < 0x80 := by
      rw [← text, ← clock]
      simp only [List.forall_mem_append, List.forall_mem_cons]
      exact ⟨digits_ascii 4 _, by decide, digits_ascii 2 _, by decide, digits_ascii 2 _, by decide, digits_ascii 2 _,
        by decide, digits_ascii 2 _, by decide, digits_ascii 2 _, by decide, digits_ascii 3 _, by simp⟩
    rw [encode_ascii cs ascii, ← text, ← clock]
    simp
  have four : cs.drop 4 = '-' :: (Instant.digits 2 d.month ++ '-' :: (Instant.digits 2 d.day ++ 'T' :: time)) := by
    rw [← text]
    exact List.drop_left' (length_digits 4 d.year)
  have five : cs.drop 5 = Instant.digits 2 d.month ++ '-' :: (Instant.digits 2 d.day ++ 'T' :: time) := by
    rw [show 5 = 4 + 1 from rfl, ← List.drop_drop, four]
    rfl
  have ten : cs.drop 10 = 'T' :: time := by
    have front : cs = (Instant.digits 4 d.year ++ '-' :: (Instant.digits 2 d.month ++ '-' ::
        Instant.digits 2 d.day)) ++ 'T' :: time := by simp [← text]
    rw [front]
    exact List.drop_left' (by simp)
  have noWeek : (head (cs.drop 5) == 'W') = false := by
    rw [five]
    exact head_digits_beq (by decide) 1 d.month _
  have part : datePartLength? cs = some 10 := by
    have dash : head (cs.drop 4) = '-' := by rw [four]; rfl
    simp [datePartLength?, size, dash, noWeek]
  simp only [read?, part, Option.bind_eq_bind, Option.bind_some, dated, ten, List.isEmpty_cons, Bool.false_eq_true,
    if_false, List.drop_succ_cons, List.drop_zero, timed, valid, hh, hm, hs]
  simp

end Iso8601

namespace Instant

/-- The instant without the part of it below a millisecond. -/
def toMillisecond (t : Instant) : Instant := ⟨t.micros - t.micros % 1000⟩

theorem toList_year {year : Nat} (first : 1000 ≤ year) (last : year ≤ 9999) :
    (toString year).toList = digits 4 year := by
  rw [Nat.toString_eq_repr, Nat.toList_repr, Nat.toDigits_of_base_le (by decide) (by omega),
    Nat.toDigits_of_base_le (by decide) (by omega), Nat.toDigits_of_base_le (by decide) (by omega),
    Nat.toDigits_of_lt_base (by omega)]
  have top : year / 10 / 10 / 10 % 10 = year / 10 / 10 / 10 := by omega
  simp [digits, top]

theorem headerText_digits {t : Instant} (first : 1000 ≤ t.date.year) (last : t.date.year ≤ 9999) :
    t.headerText.toList = digits 4 t.date.year ++ '-' :: (digits 2 t.date.month ++ '-' :: (digits 2 t.date.day ++ 'T' ::
      (digits 2 t.hour ++ ':' :: (digits 2 t.minute ++ ':' :: (digits 2 t.second ++ '.' ::
        (digits 3 (t.microsecond / 1000) ++ ['Z'])))))) := by
  rw [headerText, monthToSecond, String.toList_ofList, toList_year first last]
  simp

theorem day_positive {t : Instant} (first : 1000 ≤ t.date.year) : 1 ≤ t.micros / microsPerDay + epochDay := by
  by_contra early
  have zero : (t.micros / microsPerDay + epochDay).toNat = 0 := by omega
  rw [date, zero] at first
  exact absurd first (by decide)

theorem ofDate_date {t : Instant} (first : 1000 ≤ t.date.year) :
    ofDate t.date (((t.hour * 60 + t.minute) * 60 + t.second) * 1000000 + t.microsecond / 1000 * 1000) =
      t.toMillisecond := by
  have positive := day_positive first
  have number := (Calendar.Date.ofNumber_spec (t.micros / microsPerDay + epochDay).toNat (by omega)).1
  have clock : ((t.hour * 60 + t.minute) * 60 + t.second) * 1000000 + t.microsecond / 1000 * 1000 =
      t.timeOfDay - t.timeOfDay % 1000 := by
    simp only [hour, minute, second, microsecond]
    omega
  have day : (t.date.number : Int) = t.micros / microsPerDay + epochDay := by
    rw [date, number]
    omega
  rw [ofDate, toMillisecond, clock, day, timeOfDay]
  simp only [microsPerDay, Instant.mk.injEq]
  omega

theorem toMillisecond_isRepresentable {t : Instant} (first : 1000 ≤ t.date.year) (last : t.date.year ≤ 9999) :
    t.toMillisecond.isRepresentable = true := by
  have positive := day_positive first
  have bound := Calendar.number_le last
  simp only [microsPerDay, epochDay] at positive bound
  rw [isRepresentable, toMillisecond, Bool.and_eq_true]
  dsimp only
  constructor
  · apply decide_eq_true
    omega
  · apply decide_eq_true
    omega

end Instant

namespace Script

theorem readTimestamp_headerText {t : Instant} (first : 1000 ≤ t.date.year) (last : t.date.year ≤ 9999) {cs : List Char}
    (text : Text.trim cs = t.headerText.toList) : readTimestamp cs = .ok t.toMillisecond := by
  have positive := Instant.day_positive first
  have valid := (Calendar.Date.ofNumber_spec (t.micros / Instant.microsPerDay + Instant.epochDay).toNat
    (by omega)).2 last
  have hour : t.hour < 24 := by
    simp only [Instant.hour, Instant.timeOfDay, Instant.microsPerDay]
    omega
  have minute : t.minute < 60 := Nat.mod_lt _ (by decide)
  have second : t.second < 60 := Nat.mod_lt _ (by decide)
  have ms : t.microsecond / 1000 < 1000 := by
    simp only [Instant.microsecond]
    omega
  have read := Iso8601.read?_text t.date (by omega) valid hour minute second ms
  generalize front : Instant.digits 4 t.date.year ++ '-' :: (Instant.digits 2 t.date.month ++ '-' ::
    (Instant.digits 2 t.date.day ++ 'T' :: (Instant.digits 2 t.hour ++ ':' :: (Instant.digits 2 t.minute ++ ':' ::
      (Instant.digits 2 t.second ++ '.' :: Instant.digits 3 (t.microsecond / 1000)))))) = date
  have shape : t.headerText.toList = date ++ ['Z'] := by simp [Instant.headerText_digits first last, ← front]
  have zone : Iso8601.read? (date ++ "+00:00".toList) = some ⟨t.toMillisecond.micros, some 0⟩ := by
    rw [← Instant.ofDate_date first, ← read, ← front]
    simp
  have representable := Instant.toMillisecond_isRepresentable first last
  have mark : (date ++ ['Z']).getLast? = some 'Z' := by simp
  rw [readTimestamp, text, shape]
  simp only [mark, beq_self_eq_true, if_true, List.dropLast_concat, zone, Option.getD_some, Int.sub_zero, representable]

theorem readTimestamp_early {t : Instant} (early : t.date.year < 1000) {cs : List Char}
    (text : Text.trim cs = t.headerText.toList) : readTimestamp cs = .ok .epoch := by
  have few : (toString t.date.year).toList.length < 4 := by
    have bound := (Nat.length_toDigits_le_iff (k := 3) (n := t.date.year) (b := 10) (by decide) (by decide)).mpr early
    rw [Nat.toString_eq_repr, Nat.toList_repr]
    omega
  obtain ⟨rest, shape⟩ : ∃ rest, t.headerText.toList = (toString t.date.year).toList ++ '-' :: (rest ++ ['Z']) := by
    rw [Instant.headerText, String.toList_ofList]
    exact ⟨t.monthToSecond 'T' ':' ++ '.' :: Instant.digits 3 (t.microsecond / 1000), by simp⟩
  have year : Iso8601.digits? 4 0 ((toString t.date.year).toList ++ '-' :: (rest ++ "+00:00".toList)) = none :=
    Iso8601.digits?_few few 0 (by decide) _
  have whole : (toString t.date.year).toList ++ '-' :: (rest ++ ['Z']) =
      ((toString t.date.year).toList ++ '-' :: rest) ++ ['Z'] := by simp
  have none : Iso8601.read? ((toString t.date.year).toList ++ '-' :: (rest ++ "+00:00".toList)) = none := by
    rw [Iso8601.read?]
    cases Iso8601.datePartLength? ((toString t.date.year).toList ++ '-' :: (rest ++ "+00:00".toList)) with
    | none => rfl
    | some length =>
      rw [Option.bind_eq_bind, Option.bind_some, Iso8601.date?, year]
      rfl
  rw [readTimestamp, text, shape, whole]
  simp only [List.getLast?_concat, beq_self_eq_true, if_true, List.dropLast_concat]
  rw [List.append_assoc, List.cons_append, none]

theorem readTimestamp_total {t : Instant} (last : t.date.year ≤ 9999) : ∃ u : Instant, ∀ cs : List Char,
    Text.trim cs = t.headerText.toList → readTimestamp cs = .ok u := by
  by_cases first : 1000 ≤ t.date.year
  · exact ⟨_, fun cs text => readTimestamp_headerText first last text⟩
  · exact ⟨_, fun cs text => readTimestamp_early (Nat.lt_of_not_le first) text⟩

end Script

end BrowserFlow
