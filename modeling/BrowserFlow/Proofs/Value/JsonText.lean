import BrowserFlow.Proofs.Value.JsonNumber
import BrowserFlow.Value.JsonText

/-!
Reading JSON text gives back the value that was written, also through a file, since the text has no carriage return.
-/

namespace BrowserFlow

theorem Entries.put_new {entries : Entries} {key : String} (new : key ∉ entries.map (·.1)) (v : Value) :
    Entries.put entries key v = entries ++ [(key, v)] := by
  induction entries with
  | nil => rfl
  | cons e es ih =>
    obtain ⟨k, w⟩ := e
    have other : (k == key) = false := by
      rw [beq_eq_false_iff_ne]
      rintro rfl
      exact new (by simp)
    rw [put, other, if_neg (by decide), ih fun member => new (List.mem_cons_of_mem _ member)]
    rfl

theorem Entries.collect_distinct {pairs : List (String × Value)} (distinct : (pairs.map (·.1)).Nodup) :
    Entries.collect pairs = pairs := by
  have from' (entries : Entries) (all : ((entries ++ pairs).map (·.1)).Nodup) :
      pairs.foldl (fun entries pair => Entries.put entries pair.1 pair.2) entries = entries ++ pairs := by
    induction pairs generalizing entries with
    | nil => simp
    | cons pair pairs ih =>
      have new : pair.1 ∉ entries.map (·.1) := by
        intro member
        rw [List.map_append, List.nodup_append] at all
        exact all.2.2 pair.1 member pair.1 (by simp) rfl
      have tail : (pairs.map (·.1)).Nodup := (List.nodup_cons.mp distinct).2
      have moved : entries ++ [(pair.1, pair.2)] ++ pairs = entries ++ pair :: pairs := by simp
      rw [List.foldl_cons, put_new new, ih tail _ (by rw [moved]; exact all), moved]
  exact from' [] distinct

/-- A value that JSON text can hold as it is: its doubles are finite, its integers no longer than are converted, and no
    key of an object comes twice. -/
inductive Value.Storable : Value → Prop
  | null : Storable .null
  | bool (b : Bool) : Storable (.bool b)
  | int {n : ℤ} (short : n.natAbs < tenTo Numeral.maxDigits) : Storable (.int n)
  | float {x : Float} {negative : Bool} {m : ℕ} {q : ℤ} (finite : Binary.ofFloat x = .finite negative m q) :
      Storable (.float x)
  | str (s : String) : Storable (.str s)
  | list {items : List Value} (all : ∀ v ∈ items, Storable v) : Storable (.list items)
  | dict {entries : Entries} (distinct : (entries.map (·.1)).Nodup) (all : ∀ e ∈ entries, Storable e.2) :
      Storable (.dict entries)

namespace Json

open Numeral

/-! ### Strings -/

theorem hexValue?_digitChar {d : ℕ} (small : d < 16) : hexValue? (Nat.digitChar d) = some d := by
  have all : ∀ d : Fin 16, hexValue? (Nat.digitChar d) = some d.val := by decide
  exact all ⟨d, small⟩

theorem hex4?_hexDigits {n : ℕ} (small : n < 65536) (rest : List Char) :
    hex4? (Text.hexDigits 4 n ++ rest) = some (n, rest) := by
  have value : n / 16 / 16 / 16 % 16 * 4096 + n / 16 / 16 % 16 * 256 + n / 16 % 16 * 16 + n % 16 = n := by omega
  simp [Text.hexDigits, hex4?, hexValue?_digitChar (Nat.mod_lt _ (by decide : 0 < 16)), value]

theorem unicodeEscape?_low {n : ℕ} (small : n < 0xD800) (rest : List Char) :
    unicodeEscape? (Text.hexDigits 4 n ++ rest) = some (Char.ofNat n, rest) := by
  have high : isHighHalf n = false := by
    simp [isHighHalf]
    omega
  have low : isLowHalf n = false := by
    simp [isLowHalf]
    omega
  simp [unicodeEscape?, hex4?_hexDigits (Nat.lt_trans small (by decide)), high, low]

theorem readString_escaped {e d : Char} (escape : simpleEscape? e = some d) (fuel : ℕ) (cs : List Char) :
    readString (fuel + 1) ('\\' :: e :: cs) = (readString fuel cs).map fun found => (d :: found.1, found.2) := by
  have other : e ≠ 'u' := by
    rintro rfl
    cases escape
  rw [readString.eq_def]
  simp only [Char.reduceBEq, Bool.false_eq_true, if_false, Char.reduceToNat, Nat.reduceLT, if_true, escape]
  cases readString fuel cs <;> rfl

theorem readString_unicode {n : ℕ} (small : n < 0xD800) (fuel : ℕ) (cs : List Char) :
    readString (fuel + 1) (unitEscape n ++ cs) =
      (readString fuel cs).map fun found => (Char.ofNat n :: found.1, found.2) := by
  change readString (fuel + 1) ('\\' :: 'u' :: (Text.hexDigits 4 n ++ cs)) = _
  rw [readString.eq_def]
  simp only [Char.reduceBEq, Bool.false_eq_true, if_false, Char.reduceToNat, Nat.reduceLT, if_true,
    unicodeEscape?_low small, Option.bind_eq_bind, Option.bind_some]
  cases readString fuel cs <;> rfl

theorem readString_other {c : Char} (quote : c ≠ '"') (control : ¬ c.toNat < 0x20) (backslash : c ≠ '\\') (fuel : ℕ)
    (cs : List Char) :
    readString (fuel + 1) (c :: cs) = (readString fuel cs).map fun found => (c :: found.1, found.2) := by
  rw [readString.eq_def]
  simp only [beq_eq_false_iff_ne.mpr quote, beq_eq_false_iff_ne.mpr backslash, Bool.false_eq_true, if_false,
    if_neg control]
  cases readString fuel cs <;> rfl

/-- The characters with an escape of their own. -/
theorem shortEscape?_char {c : Char} {escaped : List Char} (h : shortEscape? c = some escaped) :
    c ∈ ['"', '\\', '\n', '\r', '\t', Char.ofNat 8, Char.ofNat 12] := by
  by_contra other
  simp only [List.mem_cons, List.not_mem_nil, or_false, not_or] at other
  obtain ⟨quote, backslash, feed, carriage, tab, backspace, page⟩ := other
  have code {n : ℕ} (different : c ≠ Char.ofNat n) : c.toNat ≠ n := by
    rintro rfl
    exact different (Char.ofNat_toNat c).symm
  simp [shortEscape?, quote, backslash, feed, carriage, tab, code backspace, code page] at h

theorem shortEscape?_eq {c : Char} {escaped : List Char} (h : shortEscape? c = some escaped) :
    ∃ e, escaped = ['\\', e] ∧ simpleEscape? e = some c := by
  have special := shortEscape?_char h
  simp only [List.mem_cons, List.not_mem_nil, or_false] at special
  rcases special with rfl | rfl | rfl | rfl | rfl | rfl | rfl <;> cases h <;> exact ⟨_, rfl, rfl⟩

theorem readString_plainChar (c : Char) (fuel : ℕ) (cs : List Char) :
    readString (fuel + 1) (plainChar c ++ cs) = (readString fuel cs).map fun found => (c :: found.1, found.2) := by
  unfold plainChar
  split
  · rename_i escaped short
    obtain ⟨e, rfl, escape⟩ := shortEscape?_eq short
    exact readString_escaped escape fuel cs
  · rename_i none
    split
    · rename_i control
      rw [readString_unicode (by omega), Char.ofNat_toNat]
    · rename_i control
      refine readString_other ?_ control ?_ fuel cs
      · rintro rfl
        cases none
      · rintro rfl
        cases none

theorem readString_plain {cs : List Char} {fuel : ℕ} (enough : cs.length < fuel) (rest : List Char) :
    readString fuel (cs.flatMap plainChar ++ '"' :: rest) = some (cs, rest) := by
  induction cs generalizing fuel with
  | nil =>
    obtain ⟨fuel, rfl⟩ := Nat.exists_eq_add_of_lt enough
    rfl
  | cons c cs ih =>
    obtain ⟨fuel, rfl⟩ := Nat.exists_eq_add_of_lt enough
    have left : cs.length < (c :: cs).length + fuel := by
      rw [List.length_cons]
      omega
    rw [List.flatMap_cons, List.append_assoc, readString_plainChar, ih left]
    rfl

theorem plainChar_ne_nil (c : Char) : plainChar c ≠ [] := by
  unfold plainChar
  split
  · rename_i short
    obtain ⟨e, rfl, _⟩ := shortEscape?_eq short
    simp
  · split
    · simp [unitEscape]
    · simp

theorem length_plain (cs : List Char) : cs.length ≤ (cs.flatMap plainChar).length := by
  induction cs with
  | nil => exact Nat.le_refl 0
  | cons c cs ih =>
    have some := List.length_pos_iff.mpr (plainChar_ne_nil c)
    rw [List.flatMap_cons, List.length_append, List.length_cons]
    omega

theorem toList_plainString (s : String) : (plainString s).toList = '"' :: (s.toList.flatMap plainChar ++ ['"']) := by
  rw [plainString, String.toList_ofList]
  rfl

/-! ### Blank space -/

/-- The end of a line and the space before the next member. -/
def gap (depth : ℕ) : List Char := '\n' :: List.replicate (2 * depth) ' '

theorem skipSpace_visible {c : Char} (visible : isSpace c = false) (cs : List Char) :
    skipSpace (c :: cs) = c :: cs := by
  simp [skipSpace, visible]

theorem skipSpace_gap (depth : ℕ) {c : Char} (visible : isSpace c = false) (cs : List Char) :
    skipSpace (gap depth ++ c :: cs) = c :: cs := by
  have spaces (k : ℕ) : skipSpace (List.replicate k ' ' ++ c :: cs) = c :: cs := by
    induction k with
    | zero => exact skipSpace_visible visible cs
    | succ k ih => exact ih
  exact spaces (2 * depth)

theorem endsNumber_gap (depth : ℕ) (cs : List Char) : EndsNumber (gap depth ++ cs) := by
  intro c head
  cases head
  decide

theorem endsNumber_comma (cs : List Char) : EndsNumber (',' :: cs) := by
  intro c head
  cases head
  decide

theorem toList_block_nil (opening closing : String) (depth : ℕ) :
    (block opening closing depth []).toList = opening.toList ++ closing.toList := by
  rw [block, List.isEmpty_nil, if_pos rfl, String.toList_append]

theorem toList_block (opening closing : String) (depth : ℕ) {members : List String} (some : members ≠ []) :
    (block opening closing depth members).toList = opening.toList ++ (gap (depth + 1) ++
      ((',' :: gap (depth + 1)).intercalate (members.map String.toList) ++ (gap depth ++ closing.toList))) := by
  have shown : members.isEmpty = false := by simpa using some
  have spaces (k : ℕ) : ("".pushn ' ' k).toList = List.replicate k ' ' := by
    rw [Text.toList_pushn]
    rfl
  have deeper : 2 * (depth + 1) = 2 * depth + 2 := rfl
  rw [block, shown]
  simp [spaces, gap, deeper]

/-! ### Values -/

/-- The text begins with what is neither blank nor the end of a list or an object. -/
def BeginsValue (text : List Char) : Prop := ∃ c cs, text = c :: cs ∧ isSpace c = false ∧ c ≠ ']' ∧ c ≠ '\x7d'

/-- Reading the text gives the value, whatever follows it. -/
structure Written (text : List Char) (v : Value) : Prop where
  begins : BeginsValue text
  reads : ∀ fuel rest, text.length ≤ fuel → EndsNumber rest → readValue fuel (text ++ rest) = some (v, rest)

/-- A text is not empty, so there is fuel to begin with. -/
theorem written_of_reads {text : List Char} {v : Value} (begins : BeginsValue text)
    (reads : ∀ fuel rest, text.length ≤ fuel + 1 → EndsNumber rest →
      readValue (fuel + 1) (text ++ rest) = some (v, rest)) : Written text v := by
  refine ⟨begins, ?_⟩
  intro fuel rest enough ends
  obtain ⟨c, cs, same, _⟩ := begins
  cases fuel with
  | zero =>
    rw [same, List.length_cons] at enough
    omega
  | succ fuel => exact reads fuel rest enough ends

theorem digit_ne {d : Char} (digit : d.isDigit = true) {c : Char} (other : c.isDigit = false) : d ≠ c := by
  rintro rfl
  rw [digit] at other
  cases other

theorem readWord_digit {d : Char} (digit : d.isDigit = true) (cs : List Char) :
    readWord (d :: cs) = none ∧ readWord ('-' :: d :: cs) = none := by
  have n := digit_ne digit (by decide : 'n'.isDigit = false)
  have t := digit_ne digit (by decide : 't'.isDigit = false)
  have f := digit_ne digit (by decide : 'f'.isDigit = false)
  have nan := digit_ne digit (by decide : 'N'.isDigit = false)
  have infinity := digit_ne digit (by decide : 'I'.isDigit = false)
  have minus := digit_ne digit (by decide : '-'.isDigit = false)
  constructor
  · simp [readWord, afterWord?, n.symm, t.symm, f.symm, nan.symm, infinity.symm, minus.symm]
  · simp [readWord, afterWord?, infinity.symm]

theorem readValue_other {c : Char} (quote : c ≠ '"') (bracket : c ≠ '[') (brace : c ≠ '\x7b') (fuel : ℕ)
    (cs : List Char) : readValue (fuel + 1) (c :: cs) = match readWord (c :: cs) with
      | some found => some found
      | none => if c == '-' then readNumber true cs else readNumber false (c :: cs) := by
  rw [readValue.eq_def]
  dsimp only
  split
  · rename_i same
    cases same
  · rename_i same
    cases same
    exact absurd rfl quote
  · rename_i same
    cases same
    exact absurd rfl bracket
  · rename_i same
    cases same
    exact absurd rfl brace
  · rename_i same
    cases same
    rfl

theorem readValue_digit {d : Char} (digit : d.isDigit = true) (fuel : ℕ) (cs : List Char) :
    readValue (fuel + 1) (d :: cs) = readNumber false (d :: cs) ∧
    readValue (fuel + 1) ('-' :: d :: cs) = readNumber true (d :: cs) := by
  obtain ⟨unsigned, signed⟩ := readWord_digit digit cs
  have minus : (d == '-') = false := beq_eq_false_iff_ne.mpr (digit_ne digit (by decide))
  constructor
  · rw [readValue_other (digit_ne digit (by decide)) (digit_ne digit (by decide)) (digit_ne digit (by decide)),
      unsigned, minus]
    rfl
  · rw [readValue_other (by decide) (by decide) (by decide), signed]
    rfl

theorem digit_visible {d : Char} (digit : d.isDigit = true) : isSpace d = false := by
  have space := digit_ne digit (by decide : ' '.isDigit = false)
  have tab := digit_ne digit (by decide : '\t'.isDigit = false)
  have feed := digit_ne digit (by decide : '\n'.isDigit = false)
  have carriage := digit_ne digit (by decide : '\r'.isDigit = false)
  simp [isSpace, space, tab, feed, carriage]

/-- A number with or without a sign is written so that it reads back. -/
theorem written_number {negative : Bool} {body : List Char} {v : Value}
    (reads : ∀ rest, EndsNumber rest → readNumber negative (body ++ rest) = some (v, rest)) :
    Written ((if negative then ['-'] else []) ++ body) v := by
  have nothing : EndsNumber [] := by simp [EndsNumber]
  obtain ⟨d, ds, same, digit⟩ := readNumber_digit (reads [] nothing)
  rw [List.append_nil] at same
  subst same
  cases negative with
  | true =>
    apply written_of_reads ⟨'-', d :: ds, rfl, by decide⟩
    intro fuel rest enough ends
    exact (readValue_digit digit fuel (ds ++ rest)).2.trans (reads rest ends)
  | false =>
    apply written_of_reads ⟨d, ds, rfl, digit_visible digit, digit_ne digit (by decide), digit_ne digit (by decide)⟩
    intro fuel rest enough ends
    exact (readValue_digit digit fuel (ds ++ rest)).1.trans (reads rest ends)

theorem written_null : Written "null".toList .null :=
  written_of_reads ⟨'n', _, rfl, by decide⟩ fun _ _ _ _ => rfl

theorem written_bool (b : Bool) : Written (if b then "true" else "false").toList (.bool b) := by
  cases b with
  | true => exact written_of_reads ⟨'t', _, rfl, by decide⟩ fun _ _ _ _ => rfl
  | false => exact written_of_reads ⟨'f', _, rfl, by decide⟩ fun _ _ _ _ => rfl

theorem written_string (s : String) : Written (plainString s).toList (.str s) := by
  rw [toList_plainString]
  apply written_of_reads ⟨'"', _, rfl, by decide⟩
  intro fuel rest enough ends
  have length := length_plain s.toList
  simp only [List.length_cons, List.length_append, List.length_nil] at enough
  have read := readString_plain (by omega : s.toList.length < fuel) rest
  rw [List.cons_append, List.append_assoc, readValue.eq_def]
  change ((readString fuel (s.toList.flatMap plainChar ++ '"' :: rest)).bind fun found =>
    some (Value.str (String.ofList found.1), found.2)) = _
  rw [read, Option.bind_some, String.ofList_toList]

/-! ### Lists and objects -/

/-- The members of a list or an object, each on a line of its own. -/
def lines (depth : ℕ) (members : List (List Char)) : List Char := (',' :: gap depth).intercalate members

theorem lines_cons (depth : ℕ) (first second : List Char) (others : List (List Char)) :
    lines depth (first :: second :: others) = first ++ (',' :: (gap depth ++ lines depth (second :: others))) := by
  rw [lines, List.intercalate_cons_cons]
  simp [lines]

theorem lines_visible (depth : ℕ) {first : List Char} {c : Char} {cs : List Char} (same : first = c :: cs)
    (others : List (List Char)) : ∃ tail, lines depth (first :: others) = c :: tail := by
  cases others with
  | nil => exact ⟨cs, by simp [lines, same]⟩
  | cons second others => exact ⟨_, by rw [lines_cons, same, List.cons_append]⟩

theorem readItems_lines {text : Value → List Char} {items : List Value} (written : ∀ v ∈ items, Written (text v) v)
    (filled : items ≠ []) (depth depth' fuel : ℕ) (enough : (lines depth (items.map text)).length < fuel)
    (rest : List Char) :
    readItems fuel (lines depth (items.map text) ++ (gap depth' ++ ']' :: rest)) = some (items, rest) := by
  induction items generalizing fuel with
  | nil => exact absurd rfl filled
  | cons v vs ih =>
    obtain ⟨fuel, rfl⟩ : ∃ k, fuel = k + 1 := Nat.exists_eq_succ_of_ne_zero (by omega)
    have head := written v (by simp)
    cases vs with
    | nil =>
      have only : lines depth ([v].map text) = text v := by simp [lines]
      rw [only] at enough ⊢
      have read := head.reads fuel (gap depth' ++ ']' :: rest) (by omega) (endsNumber_gap _ _)
      rw [readItems, read]
      simp only [Option.bind_eq_bind, Option.bind_some, skipSpace_gap depth' (by decide : isSpace ']' = false)]
    | cons w ws =>
      obtain ⟨c, cs, same, visible, _⟩ := (written w (by simp)).begins
      obtain ⟨tail, next⟩ := lines_visible depth same (ws.map text)
      have more : lines depth ((v :: w :: ws).map text) =
          text v ++ (',' :: (gap depth ++ lines depth ((w :: ws).map text))) :=
        lines_cons depth (text v) (text w) (ws.map text)
      rw [more] at enough ⊢
      simp only [List.length_append, List.length_cons] at enough
      rw [List.append_assoc, List.cons_append, List.append_assoc]
      have read := head.reads fuel
        (',' :: (gap depth ++ (lines depth ((w :: ws).map text) ++ (gap depth' ++ ']' :: rest)))) (by omega)
        (endsNumber_comma _)
      have onward := ih (fun x member => written x (List.mem_cons_of_mem _ member)) (by simp) fuel (by omega)
      rw [readItems, read]
      have starts : skipSpace (gap depth ++ (lines depth ((w :: ws).map text) ++ (gap depth' ++ ']' :: rest))) =
          lines depth ((w :: ws).map text) ++ (gap depth' ++ ']' :: rest) := by
        rw [List.map_cons, next, List.cons_append, skipSpace_gap depth visible]
      simp only [Option.bind_eq_bind, Option.bind_some, skipSpace_visible (by decide : isSpace ',' = false), starts,
        onward]

/-- A member of an object: the key and the text of its value. -/
def memberText (key : String) (cs : List Char) : List Char :=
  '"' :: (key.toList.flatMap plainChar ++ ('"' :: ':' :: ' ' :: cs))

theorem readPairs_member {key : String} {cs : List Char} {v : Value} (written : Written cs v) {fuel : ℕ}
    (enough : (memberText key cs).length ≤ fuel) {tail : List Char} (ends : EndsNumber tail) :
    (∀ rest, skipSpace tail = '\x7d' :: rest →
      readPairs (fuel + 1) (memberText key cs ++ tail) = some ([(key, v)], rest)) ∧
    (∀ rest, skipSpace tail = ',' :: rest → readPairs (fuel + 1) (memberText key cs ++ tail) =
      (readPairs fuel (skipSpace rest)).bind fun found => some ((key, v) :: found.1, found.2)) := by
  have length := length_plain key.toList
  simp only [memberText, List.length_cons, List.length_append] at enough
  have name := readString_plain (by omega : key.toList.length < fuel) (':' :: ' ' :: (cs ++ tail))
  have value := written.reads fuel tail (by omega) ends
  obtain ⟨c, ds, same, visible, _⟩ := written.begins
  have starts : skipSpace (' ' :: (cs ++ tail)) = cs ++ tail := by
    rw [same, List.cons_append]
    exact skipSpace_visible visible _
  have text : memberText key cs ++ tail =
      '"' :: (key.toList.flatMap plainChar ++ '"' :: ':' :: ' ' :: (cs ++ tail)) := by
    simp [memberText]
  constructor <;> intro rest follows <;> rw [text, readPairs.eq_def] <;>
    simp only [name, Option.bind_eq_bind, Option.bind_some, skipSpace_visible (by decide : isSpace ':' = false), starts,
      value, String.ofList_toList, follows]

theorem readPairs_lines {text : Value → List Char} {entries : List (String × Value)}
    (written : ∀ e ∈ entries, Written (text e.2) e.2) (filled : entries ≠ []) (depth depth' fuel : ℕ)
    (enough : (lines depth (entries.map fun e => memberText e.1 (text e.2))).length < fuel) (rest : List Char) :
    readPairs fuel (lines depth (entries.map fun e => memberText e.1 (text e.2)) ++ (gap depth' ++ '\x7d' :: rest)) =
      some (entries, rest) := by
  induction entries generalizing fuel with
  | nil => exact absurd rfl filled
  | cons e es ih =>
    obtain ⟨fuel, rfl⟩ : ∃ k, fuel = k + 1 := Nat.exists_eq_succ_of_ne_zero (by omega)
    have head := written e (by simp)
    cases es with
    | nil =>
      have only : lines depth ([e].map fun e => memberText e.1 (text e.2)) = memberText e.1 (text e.2) := by
        simp [lines]
      rw [only] at enough ⊢
      exact (readPairs_member head (by omega) (endsNumber_gap depth' _)).1 rest (skipSpace_gap depth' (by decide) rest)
    | cons f fs =>
      obtain ⟨tail, next⟩ := lines_visible depth (rfl : memberText f.1 (text f.2) = '"' :: _)
        (fs.map fun e => memberText e.1 (text e.2))
      have more : lines depth ((e :: f :: fs).map fun e => memberText e.1 (text e.2)) = memberText e.1 (text e.2) ++
          (',' :: (gap depth ++ lines depth ((f :: fs).map fun e => memberText e.1 (text e.2)))) :=
        lines_cons depth _ _ _
      rw [more] at enough ⊢
      simp only [List.length_append, List.length_cons] at enough
      have onward := ih (fun x member => written x (List.mem_cons_of_mem _ member)) (by simp) fuel (by omega)
      have starts : skipSpace (gap depth ++ (lines depth ((f :: fs).map fun e => memberText e.1 (text e.2)) ++
          (gap depth' ++ '\x7d' :: rest))) = lines depth ((f :: fs).map fun e => memberText e.1 (text e.2)) ++
            (gap depth' ++ '\x7d' :: rest) := by
        rw [List.map_cons, next, List.cons_append, skipSpace_gap depth (by decide)]
      rw [List.append_assoc, List.cons_append, List.append_assoc,
        (readPairs_member head (by omega) (endsNumber_comma _)).2 _ (skipSpace_visible (by decide) _), starts, onward]
      rfl

theorem readValue_list {cs tail : List Char} {c : Char} (starts : skipSpace cs = c :: tail) (close : c ≠ ']')
    (fuel : ℕ) : readValue (fuel + 1) ('[' :: cs) =
      (readItems fuel (c :: tail)).bind fun found => some (.list found.1, found.2) := by
  rw [readValue.eq_def]
  simp only [starts]
  split
  · rename_i same
    cases same
    exact absurd rfl close
  · rfl

theorem readValue_object {cs tail : List Char} {c : Char} (starts : skipSpace cs = c :: tail) (close : c ≠ '\x7d')
    (fuel : ℕ) : readValue (fuel + 1) ('\x7b' :: cs) =
      (readPairs fuel (c :: tail)).bind fun found => some (.dict (Entries.collect found.1), found.2) := by
  rw [readValue.eq_def]
  simp only [starts]
  split
  · rename_i same
    cases same
    exact absurd rfl close
  · rfl

theorem written_list {text : Value → List Char} {items : List Value} (written : ∀ v ∈ items, Written (text v) v)
    (filled : items ≠ []) (depth : ℕ) :
    Written ('[' :: (gap (depth + 1) ++ (lines (depth + 1) (items.map text) ++ (gap depth ++ [']']))))
      (.list items) := by
  apply written_of_reads ⟨'[', _, rfl, by decide⟩
  intro fuel rest enough ends
  simp only [List.length_cons, List.length_append] at enough
  have read := readItems_lines written filled (depth + 1) depth fuel (by omega) rest
  obtain ⟨v, vs, rfl⟩ := List.exists_cons_of_ne_nil filled
  obtain ⟨c, cs, same, visible, close, _⟩ := (written v (by simp)).begins
  obtain ⟨tail, starts⟩ := lines_visible (depth + 1) same (vs.map text)
  rw [List.map_cons, starts] at read ⊢
  have shown : '[' :: (gap (depth + 1) ++ (c :: tail ++ (gap depth ++ [']']))) ++ rest =
      '[' :: (gap (depth + 1) ++ c :: (tail ++ (gap depth ++ ']' :: rest))) := by simp
  rw [List.cons_append] at read
  rw [shown, readValue_list (skipSpace_gap (depth + 1) visible _) close, read]
  rfl

theorem written_object {text : Value → List Char} {entries : List (String × Value)}
    (written : ∀ e ∈ entries, Written (text e.2) e.2) (filled : entries ≠ []) (distinct : (entries.map (·.1)).Nodup)
    (depth : ℕ) : Written ('\x7b' :: (gap (depth + 1) ++
      (lines (depth + 1) (entries.map fun e => memberText e.1 (text e.2)) ++ (gap depth ++ ['\x7d']))))
      (.dict entries) := by
  apply written_of_reads ⟨'\x7b', _, rfl, by decide⟩
  intro fuel rest enough ends
  simp only [List.length_cons, List.length_append] at enough
  have read := readPairs_lines written filled (depth + 1) depth fuel (by omega) rest
  obtain ⟨e, es, rfl⟩ := List.exists_cons_of_ne_nil filled
  obtain ⟨tail, starts⟩ := lines_visible (depth + 1) (rfl : memberText e.1 (text e.2) = '"' :: _)
    (es.map fun e => memberText e.1 (text e.2))
  rw [List.map_cons, starts] at read ⊢
  have shown : '\x7b' :: (gap (depth + 1) ++ ('"' :: tail ++ (gap depth ++ ['\x7d']))) ++ rest =
      '\x7b' :: (gap (depth + 1) ++ '"' :: (tail ++ (gap depth ++ '\x7d' :: rest))) := by simp
  rw [List.cons_append] at read
  rw [shown, readValue_object (skipSpace_gap (depth + 1) (by decide) _) (by decide), read, Option.bind_some,
    Entries.collect_distinct distinct]

/-! ### All values -/

theorem written_int {n : ℤ} (short : n.natAbs < tenTo maxDigits) : Written (toString n).toList (.int n) := by
  have reads (negative : Bool) (rest : List Char) (ends : EndsNumber rest) :=
    readNumber_integer negative short ends
  rw [Text.toList_toString]
  by_cases negative : n < 0
  · have value : Binary.signed true n.natAbs = n := by
      rw [Binary.signed, if_pos rfl]
      omega
    have written := written_number (reads true)
    rw [value] at written
    rw [if_pos negative]
    exact written
  · have value : Binary.signed false n.natAbs = n := by
      rw [Binary.signed, if_neg (by decide)]
      omega
    have written := written_number (reads false)
    rw [value] at written
    rw [if_neg negative]
    exact written

theorem prettyItems_eq (depth : ℕ) (items : List Value) : prettyItems depth items = items.map (pretty (depth + 1)) := by
  induction items with
  | nil => rfl
  | cons v vs ih => rw [prettyItems, ih, List.map_cons]

theorem prettyEntries_eq (depth : ℕ) (entries : List (String × Value)) :
    (prettyEntries depth entries).map String.toList =
      entries.map fun e => memberText e.1 (pretty (depth + 1) e.2).toList := by
  induction entries with
  | nil => rfl
  | cons e es ih =>
    obtain ⟨key, v⟩ := e
    rw [prettyEntries, List.map_cons, ih, List.map_cons]
    simp [memberText, toList_plainString]

theorem written_pretty {v : Value} (storable : v.Storable) (depth : ℕ) : Written (pretty depth v).toList v := by
  induction storable generalizing depth with
  | null => exact written_null
  | bool b =>
    rw [pretty]
    exact written_bool b
  | int short => exact written_int short
  | float finite =>
    obtain ⟨body, text, reads⟩ := render_reads finite
    rw [pretty, text]
    exact written_number reads
  | str s =>
    rw [pretty]
    exact written_string s
  | @list items all ih =>
    rw [pretty, prettyItems_eq]
    by_cases none : items = []
    · subst none
      have empty : Written ['[', ']'] (.list []) := written_of_reads ⟨'[', _, rfl, by decide⟩ fun _ _ _ _ => rfl
      rw [List.map_nil, toList_block_nil]
      exact empty
    · have some : items.map (pretty (depth + 1)) ≠ [] := by simpa using none
      have each (v : Value) (member : v ∈ items) : Written ((String.toList ∘ pretty (depth + 1)) v) v :=
        ih v member (depth + 1)
      have written := written_list each none depth
      rw [toList_block _ _ depth some, List.map_map]
      exact written
  | @dict entries distinct all ih =>
    rw [pretty]
    by_cases none : entries = []
    · subst none
      have empty : Written ['\x7b', '\x7d'] (.dict []) :=
        written_of_reads ⟨'\x7b', _, rfl, by decide⟩ fun _ _ _ _ => rfl
      rw [prettyEntries, toList_block_nil]
      exact empty
    · have some : prettyEntries depth entries ≠ [] := by
        obtain ⟨e, es, rfl⟩ := List.exists_cons_of_ne_nil none
        simp [prettyEntries]
      have each (e : String × Value) (member : e ∈ entries) :
          Written ((String.toList ∘ pretty (depth + 1)) e.2) e.2 := ih e member (depth + 1)
      have written := written_object each none distinct depth
      rw [toList_block _ _ depth some, prettyEntries_eq]
      exact written

/-- A value that has been written as JSON text is read from it as it was. -/
theorem parse?_pretty {v : Value} (storable : v.Storable) : parse? (pretty 0 v).toList = some v := by
  have written := written_pretty storable 0
  obtain ⟨c, cs, same, visible, _⟩ := written.begins
  have nothing : EndsNumber [] := by simp [EndsNumber]
  have read := written.reads (2 * (pretty 0 v).toList.length + 2) [] (by omega) nothing
  have starts : skipSpace (pretty 0 v).toList = (pretty 0 v).toList := by
    rw [same]
    exact skipSpace_visible visible cs
  rw [List.append_nil] at read
  rw [parse?, starts, read]
  rfl

/-! ### Line ends

No JSON text has a carriage return, so a file that it is written to is read as it is.
-/

theorem carriage_digits {cs : List Char} (digits : ∀ c ∈ cs, c.isDigit = true) : '\r' ∉ cs :=
  fun member => absurd (digits '\r' member) (by decide)

theorem carriage_hexDigits (width n : ℕ) : '\r' ∉ Text.hexDigits width n := by
  induction width generalizing n with
  | zero => simp [Text.hexDigits]
  | succ width ih =>
    have all : ∀ d : Fin 16, Nat.digitChar d ≠ '\r' := by decide
    have last := all ⟨n % 16, Nat.mod_lt _ (by decide)⟩
    rw [Text.hexDigits, List.mem_append, List.mem_singleton]
    rintro (inside | same)
    · exact ih _ inside
    · exact last same.symm

theorem carriage_plainChar (c : Char) : '\r' ∉ plainChar c := by
  unfold plainChar
  split
  · rename_i escaped short
    obtain ⟨e, rfl, escape⟩ := shortEscape?_eq short
    intro member
    have same : '\r' = e := by simpa using member
    subst same
    cases escape
  · rename_i none
    split
    · simpa [unitEscape] using carriage_hexDigits 4 c.toNat
    · rw [List.mem_singleton]
      rintro rfl
      cases none

theorem carriage_plainString (s : String) : '\r' ∉ (plainString s).toList := by
  rw [toList_plainString]
  simpa using fun c (_ : c ∈ s.toList) => carriage_plainChar c

theorem carriage_toString (n : ℤ) : '\r' ∉ (toString n).toList := by
  have digits := carriage_digits (Text.toDigits_areDigits n.natAbs).2
  rw [Text.toList_toString]
  split
  · simpa using digits
  · exact digits

theorem carriage_append {s t : String} (first : '\r' ∉ s.toList) (last : '\r' ∉ t.toList) :
    '\r' ∉ (s ++ t).toList := by
  rw [String.toList_append, List.mem_append]
  rintro (inside | inside)
  · exact first inside
  · exact last inside

theorem carriage_pushn (k : ℕ) : '\r' ∉ ("".pushn ' ' k).toList ∧ '\r' ∉ ("".pushn '0' k).toList := by
  rw [Text.toList_pushn, Text.toList_pushn]
  simp

theorem carriage_layOut {ds : List Char} (digits : '\r' ∉ ds) (point : ℤ) :
    '\r' ∉ (FloatStyle.compact.layOut ds point).toList := by
  have front (k : ℕ) : '\r' ∉ (String.ofList (ds.take k)).toList := by
    rw [String.toList_ofList]
    exact fun member => digits (List.mem_of_mem_take member)
  have back (k : ℕ) : '\r' ∉ (String.ofList (ds.drop k)).toList := by
    rw [String.toList_ofList]
    exact fun member => digits (List.mem_of_mem_drop member)
  unfold FloatStyle.layOut
  dsimp only
  split
  · have exponent : '\r' ∉ (FloatStyle.compact.exponentText (point - 1)).toList := by
      rw [exponentText_eq]
      exact carriage_toString _
    refine carriage_append (carriage_append (carriage_append (front 1) ?_) (by decide)) exponent
    have rest := back 1
    split
    · decide
    · exact carriage_append (by decide) rest
  · split
    · refine carriage_append (carriage_append (by decide) (carriage_pushn _).2) ?_
      rw [String.toList_ofList]
      exact digits
    · refine carriage_append (carriage_append (carriage_append (front _) (carriage_pushn _).2) (by decide)) ?_
      split
      · decide
      · exact back _

theorem carriage_render (x : Float) : '\r' ∉ (FloatStyle.compact.render x).toList := by
  cases parts : Binary.ofFloat x with
  | undefined =>
    rw [FloatStyle.render, parts]
    decide
  | infinite negative =>
    rw [FloatStyle.render, parts]
    cases negative <;> decide
  | finite negative m q =>
    rw [render_finite parts, List.mem_append]
    rintro (sign | body)
    · cases negative <;> simp at sign
    · split at body
      · simp at body
      · exact carriage_layOut (carriage_digits (Text.toDigits_areDigits _).2) _ body

theorem carriage_block {opening closing : String} (first : '\r' ∉ opening.toList) (last : '\r' ∉ closing.toList)
    (depth : ℕ) {members : List String} (plain : ∀ member ∈ members, '\r' ∉ member.toList) :
    '\r' ∉ (block opening closing depth members).toList := by
  have inner : '\r' ∉ ("\n" ++ "".pushn ' ' (2 * depth + 2)).toList := carriage_append (by decide) (carriage_pushn _).1
  have comma := carriage_append (by decide : '\r' ∉ ",".toList) inner
  have joined {separator : List Char} (clean : '\r' ∉ separator) (texts : List (List Char))
      (each : ∀ text ∈ texts, '\r' ∉ text) : '\r' ∉ separator.intercalate texts := by
    induction texts with
    | nil => simp
    | cons text texts ih =>
      obtain ⟨head, tail⟩ := List.forall_mem_cons.mp each
      cases texts with
      | nil => simpa using head
      | cons next others =>
        rw [List.intercalate_cons_cons, List.mem_append, List.mem_append]
        rintro ((inside | inside) | inside)
        · exact head inside
        · exact clean inside
        · exact ih tail inside
  unfold block
  dsimp only
  split
  · exact carriage_append first last
  · have start := carriage_append first inner
    refine carriage_append (carriage_append (carriage_append (carriage_append start ?_) (by decide))
      (carriage_pushn _).1) last
    rw [String.toList_intercalate]
    refine joined comma _ fun text member => ?_
    obtain ⟨shown, among, rfl⟩ := List.mem_map.mp member
    exact plain shown among

mutual

theorem carriage_pretty (depth : ℕ) : (v : Value) → '\r' ∉ (pretty depth v).toList
  | .null => by
    rw [pretty]
    decide
  | .bool b => by
    rw [pretty]
    cases b <;> decide
  | .int n => carriage_toString n
  | .float x => carriage_render x
  | .str s => carriage_plainString s
  | .list items => carriage_block (by decide) (by decide) depth (carriage_prettyItems depth items)
  | .dict entries => carriage_block (by decide) (by decide) depth (carriage_prettyEntries depth entries)
  | .foreign _ => by
    rw [pretty]
    decide

theorem carriage_prettyItems (depth : ℕ) :
    (items : List Value) → ∀ member ∈ prettyItems depth items, '\r' ∉ member.toList
  | [] => by simp [prettyItems]
  | v :: vs => by
    rw [prettyItems, List.forall_mem_cons]
    exact ⟨carriage_pretty (depth + 1) v, carriage_prettyItems depth vs⟩

theorem carriage_prettyEntries (depth : ℕ) :
    (entries : List (String × Value)) → ∀ member ∈ prettyEntries depth entries, '\r' ∉ member.toList
  | [] => by simp [prettyEntries]
  | (key, v) :: rest => by
    have name := carriage_append (carriage_plainString key) (by decide : '\r' ∉ ": ".toList)
    rw [prettyEntries, List.forall_mem_cons]
    exact ⟨carriage_append name (carriage_pretty (depth + 1) v), carriage_prettyEntries depth rest⟩

end

end Json

end BrowserFlow
