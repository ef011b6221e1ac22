import BrowserFlow.Proofs.Decimal.Numeral
import BrowserFlow.Proofs.Decimal.Power
import BrowserFlow.Value.Json

/-!
The integers that JSON text gives have no more digits than are converted.
-/

namespace BrowserFlow

theorem Numeral.natOfDigits_lt {cs : List Char} (digits : ∀ c ∈ cs, c.isDigit = true) :
    natOfDigits cs < tenTo cs.length := by
  have from' (n : Nat) : cs.foldl (fun n c => 10 * n + (c.toNat - 0x30)) n < (n + 1) * tenTo cs.length := by
    induction cs generalizing n with
    | nil => simp
    | cons c cs ih =>
      have range := Text.digit_range (digits c (by simp))
      have tail := ih (fun d member => digits d (List.mem_cons_of_mem _ member)) (10 * n + (c.toNat - 0x30))
      have head : 10 * n + (c.toNat - 0x30) + 1 ≤ (n + 1) * 10 := by omega
      rw [List.foldl_cons, List.length_cons, tenTo_succ, ← Nat.mul_assoc]
      exact Nat.lt_of_lt_of_le tail (Nat.mul_le_mul_right _ head)
  simpa [natOfDigits] using from' 0

/-- An integer among values has no more digits than are converted. -/
def Value.Short (v : Value) : Prop := ∀ n, v = .int n → n.natAbs < tenTo Numeral.maxDigits

theorem Value.short_of_not_int {v : Value} (other : ∀ n, v ≠ .int n) : v.Short := fun n same => absurd same (other n)

namespace Json

theorem readWhole_digits {cs whole rest : List Char} (h : readWhole cs = some (whole, rest)) :
    ∀ c ∈ whole, c.isDigit = true := by
  unfold readWhole at h
  split at h
  · cases h
    intro c member
    rw [List.mem_singleton.mp member]
    rfl
  · dsimp only at h
    split at h
    · cases h
    · cases h
      exact List.all_eq_true.mp List.all_takeWhile

theorem readNumber_short {negative : Bool} {cs rest : List Char} {v : Value}
    (h : readNumber negative cs = some (v, rest)) : v.Short ∧ v.dict? = none := by
  unfold readNumber at h
  obtain ⟨⟨whole, tail⟩, digits, h⟩ := Option.bind_eq_some_iff.mp h
  dsimp only at h
  split at h
  · split at h
    · cases h
    · rename_i fits
      cases h
      refine ⟨?_, rfl⟩
      intro n same
      have bound := Numeral.natOfDigits_lt (readWhole_digits digits)
      have longest := tenTo_le (Nat.not_lt.mp fits)
      have size : n.natAbs = Numeral.natOfDigits whole := by
        cases negative <;> cases same <;> simp
      omega
  · cases h
    exact ⟨Value.short_of_not_int nofun, rfl⟩

theorem readWord_short {cs rest : List Char} {v : Value} (h : readWord cs = some (v, rest)) :
    v.Short ∧ v.dict? = none := by
  obtain ⟨⟨word, w⟩, member, found⟩ := List.exists_of_findSome?_eq_some h
  obtain ⟨tail, _, same⟩ := Option.map_eq_some_iff.mp found
  cases same
  simp only [List.mem_cons, Prod.mk.injEq, List.not_mem_nil, or_false] at member
  rcases member with ⟨_, rfl⟩ | ⟨_, rfl⟩ | ⟨_, rfl⟩ | ⟨_, rfl⟩ | ⟨_, rfl⟩ | ⟨_, rfl⟩ <;>
    exact ⟨Value.short_of_not_int nofun, rfl⟩

/-- What has been read is not a dictionary, or it has no entries, or its entries have been read as pairs. -/
theorem readValue_cases {fuel : Nat} {cs rest : List Char} {v : Value} (h : readValue fuel cs = some (v, rest)) :
    (v.Short ∧ v.dict? = none) ∨ v = .dict [] ∨
      ∃ fuel inner after pairs, readPairs fuel inner = some (pairs, after) ∧ v = .dict (Entries.collect pairs) := by
  cases fuel with
  | zero => cases h
  | succ fuel =>
    rw [readValue.eq_def] at h
    dsimp only at h
    split at h
    · cases h
    · obtain ⟨_, _, h⟩ := Option.bind_eq_some_iff.mp h
      cases h
      exact .inl ⟨Value.short_of_not_int nofun, rfl⟩
    · split at h
      · cases h
        exact .inl ⟨Value.short_of_not_int nofun, rfl⟩
      · obtain ⟨_, _, h⟩ := Option.bind_eq_some_iff.mp h
        cases h
        exact .inl ⟨Value.short_of_not_int nofun, rfl⟩
    · split at h
      · cases h
        exact .inr (.inl rfl)
      · obtain ⟨⟨pairs, after⟩, read, h⟩ := Option.bind_eq_some_iff.mp h
        cases h
        exact .inr (.inr ⟨_, _, after, pairs, read, rfl⟩)
    · split at h
      · rename_i word
        cases h
        exact .inl (readWord_short word)
      · split at h
        · exact .inl (readNumber_short h)
        · exact .inl (readNumber_short h)

theorem readValue_short {fuel : Nat} {cs rest : List Char} {v : Value} (h : readValue fuel cs = some (v, rest)) :
    v.Short := by
  rcases readValue_cases h with ⟨short, _⟩ | rfl | ⟨_, _, _, _, _, rfl⟩
  · exact short
  · exact Value.short_of_not_int nofun
  · exact Value.short_of_not_int nofun

theorem readPairs_short {fuel : Nat} {cs rest : List Char} {pairs : List (String × Value)}
    (h : readPairs fuel cs = some (pairs, rest)) : ∀ pair ∈ pairs, pair.2.Short := by
  induction fuel generalizing cs rest pairs with
  | zero => cases h
  | succ fuel ih =>
    rw [readPairs.eq_def] at h
    dsimp only at h
    split at h
    · obtain ⟨⟨key, tail⟩, _, h⟩ := Option.bind_eq_some_iff.mp h
      dsimp only at h
      split at h
      · obtain ⟨⟨v, tail⟩, value, h⟩ := Option.bind_eq_some_iff.mp h
        have short := readValue_short value
        dsimp only at h
        split at h
        · cases h
          simpa using short
        · obtain ⟨⟨others, tail⟩, more, h⟩ := Option.bind_eq_some_iff.mp h
          cases h
          exact List.forall_mem_cons.mpr ⟨short, ih more⟩
        · cases h
      · cases h
    · cases h

end Json

theorem Entries.mem_put {entries : Entries} {key : String} {v : Value} {entry : String × Value}
    (member : entry ∈ Entries.put entries key v) : entry ∈ entries ∨ entry.2 = v := by
  induction entries with
  | nil => exact .inr (by rw [List.mem_singleton.mp member])
  | cons head rest ih =>
    rw [put] at member
    split at member
    · rcases List.mem_cons.mp member with rfl | member
      · exact .inr rfl
      · exact .inl (List.mem_cons_of_mem _ member)
    · rcases List.mem_cons.mp member with rfl | member
      · exact .inl (by simp)
      · rcases ih member with old | new
        · exact .inl (List.mem_cons_of_mem _ old)
        · exact .inr new

theorem Entries.collect_short {pairs : List (String × Value)} (short : ∀ pair ∈ pairs, pair.2.Short) :
    ∀ entry ∈ Entries.collect pairs, entry.2.Short := by
  have from' (entries : Entries) (before : ∀ entry ∈ entries, entry.2.Short) :
      ∀ entry ∈ pairs.foldl (fun entries pair => Entries.put entries pair.1 pair.2) entries, entry.2.Short := by
    induction pairs generalizing entries with
    | nil => exact before
    | cons pair pairs ih =>
      refine ih (fun other member => short other (List.mem_cons_of_mem _ member)) _ ?_
      intro entry member
      rcases mem_put member with old | new
      · exact before entry old
      · rw [new]
        exact short pair (by simp)
  exact from' [] (by simp)

/-- An object in JSON text is empty or has the entries that were read. -/
theorem Json.readValue_dict {fuel : Nat} {cs rest : List Char} {entries : Entries}
    (h : readValue fuel cs = some (.dict entries, rest)) : ∀ entry ∈ entries, entry.2.Short := by
  rcases readValue_cases h with ⟨_, other⟩ | same | ⟨_, _, _, pairs, read, same⟩
  · cases other
  · cases same
    exact List.forall_mem_nil _
  · cases same
    exact Entries.collect_short (readPairs_short read)

theorem Json.parse?_short {cs : List Char} {entries : Entries} (h : parse? cs = some (.dict entries)) (key : String) :
    (entries.getD key).Short := by
  obtain ⟨⟨v, rest⟩, read, h⟩ := Option.bind_eq_some_iff.mp h
  dsimp only at h
  split at h
  · cases h
    have short := readValue_dict read
    rw [Entries.getD, Entries.get?]
    cases found : entries.find? fun entry => entry.1 == key with
    | none => exact Value.short_of_not_int nofun
    | some entry => exact short entry (List.mem_of_find?_eq_some found)
  · cases h

end BrowserFlow
