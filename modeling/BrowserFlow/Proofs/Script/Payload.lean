import BrowserFlow.Proofs.Script.Step
import BrowserFlow.Proofs.Value.Display
import BrowserFlow.Proofs.Value.Number

/-!
What the payloads of actions are converted to: keys that are not empty, coordinates with no more digits than are read
back, and times that doubles can hold.
-/

namespace BrowserFlow

namespace Script

theorem coordinate_short {v : Value} (short : v.Short) {n : Int} (h : coordinate v = .ok (some n)) :
    n.natAbs < tenTo Numeral.maxDigits := by
  have zero : (0 : Int).natAbs < tenTo Numeral.maxDigits := tenTo_pos _
  unfold coordinate at h
  split at h
  · cases h
    exact zero
  · rename_i w present
    obtain ⟨rfl, _⟩ := Value.present?_some present
    split at h
    · rename_i read
      cases h
      exact Value.toInt_short short read
    · cases h
    · cases h

theorem scrollTarget_short {v : Option Value} {x y : Int} (h : scrollTarget v = .ok (x, y)) :
    x.natAbs < tenTo Numeral.maxDigits ∧ y.natAbs < tenTo Numeral.maxDigits := by
  have zero : (0 : Int).natAbs < tenTo Numeral.maxDigits := tenTo_pos _
  unfold scrollTarget at h
  dsimp only at h
  split at h
  · rename_i entries data
    have short : ∀ key, (Entries.getD entries key).Short := by
      split at data
      · cases data
        exact fun key => Value.short_of_not_int nofun
      · exact Json.parse?_short data
      · cases data
    obtain ⟨first, horizontal, h⟩ := bind_ok h
    cases first with
    | none =>
      cases h
      exact ⟨zero, zero⟩
    | some a =>
      obtain ⟨second, vertical, h⟩ := bind_ok h
      cases second with
      | none =>
        cases h
        exact ⟨zero, zero⟩
      | some b =>
        cases h
        exact ⟨coordinate_short (short "x") horizontal, coordinate_short (short "y") vertical⟩
  · cases h
    exact ⟨zero, zero⟩

theorem defaultWait_lt : defaultWait.natAbs < twoTo 1024 := by
  have small : twoTo 10 ≤ twoTo 1024 := twoTo_le (by decide)
  exact Nat.lt_of_lt_of_le (by decide) small

theorem waitTime_lt {v : Option Value} {ms : Int} (h : waitTime v = .ok ms) : ms.natAbs < twoTo 1024 := by
  have default := defaultWait_lt
  unfold waitTime at h
  split at h
  · cases h
    exact default
  · obtain ⟨number, _, h⟩ := bind_ok h
    cases number with
    | none =>
      cases h
      exact default
    | some x =>
      dsimp only at h
      split at h
      · rename_i cut
        cases h
        exact Value.truncate_lt cut
      · cases h
        exact default
      · cases h

end Script

namespace Action

theorem target_short (a : Action) :
    a.target.1.natAbs < tenTo Numeral.maxDigits ∧ a.target.2.natAbs < tenTo Numeral.maxDigits := by
  unfold target
  split
  · rename_i read
    exact Script.scrollTarget_short read
  · exact ⟨tenTo_pos _, tenTo_pos _⟩

theorem key_filled (a : Action) : a.key ≠ "" := by
  have enter : "Enter" ≠ "" := by decide
  unfold key Script.keyName
  split
  · rename_i key named
    split at named
    · cases named
      exact enter
    · split at named
      · cases named
        split
        · exact enter
        · simp_all
      · cases named
        split
        · rename_i present
          obtain ⟨rfl, filled⟩ := Value.present?_some present
          exact Value.text_filled filled
        · exact enter
      · cases named
        split
        · exact enter
        · simp_all
      · cases named
        exact enter
    · cases named
  · exact enter

end Action

end BrowserFlow
