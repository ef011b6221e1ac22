import BrowserFlow.Proofs.Decimal.Numeral
import BrowserFlow.Value.Display

namespace BrowserFlow

theorem FloatStyle.layOut_filled (style : FloatStyle) (ds : List Char) (point : Int) : style.layOut ds point ≠ "" := by
  intro empty
  unfold layOut at empty
  dsimp only at empty
  split at empty
  · simp at empty
  · split at empty
    · simp at empty
    · simp at empty

theorem FloatStyle.display_filled (x : Float) : FloatStyle.display.render x ≠ "" := by
  unfold render
  split
  · decide
  · rename_i negative _
    cases negative <;> decide
  · dsimp only
    split
    · simp
    · split
      · decide
      · exact layOut_filled _ _ _

theorem Value.text_filled {v : Value} (present : v.isPresent = true) : v.text ≠ "" := by
  cases v with
  | null => cases present
  | bool b => cases b <;> simp [text, display]
  | int n =>
    intro empty
    have digits := congrArg String.toList empty
    rw [text, display, Text.toList_toString] at digits
    · split at digits
      · cases digits
      · exact absurd digits Nat.toDigits_ne_nil
    · nofun
  | float x => exact FloatStyle.display_filled x
  | str s => simpa [text, isPresent] using present
  | list items => simp [text, display]
  | dict entries => simp [text, display]
  | foreign kind => simp [text, display]

end BrowserFlow
