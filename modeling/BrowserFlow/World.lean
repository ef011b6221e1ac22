import BrowserFlow.Files.Tree
import BrowserFlow.Time.Instant

/-!
What an operation finds around it: the files, the time and a supply of ids.
-/

namespace BrowserFlow

/-- Ids that never come twice; they are made of letters, digits and dashes. -/
structure IdSupply where
  id : Nat → String
  distinct : ∀ m n, id m = id n → m = n
  nonempty : ∀ n, id n ≠ ""
  plain : ∀ n, ∀ c ∈ (id n).toList, c.isAlphanum = true ∨ c = '-'

def IdSupply.numbered : IdSupply where
  id n := "id-" ++ toString (n + 1)
  distinct m n same := by
    have digits : Nat.toDigits 10 (m + 1) = Nat.toDigits 10 (n + 1) := by
      simpa [Nat.toList_repr] using congrArg String.toList same
    have numbers := congrArg (Nat.ofDigitChars 10 · 0) digits
    simp only [Nat.ofDigitChars_ten_toDigits] at numbers
    omega
  nonempty n := by simp
  plain n c member := by
    have digit : c ∈ Nat.toDigits 10 (n + 1) → c.isDigit = true :=
      Nat.isDigit_of_mem_toDigits (by decide) (by decide)
    simp only [String.toList_append, List.mem_append, Nat.toString_eq_repr, Nat.toList_repr] at member
    rcases member with mark | number
    · have letters : c = 'i' ∨ c = 'd' ∨ c = '-' := by simpa using mark
      rcases letters with rfl | rfl | rfl
      · exact .inl rfl
      · exact .inl rfl
      · exact .inr rfl
    · exact .inl (by simp [Char.isAlphanum, digit number])

instance : Inhabited IdSupply := ⟨.numbered⟩

structure World where
  files : Files := {}
  now : Instant := .epoch
  /-- seconds on a clock that never goes back -/
  clock : Float := 0.0
  ids : IdSupply := .numbered
  idsUsed : Nat := 0
  deriving Inhabited

namespace World

def freshId (w : World) : String × World := (w.ids.id w.idsUsed, { w with idsUsed := w.idsUsed + 1 })

def onFiles (w : World) (action : FileM α) : Except Fault α × World :=
  let (result, files) := action.run.run w.files
  (result, { w with files })

end World

end BrowserFlow
