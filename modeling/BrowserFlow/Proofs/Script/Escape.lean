import BrowserFlow.Proofs.Script.Literal
import Mathlib.Algebra.Ring.Parity
import Mathlib.Computability.Language
import Mathlib.Data.List.DropRight

/-!
Escaped text as a code. What has been escaped is read back, and between quotes it is the one text that can be taken for
the body of a literal, so a reader that tries several ways to end a body has no choice.
-/

namespace BrowserFlow.Script

open scoped Computability

/-- A text with another one in the place of each occurrence of a character. -/
def replaced (c : Char) (text cs : List Char) : List Char := cs.flatMap fun d => if d = c then text else [d]

/-- The backslash goes first, since the replacements after it write backslashes of their own. -/
theorem escape_replaced (cs : List Char) :
    escape cs = (cs |> replaced '\\' ['\\', '\\'] |> replaced '\'' ['\\', '\''] |> replaced '\n' ['\\', 'n'] |>
      replaced '\r' ['\\', 'r']) := by
  simp only [escape, replaced, List.flatMap_assoc]
  refine List.flatMap_congr fun c _ => ?_
  unfold escapeChar
  split <;> simp_all

/-- A character that stands for itself in a body. -/
def plainUnits : Language Char := {w | ∃ c, c ≠ '\'' ∧ c ≠ '\\' ∧ w = [c]}

/-- A backslash and what it escapes: a character that does not end the line. -/
def pairUnits : Language Char := {w | ∃ c, c ≠ '\n' ∧ w = ['\\', c]}

theorem unit_kstar {units : Language Char} {unit rest : List Char} (first : unit ∈ units) (others : rest ∈ units∗) :
    unit ++ rest ∈ units∗ :=
  mul_kstar_le_kstar (a := units) (Language.append_mem_mul first others)

theorem isBody_iff {cs : List Char} : IsBody cs ↔ cs ∈ (plainUnits + pairUnits)∗ := by
  constructor
  · intro isBody
    induction isBody with
    | nil => exact Language.nil_mem_kstar _
    | @plain c _ noQuote noSlash _ ih => exact unit_kstar (.inl ⟨c, noQuote, noSlash, rfl⟩) ih
    | @pair c _ noFeed _ ih => exact unit_kstar (.inr ⟨c, noFeed, rfl⟩) ih
  · rintro ⟨units, rfl, each⟩
    induction units with
    | nil => exact .nil
    | cons unit units ih =>
      obtain ⟨first, others⟩ := List.forall_mem_cons.mp each
      rcases first with ⟨c, noQuote, noSlash, rfl⟩ | ⟨c, noFeed, rfl⟩
      · exact .plain noQuote noSlash (ih others)
      · exact .pair noFeed (ih others)

/-- Reading a literal finds a body that a quote closes whenever there is one, and there is never a second one. -/
theorem literal_iff {cs body rest : List Char} :
    literal cs = some (body, rest) ↔ body ∈ (plainUnits + pairUnits)∗ ∧ cs = '\'' :: (body ++ '\'' :: rest) := by
  rw [← isBody_iff]
  constructor
  · intro read
    obtain ⟨isBody, rfl⟩ := literal_some read
    exact ⟨isBody, by simp [quote]⟩
  · rintro ⟨isBody, rfl⟩
    exact literalBody_body isBody rest

/-- The backslashes at the end of a text. -/
def slashes (cs : List Char) : Nat := (cs.rtakeWhile (· = '\\')).length

theorem slashes_slash (cs : List Char) : slashes (cs ++ ['\\']) = slashes cs + 1 := by simp [slashes]

theorem slashes_other {c : Char} (noSlash : c ≠ '\\') (cs : List Char) : slashes (cs ++ [c]) = 0 := by
  simp [slashes, noSlash]

/-- No quote ends the text: each is after an odd number of backslashes, and so belongs to the last of them. -/
def QuotesEscaped (cs : List Char) : Prop := ∀ before after, cs = before ++ '\'' :: after → Odd (slashes before)

/-- Units leave the backslashes before the next one even in number, so a quote, which only a pair can hold, has an odd
    number of them. -/
theorem IsBody.odd_slashes {body front before after : List Char} (isBody : IsBody body) (even : Even (slashes front))
    (same : body = before ++ '\'' :: after) : Odd (slashes (front ++ before)) := by
  induction isBody generalizing front before with
  | nil => simp at same
  | @plain c cs noQuote noSlash _ ih =>
    cases before with
    | nil => exact absurd (List.cons.inj same).1 noQuote
    | cons d before =>
      simp only [List.cons_append, List.cons.injEq] at same
      obtain ⟨rfl, same⟩ := same
      rw [List.append_cons]
      refine ih ?_ same
      rw [slashes_other noSlash]
      exact Even.zero
  | @pair c cs _ _ ih =>
    match before with
    | [] => simp at same
    | [d] =>
      obtain ⟨rfl, -⟩ := List.cons.inj same
      rw [slashes_slash]
      exact even.add_one
    | d :: e :: before =>
      simp only [List.cons_append, List.cons.injEq] at same
      obtain ⟨rfl, rfl, same⟩ := same
      rw [List.append_cons, List.append_cons]
      refine ih ?_ same
      by_cases slash : c = '\\'
      · subst slash
        rw [slashes_slash, slashes_slash]
        exact even.add even_two
      · rw [slashes_other slash]
        exact Even.zero

theorem IsBody.quotesEscaped {body : List Char} (isBody : IsBody body) : QuotesEscaped body :=
  fun _ _ same => isBody.odd_slashes (show Even (slashes []) by decide) same

/-- Escaping loses nothing and marks its own end. Different texts are written differently. What is written comes of four
    replacements, is read back, and has neither line ends nor a quote that is not escaped. Between quotes it is read as
    a literal whatever text follows, and no other body with a quote after it can be taken from there. -/
theorem escape_self_delimiting :
    Function.Injective escape ∧ ∀ cs : List Char,
      escape cs = (cs |> replaced '\\' ['\\', '\\'] |> replaced '\'' ['\\', '\''] |> replaced '\n' ['\\', 'n'] |>
        replaced '\r' ['\\', 'r']) ∧
      unescape (escape cs) = cs ∧
      '\n' ∉ escape cs ∧ '\r' ∉ escape cs ∧
      QuotesEscaped (escape cs) ∧
      ∀ rest : List Char, literal ('\'' :: (escape cs ++ '\'' :: rest)) = some (escape cs, rest) ∧
        ∀ body after : List Char, (body ∈ (plainUnits + pairUnits)∗ ∧
          '\'' :: (escape cs ++ '\'' :: rest) = '\'' :: (body ++ '\'' :: after)) ↔ body = escape cs ∧ after = rest := by
  refine ⟨Function.LeftInverse.injective unescape_escape, fun cs => ?_⟩
  have isBody := escape_isBody cs
  refine ⟨escape_replaced cs, unescape_escape cs, ?_, ?_, isBody.quotesEscaped, fun rest => ?_⟩
  · exact fun member => (mem_escape member).elim (by decide) fun kept => kept.2.1 rfl
  · exact fun member => (mem_escape member).elim (by decide) fun kept => kept.2.2 rfl
  · have read : literal ('\'' :: (escape cs ++ '\'' :: rest)) = some (escape cs, rest) :=
      literal_iff.mpr ⟨isBody_iff.mp isBody, rfl⟩
    refine ⟨read, fun body after => ?_⟩
    rw [← literal_iff, read, Option.some.injEq, Prod.mk.injEq]
    exact and_congr eq_comm eq_comm

/-- A backslash before a quote, and a quote right after the literal. -/
example : literal ('\'' :: (escape ['\\', '\'', '\n'] ++ '\'' :: ['\'', ')'])) =
    some (['\\', '\\', '\\', '\'', '\\', 'n'], ['\'', ')']) := by decide

end BrowserFlow.Script
