import BrowserFlow.Proofs.Text.Lines
import BrowserFlow.Script.Statement

namespace BrowserFlow.Script

/-- Text whose line boundaries, if any, are line feeds and carriage returns; those are escaped. -/
def Escapable (cs : List Char) : Prop := ∀ c ∈ cs, Text.isLineBoundary c = true → c = '\n' ∨ c = '\r'

instance (cs : List Char) : Decidable (Escapable cs) := List.decidableBAll _ cs

theorem escape_cons (c : Char) (cs : List Char) : escape (c :: cs) = escapeChar c ++ escape cs := rfl

/-- What may stand between quotes: no quote, and a backslash only before a character other than a line feed. -/
inductive IsBody : List Char → Prop
  | nil : IsBody []
  | plain {c : Char} {cs : List Char} (noQuote : c ≠ '\'') (noSlash : c ≠ '\\') (rest : IsBody cs) : IsBody (c :: cs)
  | pair {c : Char} {cs : List Char} (noFeed : c ≠ '\n') (rest : IsBody cs) : IsBody ('\\' :: c :: cs)

theorem literalBody_body {body : List Char} (isBody : IsBody body) (rest : List Char) :
    literalBody (body ++ '\'' :: rest) = some (body, rest) := by
  induction isBody with
  | nil => rfl
  | @plain c cs noQuote noSlash _ ih =>
    rw [List.cons_append, literalBody.eq_def]
    split <;> simp_all
  | pair noFeed _ ih => simp [literalBody, noFeed, ih]

theorem literalBody_some {cs body rest : List Char} (read : literalBody cs = some (body, rest)) :
    IsBody body ∧ cs = body ++ '\'' :: rest := by
  fun_induction literalBody cs generalizing body with
  | case1 => cases read
  | case2 =>
    cases read
    exact ⟨.nil, rfl⟩
  | case3 => cases read
  | case4 c cs feed ih =>
    obtain ⟨⟨inner, rest⟩, inside, same⟩ := Option.map_eq_some_iff.mp read
    cases same
    obtain ⟨isBody, rfl⟩ := ih inside
    exact ⟨.pair (by simpa using feed) isBody, rfl⟩
  | case5 => cases read
  | case6 c cs noQuote noPair noSlash ih =>
    obtain ⟨⟨inner, rest⟩, inside, same⟩ := Option.map_eq_some_iff.mp read
    cases same
    obtain ⟨isBody, rfl⟩ := ih inside
    exact ⟨.plain noQuote (by simpa using noSlash) isBody, rfl⟩

/-- A quoted argument, as it is written. -/
def quote (raw : String) : List Char := '\'' :: (raw.toList ++ ['\''])

theorem quote_trimLeft (raw : String) (rest : List Char) : Text.trimLeft (quote raw ++ rest) = quote raw ++ rest :=
  Text.trimLeft_visible (by decide) _

theorem literal_quote {raw : String} (isBody : IsBody raw.toList) (rest : List Char) :
    literal (quote raw ++ rest) = some (raw.toList, rest) := by
  rw [quote, List.cons_append, List.append_assoc]
  exact literalBody_body isBody rest

theorem literal_some {cs body rest : List Char} (read : literal cs = some (body, rest)) :
    IsBody body ∧ cs = quote (String.ofList body) ++ rest := by
  unfold literal at read
  split at read
  · obtain ⟨isBody, rfl⟩ := literalBody_some read
    exact ⟨isBody, by simp [quote]⟩
  · cases read

theorem escape_isBody (cs : List Char) : IsBody (escape cs) := by
  induction cs with
  | nil => exact .nil
  | cons c cs ih =>
    rw [escape_cons]
    unfold escapeChar
    split
    · exact .pair (by decide) ih
    · exact .pair (by decide) ih
    · exact .pair (by decide) ih
    · exact .pair (by decide) ih
    · rename_i noSlash noQuote _ _
      exact .plain noQuote noSlash ih

theorem unescape_escape (cs : List Char) : unescape (escape cs) = cs := by
  induction cs with
  | nil => rfl
  | cons c cs ih =>
    rw [escape_cons]
    unfold escapeChar
    split <;> simp_all [unescape, escaped]

/-- Escaping writes marks of its own and keeps what is no line end. -/
theorem mem_escape {c : Char} {cs : List Char} (member : c ∈ escape cs) :
    c ∈ ['\\', '\'', 'n', 'r'] ∨ c ∈ cs ∧ c ≠ '\n' ∧ c ≠ '\r' := by
  obtain ⟨d, inside, member⟩ := List.mem_flatMap.mp member
  unfold escapeChar at member
  split at member
  · exact .inl (by grind)
  · exact .inl (by grind)
  · exact .inl (by grind)
  · exact .inl (by grind)
  · rename_i noFeed noReturn
    rw [List.mem_singleton] at member
    subst member
    exact .inr ⟨inside, noFeed, noReturn⟩

theorem escape_unbroken {cs : List Char} (escapable : Escapable cs) : Text.Unbroken (escape cs) := by
  have marks : ∀ c ∈ ['\\', '\'', 'n', 'r'], Text.isLineBoundary c = false := by
    simp only [List.forall_mem_cons]
    exact ⟨rfl, rfl, rfl, rfl, List.forall_mem_nil _⟩
  intro c member
  rcases mem_escape member with mark | ⟨inside, noFeed, noReturn⟩
  · exact marks c mark
  · cases boundary : Text.isLineBoundary c
    · rfl
    · rcases escapable c inside boundary with feed | carriage
      · exact absurd feed noFeed
      · exact absurd carriage noReturn

theorem Escapable.cons {c : Char} {cs : List Char} (head : Text.isLineBoundary c = true → c = '\n' ∨ c = '\r')
    (tail : Escapable cs) : Escapable (c :: cs) := List.forall_mem_cons.mpr ⟨head, tail⟩

theorem escaped_escapable {c : Char} (inside : Text.isLineBoundary c = false) :
    Text.isLineBoundary (escaped c) = true → escaped c = '\n' ∨ escaped c = '\r' := by
  unfold escaped
  split
  · simp
  · simp
  · decide
  · simp [inside]

/-- What has been unescaped from one line has no line boundaries but those that are escaped. -/
theorem unescape_escapable {cs : List Char} (unbroken : Text.Unbroken cs) : Escapable (unescape cs) := by
  have rest {c : Char} {cs : List Char} (unbroken : Text.Unbroken (c :: cs)) :
      Text.isLineBoundary c = false ∧ Text.Unbroken cs := List.forall_mem_cons.mp unbroken
  fun_induction unescape cs with
  | case1 => simp [Escapable]
  | case2 c cs feed ih =>
    obtain ⟨inside, _⟩ := rest (rest unbroken).2
    cases beq_iff_eq.mp feed
    cases inside
  | case3 c cs _ ih =>
    obtain ⟨inside, after⟩ := rest (rest unbroken).2
    exact (ih after).cons (escaped_escapable inside)
  | case4 c cs _ ih =>
    obtain ⟨inside, after⟩ := rest unbroken
    exact (ih after).cons (by simp [inside])

@[simp] theorem toList_quoted (s : String) : (quoted s).toList = '\'' :: (escape s.toList ++ ['\'']) := by
  simp [quoted]

theorem quoted_unbroken {s : String} (escapable : Escapable s.toList) : Text.Unbroken (quoted s).toList := by
  rw [toList_quoted]
  exact .cons (by decide) ((escape_unbroken escapable).append (by decide))

theorem quoted_quote (s : String) : (quoted s).toList = quote (String.ofList (escape s.toList)) := by simp [quote]

theorem literal_quoted (s : String) (rest : List Char) :
    literal ((quoted s).toList ++ rest) = some (escape s.toList, rest) := by
  rw [quoted_quote, literal_quote (by simpa using escape_isBody s.toList), String.toList_ofList]

end BrowserFlow.Script
