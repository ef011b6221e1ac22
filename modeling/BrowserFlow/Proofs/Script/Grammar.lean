import BrowserFlow.Proofs.Script.Literal
import BrowserFlow.Script.Reader
import Mathlib.Data.List.Nodup

/-!
The grammar of lines. A line is a command just if it begins with a text of the grammar, in one way only, and the kinds
of commands exclude each other; the readers may be tried in any order.
-/

namespace BrowserFlow

namespace Text

def AreBlanks (cs : List Char) : Prop := ∀ c ∈ cs, isBlank c = true

/-- The first character, if there is one, is none of the digits. -/
def EndsRun (cs : List Char) : Prop := ∀ c ∈ cs.head?, isDigit c = false

def IsRun (ds : List Char) : Prop := ds ≠ [] ∧ ∀ d ∈ ds, isDigit d = true

def IsSignedRun (ds : List Char) : Prop := IsRun ds ∨ ∃ run, ds = '-' :: run ∧ IsRun run

theorem trimLeft_blanks {gap : List Char} (blank : AreBlanks gap) (cs : List Char) :
    trimLeft (gap ++ cs) = trimLeft cs := List.dropWhile_append_of_pos blank

theorem blanks_trimLeft (cs : List Char) : ∃ gap, AreBlanks gap ∧ cs = gap ++ trimLeft cs :=
  ⟨cs.takeWhile isBlank, List.all_eq_true.mp List.all_takeWhile, List.takeWhile_append_dropWhile.symm⟩

theorem digit_not_blank {c : Char} (digit : isDigit c = true) : isBlank c = false := by
  have zeros : ∀ z ∈ digitZeros, ∀ k < 10, isBlank (Char.ofNat (z + k)) = false := by decide +kernel
  obtain ⟨v, value⟩ := Option.isSome_iff_exists.mp digit
  obtain ⟨z, found, _⟩ := Option.map_eq_some_iff.mp value
  have range := List.find?_some found
  rw [Bool.and_eq_true, decide_eq_true_eq, decide_eq_true_eq] at range
  have visible := zeros z (List.mem_of_find?_eq_some found) (c.toNat - z) (by omega)
  rwa [Nat.add_sub_cancel' range.1, Char.ofNat_toNat] at visible

theorem EndsRun.gap {gap : List Char} (blank : AreBlanks gap) {c : Char} (other : isDigit c = false) (cs : List Char) :
    EndsRun (gap ++ c :: cs) := by
  cases gap with
  | nil => simpa [EndsRun] using other
  | cons b gap =>
    intro d first
    cases first
    cases digit : isDigit b with
    | false => rfl
    | true => exact absurd (digit_not_blank digit) (by simp [blank b])

end Text

namespace Script

theorem expect_append (word rest : List Char) : expect word (word ++ rest) = some rest := by
  induction word with
  | nil => rfl
  | cons c word ih => simp [expect, ih]

theorem expect_some {word cs rest : List Char} (read : expect word cs = some rest) : cs = word ++ rest := by
  induction word generalizing cs with
  | nil => exact Option.some.inj read
  | cons c word ih =>
    cases cs with
    | nil => cases read
    | cons d cs =>
      rw [expect] at read
      split at read
      · rename_i same
        rw [eq_of_beq same, ih read, List.cons_append]
      · cases read

theorem expect_iff {word cs rest : List Char} : expect word cs = some rest ↔ cs = word ++ rest :=
  ⟨expect_some, fun same => same ▸ expect_append word rest⟩

theorem expect_isSome {word cs : List Char} : (expect word cs).isSome = true ↔ word <+: cs := by
  rw [Option.isSome_iff_exists]
  exact exists_congr fun rest => expect_iff.trans eq_comm

theorem digits?_run {ds rest : List Char} (run : Text.IsRun ds) (ends : Text.EndsRun rest) :
    digits? (ds ++ rest) = some (ds, rest) := by
  have last : rest.takeWhile Text.isDigit = [] ∧ rest.dropWhile Text.isDigit = rest := by
    cases rest with
    | nil => exact ⟨rfl, rfl⟩
    | cons c rest => simp [ends c rfl]
  have taken : (ds ++ rest).takeWhile Text.isDigit = ds := by
    rw [List.takeWhile_append_of_pos run.2, last.1, List.append_nil]
  have left : (ds ++ rest).dropWhile Text.isDigit = rest := by rw [List.dropWhile_append_of_pos run.2, last.2]
  simp [digits?, taken, left, run.1]

theorem digits?_some {cs ds rest : List Char} (read : digits? cs = some (ds, rest)) :
    Text.IsRun ds ∧ cs = ds ++ rest := by
  unfold digits? at read
  dsimp only at read
  split at read
  · cases read
  · rename_i some
    cases read
    refine ⟨⟨by simpa using some, List.all_eq_true.mp List.all_takeWhile⟩, List.takeWhile_append_dropWhile.symm⟩

theorem signedDigits?_run {ds rest : List Char} (run : Text.IsSignedRun ds) (ends : Text.EndsRun rest) :
    signedDigits? (ds ++ rest) = some (ds, rest) := by
  rcases run with run | ⟨ds, rfl, run⟩
  · obtain ⟨d, tail, rfl⟩ := List.exists_cons_of_ne_nil run.1
    have noSign : d ≠ '-' := by
      rintro rfl
      exact absurd (run.2 '-' List.mem_cons_self) (by decide)
    have read := digits?_run run ends
    rw [List.cons_append] at read ⊢
    rw [signedDigits?, read]
    intro cs same
    exact noSign (List.cons.inj same).1
  · rw [List.cons_append, signedDigits?, digits?_run run ends]
    rfl

theorem signedDigits?_some {cs ds rest : List Char} (read : signedDigits? cs = some (ds, rest)) :
    Text.IsSignedRun ds ∧ cs = ds ++ rest := by
  unfold signedDigits? at read
  split at read
  · obtain ⟨⟨run, rest⟩, inside, same⟩ := Option.map_eq_some_iff.mp read
    cases same
    obtain ⟨isRun, rfl⟩ := digits?_some inside
    exact ⟨.inr ⟨run, rfl, isRun⟩, rfl⟩
  · obtain ⟨isRun, rfl⟩ := digits?_some read
    exact ⟨.inl isRun, rfl⟩

theorem expectSpaced_gap (word : String) {c : Char} {tail : List Char} (letters : word.toList = c :: tail)
    (visible : Text.isBlank c = false) {gap : List Char} (blank : Text.AreBlanks gap) (rest : List Char) :
    expectSpaced word (gap ++ (word.toList ++ rest)) = some rest := by
  rw [expectSpaced, Text.trimLeft_blanks blank, letters, List.cons_append, Text.trimLeft_visible visible,
    ← List.cons_append, expect_append]

theorem expectSpaced_some {word : String} {cs rest : List Char} (read : expectSpaced word cs = some rest) :
    ∃ gap, Text.AreBlanks gap ∧ cs = gap ++ (word.toList ++ rest) := by
  obtain ⟨gap, blank, same⟩ := Text.blanks_trimLeft cs
  exact ⟨gap, blank, by rw [← expect_some read, ← same]⟩

/-- What may stand before `page`. -/
inductive IsLead : List Char → Prop
  | none : IsLead []
  | await {gap : List Char} (some : gap ≠ []) (blank : Text.AreBlanks gap) : IsLead ("await".toList ++ gap)

/-- The beginning of a call, up to its first argument. -/
inductive Opens (name : String) : List Char → Prop
  | intro {lead gap : List Char} (isLead : IsLead lead) (blank : Text.AreBlanks gap) :
      Opens name (lead ++ ("page.".toList ++ (name.toList ++ '(' :: gap)))

theorem expect_skipAwait {lead : List Char} (isLead : IsLead lead) (rest : List Char) :
    expect "page.".toList (skipAwait (lead ++ ("page.".toList ++ rest))) = some rest := by
  cases isLead with
  | none => rfl
  | @await gap some blank =>
    obtain ⟨b, gap, rfl⟩ := List.exists_cons_of_ne_nil some
    obtain ⟨first, others⟩ := List.forall_mem_cons.mp blank
    have skipped : skipAwait ("await".toList ++ b :: gap ++ ("page.".toList ++ rest)) = "page.".toList ++ rest := by
      rw [skipAwait, List.append_assoc, expect_append]
      simp only [List.cons_append, first, if_true]
      rw [Text.trimLeft_blanks others]
      exact Text.trimLeft_visible (by decide) _
    rw [skipped, expect_append]

theorem skipAwait_lead (cs : List Char) : ∃ lead, IsLead lead ∧ cs = lead ++ skipAwait cs := by
  unfold skipAwait
  split
  · rename_i c rest await
    split
    · rename_i blank
      obtain ⟨gap, blanks, same⟩ := Text.blanks_trimLeft rest
      refine ⟨_, .await (List.cons_ne_nil c gap) (List.forall_mem_cons.mpr ⟨blank, blanks⟩), ?_⟩
      rw [List.append_assoc, List.cons_append, ← same, expect_some await]
    · exact ⟨[], .none, rfl⟩
  · exact ⟨[], .none, rfl⟩

theorem call?_opens {name : String} {front : List Char} (opens : Opens name front) (cs : List Char) :
    call? name (front ++ cs) = some (Text.trimLeft cs) := by
  obtain ⟨isLead, blank⟩ := opens
  rw [call?]
  simp only [List.append_assoc, expect_skipAwait isLead, List.cons_append, Option.bind_eq_bind, Option.bind_some,
    expect_append, expect, beq_self_eq_true, if_true, Text.trimLeft_blanks blank]
  rfl

theorem call?_some {name : String} {cs rest : List Char} (read : call? name cs = some rest) :
    ∃ front, Opens name front ∧ cs = front ++ rest := by
  obtain ⟨cs₁, page, read⟩ := Option.bind_eq_some_iff.mp read
  obtain ⟨cs₂, named, read⟩ := Option.bind_eq_some_iff.mp read
  obtain ⟨cs₃, opened, read⟩ := Option.bind_eq_some_iff.mp read
  obtain ⟨lead, isLead, same⟩ := skipAwait_lead cs
  obtain ⟨gap, blank, same'⟩ := Text.blanks_trimLeft cs₃
  cases read
  refine ⟨_, .intro isLead blank, ?_⟩
  rw [same, expect_some page, expect_some named, expect_some opened]
  simp [← same']

/-- The part of a call that opens it has one name. -/
theorem call?_name_unique {name other : String} {cs rest rest' : List Char} (plain : '(' ∉ name.toList)
    (plain' : '(' ∉ other.toList) (read : call? name cs = some rest) (read' : call? other cs = some rest') :
    name = other := by
  obtain ⟨cs₁, page, read⟩ := Option.bind_eq_some_iff.mp read
  obtain ⟨cs₂, named, read⟩ := Option.bind_eq_some_iff.mp read
  obtain ⟨_, opened, _⟩ := Option.bind_eq_some_iff.mp read
  obtain ⟨_, page', read'⟩ := Option.bind_eq_some_iff.mp read'
  obtain ⟨_, named', read'⟩ := Option.bind_eq_some_iff.mp read'
  obtain ⟨_, opened', _⟩ := Option.bind_eq_some_iff.mp read'
  cases page.symm.trans page'
  have same := (expect_some named).symm.trans (expect_some named')
  rw [expect_some opened, expect_some opened'] at same
  exact String.toList_inj.mp (Text.append_inj_at plain plain' same).1

theorem call?_other {name other : String} {front : List Char} (plain : '(' ∉ name.toList) (plain' : '(' ∉ other.toList)
    (differ : name ≠ other) (opens : Opens name front) (cs : List Char) : call? other (front ++ cs) = none := by
  cases read : call? other (front ++ cs) with
  | none => rfl
  | some _ => exact absurd (call?_name_unique plain plain' (call?_opens opens cs) read) differ

namespace Statement

/-- The name that a statement is called by. -/
def method : Statement → String
  | navigate _ => "goto"
  | click _ => "click"
  | fill _ _ => "fill"
  | keyPress _ => "keyboard.press"
  | select _ _ => "selectOption"
  | scroll _ _ => "evaluate"
  | wait _ => "waitForTimeout"
  | manualStep _ => ""

/-- The statement of arguments as they are written: texts are unescaped, numbers stay as they are. -/
def decoded : Statement → Statement
  | navigate url => navigate (unescapedText url.toList)
  | click selector => click (unescapedText selector.toList)
  | fill selector value => fill (unescapedText selector.toList) (unescapedText value.toList)
  | keyPress key => keyPress (unescapedText key.toList)
  | select selector value => select (unescapedText selector.toList) (unescapedText value.toList)
  | s => s

end Statement

/-- The arguments of a statement, as they are written, up to what ends the last one. -/
inductive HasArguments : Statement → List Char → Prop
  | navigate {url : String} (body : IsBody url.toList) : HasArguments (.navigate url) (quote url)
  | click {selector : String} (body : IsBody selector.toList) : HasArguments (.click selector) (quote selector)
  | fill {selector value : String} {gap : List Char} (first : IsBody selector.toList) (second : IsBody value.toList)
      (blank : Text.AreBlanks gap) : HasArguments (.fill selector value) (quote selector ++ ',' :: (gap ++ quote value))
  | keyPress {key : String} (body : IsBody key.toList) : HasArguments (.keyPress key) (quote key)
  | select {selector value : String} {gap : List Char} (first : IsBody selector.toList) (second : IsBody value.toList)
      (blank : Text.AreBlanks gap) :
      HasArguments (.select selector value) (quote selector ++ ',' :: (gap ++ quote value))
  | scroll {x y : String} {g₁ g₂ g₃ g₄ g₅ g₆ : List Char} (first : Text.IsSignedRun x.toList)
      (second : Text.IsSignedRun y.toList) (blank : ∀ gap ∈ [g₁, g₂, g₃, g₄, g₅, g₆], Text.AreBlanks gap) :
      HasArguments (.scroll x y) ("()".toList ++ (g₁ ++ ("=>".toList ++ (g₂ ++ ("window.scrollTo(".toList ++
        (g₃ ++ (x.toList ++ (g₄ ++ (",".toList ++ (g₅ ++ (y.toList ++ (g₆ ++ ")".toList))))))))))))
  | wait {ms : String} {gap : List Char} (run : Text.IsRun ms.toList) (blank : Text.AreBlanks gap) :
      HasArguments (.wait ms) (ms.toList ++ (gap ++ ")".toList))

/-- A text of the grammar, with the arguments as they are written in it. -/
inductive Derives (s : Statement) : List Char → Prop
  | intro {front arguments : List Char} (opens : Opens s.method front) (given : HasArguments s arguments) :
      Derives s (front ++ arguments)

/-! The same readers as in `Statement.ofCall?`, with what they leave of the text. -/

def captureText (make : String → Statement) (cs : List Char) : Option (Statement × List Char) := do
  let (raw, rest) ← literal cs
  return (make (String.ofList raw), rest)

def captureTexts (make : String → String → Statement) (cs : List Char) : Option (Statement × List Char) := do
  let (first, cs) ← literal cs
  let cs ← expect [','] cs
  let (second, rest) ← literal (Text.trimLeft cs)
  return (make (String.ofList first) (String.ofList second), rest)

def captureScroll (cs : List Char) : Option (Statement × List Char) := do
  let cs ← expect "()".toList cs
  let cs ← expectSpaced "=>" cs
  let cs ← expectSpaced "window.scrollTo(" cs
  let (x, cs) ← signedDigits? (Text.trimLeft cs)
  let cs ← expectSpaced "," cs
  let (y, cs) ← signedDigits? (Text.trimLeft cs)
  let rest ← expectSpaced ")" cs
  return (.scroll (String.ofList x) (String.ofList y), rest)

def captureWait (cs : List Char) : Option (Statement × List Char) := do
  let (ms, cs) ← digits? cs
  let rest ← expectSpaced ")" cs
  return (.wait (String.ofList ms), rest)

/-- The name of a call and how its arguments are read. -/
abbrev CallForm := String × (List Char → Option (Statement × List Char))

/-- The calls that are recognised, in the order in which they are tried. -/
def calls : List CallForm :=
  [("goto", captureText .navigate), ("click", captureText .click), ("fill", captureTexts .fill),
    ("keyboard.press", captureText .keyPress), ("selectOption", captureTexts .select), ("evaluate", captureScroll),
    ("waitForTimeout", captureWait)]

def readCall (cs : List Char) (call : CallForm) : Option Statement :=
  ((call? call.1 cs).bind call.2).map (·.1.decoded)

theorem readCall_text (name : String) {make : String → Statement}
    (decodes : ∀ raw, (make raw).decoded = make (unescapedText raw.toList)) (cs : List Char) :
    readCall cs (name, captureText make) = (textCall? name cs).map make := by
  unfold readCall textCall? captureText
  cases call? name cs with
  | none => rfl
  | some cs => cases read : literal cs <;> simp [read, decodes]

theorem readCall_texts (name : String) {make : String → String → Statement}
    (decodes : ∀ a b, (make a b).decoded = make (unescapedText a.toList) (unescapedText b.toList)) (cs : List Char) :
    readCall cs (name, captureTexts make) = (textsCall? name cs).map fun (a, b) => make a b := by
  unfold readCall textsCall? captureTexts
  cases call? name cs with
  | none => rfl
  | some cs => simp [Option.map_bind, Function.comp_def, decodes]

theorem readCall_scroll (cs : List Char) :
    readCall cs ("evaluate", captureScroll) = (scrollCall? cs).map fun (x, y) => .scroll x y := by
  unfold readCall scrollCall? captureScroll
  simp [Option.map_bind, Function.comp_def, Statement.decoded]

theorem readCall_wait (cs : List Char) :
    readCall cs ("waitForTimeout", captureWait) = (waitCall? cs).map .wait := by
  unfold readCall waitCall? captureWait
  simp [Option.map_bind, Function.comp_def, Statement.decoded]

theorem ofCall?_calls (cs : List Char) : Statement.ofCall? cs = calls.findSome? (readCall cs) := by
  have next (call : CallForm) (others) :
      (call :: others).findSome? (readCall cs) = (readCall cs call <|> others.findSome? (readCall cs)) := by
    rw [List.findSome?_cons]
    cases readCall cs call <;> rfl
  simp only [calls, next, List.findSome?_nil]
  rw [Statement.ofCall?, readCall_text "goto" fun _ => rfl, readCall_text "click" fun _ => rfl,
    readCall_texts "fill" fun _ _ => rfl, readCall_text "keyboard.press" fun _ => rfl,
    readCall_texts "selectOption" fun _ _ => rfl, readCall_scroll, readCall_wait]
  simp only [Option.orElse_eq_orElse, Option.orElse_eq_or, Option.or_none]

/-! What the readers of arguments accept, and what they leave. -/

theorem captureText_quote (make : String → Statement) {raw : String} (body : IsBody raw.toList) (rest : List Char) :
    captureText make (quote raw ++ rest) = some (make raw, rest) := by
  simp [captureText, literal_quote body]

theorem captureText_some {make : String → Statement} {cs rest : List Char} {s : Statement}
    (read : captureText make cs = some (s, rest)) :
    ∃ raw, IsBody raw.toList ∧ s = make raw ∧ cs = quote raw ++ rest := by
  obtain ⟨⟨raw, _⟩, quoted, same⟩ := Option.bind_eq_some_iff.mp read
  cases same
  obtain ⟨body, rfl⟩ := literal_some quoted
  exact ⟨String.ofList raw, by simpa using body, rfl, rfl⟩

theorem captureTexts_quotes (make : String → String → Statement) {first second : String} {gap : List Char}
    (body : IsBody first.toList) (body' : IsBody second.toList) (blank : Text.AreBlanks gap) (rest : List Char) :
    captureTexts make (quote first ++ ',' :: (gap ++ quote second) ++ rest) = some (make first second, rest) := by
  have trimmed : Text.trimLeft (gap ++ (quote second ++ rest)) = quote second ++ rest := by
    rw [Text.trimLeft_blanks blank, quote_trimLeft]
  simp [captureTexts, List.append_assoc, literal_quote body, literal_quote body', expect, trimmed]

theorem captureTexts_some {make : String → String → Statement} {cs rest : List Char} {s : Statement}
    (read : captureTexts make cs = some (s, rest)) : ∃ first second gap, IsBody first.toList ∧ IsBody second.toList ∧
      Text.AreBlanks gap ∧ s = make first second ∧ cs = quote first ++ ',' :: (gap ++ quote second) ++ rest := by
  obtain ⟨⟨first, cs₁⟩, quoted, read⟩ := Option.bind_eq_some_iff.mp read
  obtain ⟨cs₂, comma, read⟩ := Option.bind_eq_some_iff.mp read
  obtain ⟨⟨second, _⟩, quoted', same⟩ := Option.bind_eq_some_iff.mp read
  cases same
  obtain ⟨gap, blank, gapped⟩ := Text.blanks_trimLeft cs₂
  obtain ⟨body, rfl⟩ := literal_some quoted
  obtain ⟨body', trimmed⟩ := literal_some quoted'
  refine ⟨String.ofList first, String.ofList second, gap, by simpa using body, by simpa using body', blank, rfl, ?_⟩
  rw [expect_some comma, gapped, trimmed]
  simp

theorem captureWait_run {ms : String} {gap : List Char} (run : Text.IsRun ms.toList) (blank : Text.AreBlanks gap)
    (rest : List Char) : captureWait (ms.toList ++ (gap ++ ")".toList) ++ rest) = some (.wait ms, rest) := by
  have ends : Text.EndsRun (gap ++ (")".toList ++ rest)) := .gap blank (by decide) rest
  have close := expectSpaced_gap ")" rfl (by decide) blank rest
  simp only [captureWait, List.append_assoc, digits?_run run ends, close, Option.bind_eq_bind, Option.bind_some,
    String.ofList_toList]
  rfl

theorem captureWait_some {cs rest : List Char} {s : Statement} (read : captureWait cs = some (s, rest)) :
    ∃ ms gap, Text.IsRun ms.toList ∧ Text.AreBlanks gap ∧ s = .wait ms ∧
      cs = ms.toList ++ (gap ++ ")".toList) ++ rest := by
  obtain ⟨⟨ms, cs₁⟩, digits, read⟩ := Option.bind_eq_some_iff.mp read
  obtain ⟨_, closed, same⟩ := Option.bind_eq_some_iff.mp read
  cases same
  obtain ⟨run, rfl⟩ := digits?_some digits
  obtain ⟨gap, blank, rfl⟩ := expectSpaced_some closed
  exact ⟨String.ofList ms, gap, by simpa using run, blank, rfl, by simp⟩

theorem signedRun_trimLeft {ds : List Char} (run : Text.IsSignedRun ds) (rest : List Char) :
    Text.trimLeft (ds ++ rest) = ds ++ rest := by
  rcases run with run | ⟨ds, rfl, _⟩
  · obtain ⟨d, tail, rfl⟩ := List.exists_cons_of_ne_nil run.1
    exact Text.trimLeft_visible (Text.digit_not_blank (run.2 d List.mem_cons_self)) _
  · exact Text.trimLeft_visible (by decide) _

theorem captureScroll_runs {x y : String} {g₁ g₂ g₃ g₄ g₅ g₆ : List Char} (first : Text.IsSignedRun x.toList)
    (second : Text.IsSignedRun y.toList) (blank : ∀ gap ∈ [g₁, g₂, g₃, g₄, g₅, g₆], Text.AreBlanks gap)
    (rest : List Char) : captureScroll ("()".toList ++ (g₁ ++ ("=>".toList ++ (g₂ ++ ("window.scrollTo(".toList ++
      (g₃ ++ (x.toList ++ (g₄ ++ (",".toList ++ (g₅ ++ (y.toList ++ (g₆ ++ ")".toList))))))))))) ++ rest) =
        some (.scroll x y, rest) := by
  simp only [List.forall_mem_cons, List.not_mem_nil, false_implies, implies_true, and_true] at blank
  obtain ⟨b₁, b₂, b₃, b₄, b₅, b₆⟩ := blank
  have arrow := fun cs => expectSpaced_gap "=>" rfl (by decide) b₁ cs
  have target := fun cs => expectSpaced_gap "window.scrollTo(" rfl (by decide) b₂ cs
  have comma := fun cs => expectSpaced_gap "," rfl (by decide) b₄ cs
  have close := fun cs => expectSpaced_gap ")" rfl (by decide) b₆ cs
  have left (cs : List Char) : Text.EndsRun (g₄ ++ (",".toList ++ cs)) := .gap b₄ (by decide) cs
  have right (cs : List Char) : Text.EndsRun (g₆ ++ (")".toList ++ cs)) := .gap b₆ (by decide) cs
  simp only [captureScroll, List.append_assoc, expect_append, arrow, target, Text.trimLeft_blanks b₃,
    signedRun_trimLeft first, signedDigits?_run first (left _), comma, Text.trimLeft_blanks b₅,
    signedRun_trimLeft second, signedDigits?_run second (right _), close, Option.bind_eq_bind, Option.bind_some,
    String.ofList_toList]
  rfl

theorem captureScroll_some {cs rest : List Char} {s : Statement} (read : captureScroll cs = some (s, rest)) :
    ∃ arguments, HasArguments s arguments ∧ s.method = "evaluate" ∧ cs = arguments ++ rest := by
  obtain ⟨cs₁, opened, read⟩ := Option.bind_eq_some_iff.mp read
  obtain ⟨cs₂, arrow, read⟩ := Option.bind_eq_some_iff.mp read
  obtain ⟨cs₃, target, read⟩ := Option.bind_eq_some_iff.mp read
  obtain ⟨⟨x, cs₄⟩, number, read⟩ := Option.bind_eq_some_iff.mp read
  obtain ⟨cs₅, comma, read⟩ := Option.bind_eq_some_iff.mp read
  obtain ⟨⟨y, cs₆⟩, number', read⟩ := Option.bind_eq_some_iff.mp read
  obtain ⟨_, close, same⟩ := Option.bind_eq_some_iff.mp read
  cases same
  obtain ⟨g₁, b₁, rfl⟩ := expectSpaced_some arrow
  obtain ⟨g₂, b₂, rfl⟩ := expectSpaced_some target
  obtain ⟨g₃, b₃, spaced⟩ := Text.blanks_trimLeft cs₃
  obtain ⟨first, trimmed⟩ := signedDigits?_some number
  obtain ⟨g₄, b₄, rfl⟩ := expectSpaced_some comma
  obtain ⟨g₅, b₅, spaced'⟩ := Text.blanks_trimLeft cs₅
  obtain ⟨second, trimmed'⟩ := signedDigits?_some number'
  obtain ⟨g₆, b₆, rfl⟩ := expectSpaced_some close
  have blank : ∀ gap ∈ [g₁, g₂, g₃, g₄, g₅, g₆], Text.AreBlanks gap := by simp [b₁, b₂, b₃, b₄, b₅, b₆]
  refine ⟨_, .scroll (x := String.ofList x) (y := String.ofList y) (by simpa using first) (by simpa using second) blank,
    rfl, ?_⟩
  rw [expect_some opened, spaced, trimmed, spaced', trimmed']
  simp

theorem calls_some {call : CallForm} (listed : call ∈ calls)
    {cs rest : List Char} {s : Statement} (read : call.2 cs = some (s, rest)) :
    ∃ arguments, HasArguments s arguments ∧ s.method = call.1 ∧ cs = arguments ++ rest := by
  simp only [calls, List.mem_cons, List.not_mem_nil, or_false] at listed
  rcases listed with rfl | rfl | rfl | rfl | rfl | rfl | rfl
  · obtain ⟨raw, body, rfl, rfl⟩ := captureText_some read
    exact ⟨_, .navigate body, rfl, rfl⟩
  · obtain ⟨raw, body, rfl, rfl⟩ := captureText_some read
    exact ⟨_, .click body, rfl, rfl⟩
  · obtain ⟨first, second, gap, body, body', blank, rfl, rfl⟩ := captureTexts_some read
    exact ⟨_, .fill body body' blank, rfl, rfl⟩
  · obtain ⟨raw, body, rfl, rfl⟩ := captureText_some read
    exact ⟨_, .keyPress body, rfl, rfl⟩
  · obtain ⟨first, second, gap, body, body', blank, rfl, rfl⟩ := captureTexts_some read
    exact ⟨_, .select body body' blank, rfl, rfl⟩
  · exact captureScroll_some read
  · obtain ⟨ms, gap, run, blank, rfl, rfl⟩ := captureWait_some read
    exact ⟨_, .wait run blank, rfl, rfl⟩

theorem calls_arguments {s : Statement} {arguments : List Char} (given : HasArguments s arguments) :
    ∃ call ∈ calls, call.1 = s.method ∧ ∀ rest, call.2 (arguments ++ rest) = some (s, rest) := by
  cases given with
  | navigate body => exact ⟨("goto", captureText .navigate), by simp [calls], rfl, captureText_quote _ body⟩
  | click body => exact ⟨("click", captureText .click), by simp [calls], rfl, captureText_quote _ body⟩
  | fill first second blank =>
    exact ⟨("fill", captureTexts .fill), by simp [calls], rfl, captureTexts_quotes _ first second blank⟩
  | keyPress body => exact ⟨("keyboard.press", captureText .keyPress), by simp [calls], rfl, captureText_quote _ body⟩
  | select first second blank =>
    exact ⟨("selectOption", captureTexts .select), by simp [calls], rfl, captureTexts_quotes _ first second blank⟩
  | scroll first second blank =>
    exact ⟨("evaluate", captureScroll), by simp [calls], rfl, captureScroll_runs first second blank⟩
  | wait run blank => exact ⟨("waitForTimeout", captureWait), by simp [calls], rfl, captureWait_run run blank⟩

theorem calls_apart : (calls.map (·.1)).Nodup := by decide

theorem calls_plain : ∀ name ∈ calls.map (·.1), '(' ∉ name.toList := by decide

theorem HasArguments.visible {s : Statement} {arguments : List Char} (given : HasArguments s arguments)
    (rest : List Char) : Text.trimLeft (arguments ++ rest) = arguments ++ rest := by
  cases given with
  | wait run blank =>
    rw [List.append_assoc]
    exact signedRun_trimLeft (.inl run) _
  | _ => exact Text.trimLeft_visible (by decide) _

/-- A text of the grammar is read whole, by one of the calls. -/
theorem Derives.captured {s : Statement} {w : List Char} (derives : Derives s w) (rest : List Char) :
    ∃ call ∈ calls, ∃ cs, call? call.1 (w ++ rest) = some cs ∧ call.2 cs = some (s, rest) := by
  obtain ⟨opens, given⟩ := derives
  obtain ⟨call, listed, named, read⟩ := calls_arguments given
  refine ⟨call, listed, _, ?_, read rest⟩
  rw [named, List.append_assoc, call?_opens opens, given.visible]

/-- No line begins with two texts of the grammar. -/
theorem Derives.unique {s t : Statement} {w v line : List Char} (left : Derives s w) (right : Derives t v)
    (front : w <+: line) (front' : v <+: line) : s = t ∧ w = v := by
  obtain ⟨rest, rfl⟩ := front
  obtain ⟨rest', same⟩ := front'
  obtain ⟨call, listed, cs, opened, read⟩ := left.captured rest
  obtain ⟨other, listed', cs', opened', read'⟩ := right.captured rest'
  rw [same] at opened'
  have names := call?_name_unique (calls_plain _ (List.mem_map_of_mem listed))
    (calls_plain _ (List.mem_map_of_mem listed')) opened opened'
  cases List.inj_on_of_nodup_map calls_apart listed listed' names
  cases opened.symm.trans opened'
  cases read.symm.trans read'
  exact ⟨rfl, (List.append_cancel_right same).symm⟩

theorem readCall_derives {call : CallForm} (listed : call ∈ calls)
    {line : List Char} {t : Statement} (read : readCall line call = some t) :
    ∃ s w, Derives s w ∧ w <+: line ∧ t = s.decoded := by
  obtain ⟨⟨s, rest⟩, taken, rfl⟩ := Option.map_eq_some_iff.mp read
  obtain ⟨cs, opened, captured⟩ := Option.bind_eq_some_iff.mp taken
  obtain ⟨front, opens, rfl⟩ := call?_some opened
  obtain ⟨arguments, given, named, rfl⟩ := calls_some listed captured
  exact ⟨s, front ++ arguments, .intro (named ▸ opens) given, ⟨rest, List.append_assoc ..⟩, rfl⟩

/-- In whatever order the calls are tried, the statement found is the one that the line begins with. -/
theorem findSome?_derives {table : List CallForm}
    (order : table.Perm calls) (line : List Char) (t : Statement) :
    table.findSome? (readCall line) = some t ↔ ∃ s w, Derives s w ∧ w <+: line ∧ t = s.decoded := by
  have sound {t : Statement} (found : table.findSome? (readCall line) = some t) :
      ∃ s w, Derives s w ∧ w <+: line ∧ t = s.decoded := by
    obtain ⟨call, listed, read⟩ := List.exists_of_findSome?_eq_some found
    exact readCall_derives (order.mem_iff.mp listed) read
  refine ⟨sound, ?_⟩
  rintro ⟨s, w, derives, front, rfl⟩
  obtain ⟨rest, rfl⟩ := front
  obtain ⟨call, listed, cs, opened, captured⟩ := derives.captured rest
  have read : readCall (w ++ rest) call = some s.decoded := by
    rw [readCall, opened, Option.bind_some, captured, Option.map_some]
  cases found : table.findSome? (readCall (w ++ rest)) with
  | none =>
    have missed := List.findSome?_eq_none_iff.mp found call (order.mem_iff.mpr listed)
    cases read.symm.trans missed
  | some u =>
    obtain ⟨t, v, derives', front, rfl⟩ := sound found
    rw [(derives.unique derives' (List.prefix_append w rest) front).1]

/-- A call is recognised just in the lines that begin with a text of the grammar. -/
theorem ofCall?_derives {line : List Char} {t : Statement} :
    Statement.ofCall? line = some t ↔ ∃ s w, Derives s w ∧ w <+: line ∧ t = s.decoded := by
  rw [ofCall?_calls]
  exact findSome?_derives (List.Perm.refl _) line t

theorem Derives.not_import {s : Statement} {w line : List Char} (derives : Derives s w) (front : w <+: line) :
    ¬"import ".toList <+: line := by
  rintro ⟨rest, rfl⟩
  obtain ⟨after, same⟩ := front
  obtain ⟨⟨isLead, _⟩, _⟩ := derives
  cases isLead <;> simp at same

theorem ofLine?_import {line : List Char} (importing : "import ".toList <+: line) :
    Statement.ofLine? line = none := by
  rw [Statement.ofLine?, if_pos (expect_isSome.mpr importing)]

theorem ofLine?_slashes {line : List Char} (slashes : "//".toList <+: line) : Statement.ofLine? line =
    (expect manualStepMarker.toList line).map fun rest => .manualStep (String.ofList (Text.trim rest)) := by
  obtain ⟨rest, rfl⟩ := slashes
  rfl

theorem ofLine?_grammar {line : List Char} (noSlashes : ¬"//".toList <+: line) (t : Statement) :
    Statement.ofLine? line = some t ↔ ∃ s w, Derives s w ∧ w <+: line ∧ t = s.decoded := by
  by_cases importing : "import ".toList <+: line
  · rw [ofLine?_import importing]
    refine ⟨nofun, ?_⟩
    rintro ⟨s, w, derives, front, _⟩
    exact absurd importing (derives.not_import front)
  · rw [Statement.ofLine?, if_neg (mt expect_isSome.mp importing), if_neg (mt expect_isSome.mp noSlashes)]
    exact ofCall?_derives

/-- What a line without its outer blanks says. Nothing, an import and a comment say nothing, unless the comment is the
    mark of a step by hand. Any other line is a command just if it begins with a text of the grammar, and it begins with
    one of them at most; so the order of the calls does not matter. -/
theorem line_grammar (number : Nat) (raw : List Char) :
    ((Text.trim raw = [] ∨ "import ".toList <+: Text.trim raw ∨
      "//".toList <+: Text.trim raw ∧ ¬manualStepMarker.toList <+: Text.trim raw) →
        Command.ofLine? number raw = none) ∧
    (∀ rest, Text.trim raw = manualStepMarker.toList ++ rest → Command.ofLine? number raw =
      some ⟨.manualStep (String.ofList (Text.trim rest)), number, String.ofList (Text.trim raw)⟩) ∧
    (¬"//".toList <+: Text.trim raw → ∀ c, Command.ofLine? number raw = some c ↔
      ∃ s w, Derives s w ∧ w <+: Text.trim raw ∧ c = ⟨s.decoded, number, String.ofList (Text.trim raw)⟩) ∧
    (∀ s t w v, Derives s w → Derives t v → w <+: Text.trim raw → v <+: Text.trim raw → s = t ∧ w = v) ∧
    ∀ table : List CallForm, table.Perm calls →
      table.findSome? (readCall (Text.trim raw)) = Statement.ofCall? (Text.trim raw) := by
  refine ⟨?inert, ?mark, ?command, fun s t w v left right => left.unique right, ?order⟩
  case inert =>
    rintro (empty | importing | ⟨slashes, noMark⟩)
    · rw [Command.ofLine?, empty]
      rfl
    · rw [Command.ofLine?, ofLine?_import importing, Option.map_none]
    · rw [Command.ofLine?, ofLine?_slashes slashes,
        Option.not_isSome_iff_eq_none.mp (mt expect_isSome.mp noMark), Option.map_none, Option.map_none]
  case mark =>
    intro rest marked
    have slashes : "//".toList <+: Text.trim raw := ⟨_, marked.symm⟩
    rw [Command.ofLine?, ofLine?_slashes slashes, marked, expect_append, Option.map_some, Option.map_some]
  case command =>
    intro noSlashes c
    rw [Command.ofLine?, Option.map_eq_some_iff]
    constructor
    · rintro ⟨t, read, rfl⟩
      obtain ⟨s, w, derives, front, rfl⟩ := (ofLine?_grammar noSlashes t).mp read
      exact ⟨s, w, derives, front, rfl⟩
    · rintro ⟨s, w, derives, front, rfl⟩
      exact ⟨s.decoded, (ofLine?_grammar noSlashes _).mpr ⟨s, w, derives, front, rfl⟩, rfl⟩
  case order =>
    intro table order
    refine Option.ext fun t => ?_
    rw [findSome?_derives order, ofCall?_derives]

/-- Blanks in three places, a quote in the selector, and another command in the comment at the end. -/
theorem line_grammar_spaced :
    Command.ofLine? 3 "\tawait  page.fill( '#a\\'b',\t'x'); // page.click('c')".toList =
      some ⟨.fill "#a'b" "x", 3, "await  page.fill( '#a\\'b',\t'x'); // page.click('c')"⟩ := by
  have space : Text.isBlank ' ' = true := by decide
  have tab : Text.isBlank '\t' = true := by decide
  have spaces : Text.AreBlanks "  ".toList := List.forall_mem_cons.mpr ⟨space, List.forall_mem_singleton.mpr space⟩
  have selector : IsBody "#a\\'b".toList :=
    .plain (by decide) (by decide) (.plain (by decide) (by decide) (.pair (by decide)
      (.plain (by decide) (by decide) .nil)))
  have value : IsBody "x".toList := .plain (by decide) (by decide) .nil
  have opens : Opens "fill" "await  page.fill( ".toList :=
    .intro (.await (by decide) spaces) (List.forall_mem_singleton.mpr space)
  have given : HasArguments (.fill "#a\\'b" "x") "'#a\\'b',\t'x'".toList :=
    .fill selector value (List.forall_mem_singleton.mpr tab)
  refine ((line_grammar 3 _).2.2.1 (by decide) _).mpr ⟨.fill "#a\\'b" "x", _, .intro opens given, ?_, ?_⟩
  · exact ⟨"); // page.click('c')".toList, by decide⟩
  · decide

end Script

end BrowserFlow
