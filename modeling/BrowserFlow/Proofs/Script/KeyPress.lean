import BrowserFlow.Proofs.Script.Commands
import BrowserFlow.Proofs.Value.JsonGrammar

/-!
Keys as they are given: by themselves, or as the key of a JSON object. A key by itself is first read as JSON text, and
some keys of letters and digits are JSON text.
-/

namespace BrowserFlow

namespace Json

open Text

/-- Letters and digits that are JSON text: a word, an integer that is not too long, or digits with a power of ten. -/
inductive IsBare : List Char → Prop
  | word {word : String} (known : word ∈ ["null", "true", "false", "NaN", "Infinity"]) : IsBare word.toList
  | integer {whole : List Char} (plain : IsWhole whole) (short : whole.length ≤ Numeral.maxDigits) : IsBare whole
  | power {whole ds : List Char} {mark : Char} (plain : IsWhole whole) (marks : mark = 'e' ∨ mark = 'E')
      (digits : AreDigits ds) : IsBare (whole ++ mark :: ds)

theorem space_plain {c : Char} (blank : isSpace c = true) : c.isAlphanum = false := by
  simp only [isSpace, Bool.or_eq_true, beq_iff_eq] at blank
  rcases blank with ((rfl | rfl) | rfl) | rfl <;> decide

section

variable {cs : List Char} (plain : ∀ c ∈ cs, c.isAlphanum = true)

include plain

theorem absent {c : Char} (other : c.isAlphanum = false) : c ∉ cs := by
  intro member
  rw [plain c member] at other
  cases other

theorem denotes_of_means {v : Value} (means : Means cs v) : Denotes cs v := by
  obtain ⟨before, text, after, rfl, blank, blank', denotes⟩ := means
  have noSpace {gap : List Char} (blank : AreSpaces gap) (within : ∀ c ∈ gap, c ∈ before ++ (text ++ after)) :
      gap = [] := by
    refine List.eq_nil_iff_forall_not_mem.mpr fun c member => ?_
    have letter := plain c (within c member)
    rw [space_plain (blank c member)] at letter
    cases letter
  have front : before = [] := noSpace blank fun c member => List.mem_append_left _ member
  have back : after = [] := noSpace blank' fun c member => by simp [member]
  rw [front, back, List.nil_append, List.append_nil]
  exact denotes

theorem bare_of_denotes {v : Value} (denotes : Denotes cs v) : IsBare cs ∧ v.str? = none ∧ v.dict? = none := by
  have minus := absent plain (by decide : '-'.isAlphanum = false)
  have plus := absent plain (by decide : '+'.isAlphanum = false)
  have point := absent plain (by decide : '.'.isAlphanum = false)
  have quote := absent plain (by decide : '"'.isAlphanum = false)
  have bracket := absent plain (by decide : '['.isAlphanum = false)
  have brace := absent plain (by decide : '\x7b'.isAlphanum = false)
  cases denotes with
  | word known =>
    simp only [words, List.mem_cons, List.not_mem_nil, or_false, Prod.mk.injEq] at known
    rcases known with ⟨rfl, rfl⟩ | ⟨rfl, rfl⟩ | ⟨rfl, rfl⟩ | ⟨rfl, rfl⟩ | ⟨rfl, rfl⟩ | ⟨rfl, rfl⟩
    iterate 5 exact ⟨.word (by decide), rfl, rfl⟩
    exact absurd (by decide) minus
  | number number =>
    cases number with
    | integer whole short => exact ⟨.integer whole short, rfl, rfl⟩
    | double whole digits power some =>
      cases digits with
      | digits => exact absurd (by simp) point
      | none =>
        cases power with
        | none => exact absurd rfl some
        | digits marks known digits =>
          simp only [signs, List.mem_cons, List.not_mem_nil, or_false, Prod.mk.injEq] at known
          rcases known with ⟨rfl, rfl⟩ | ⟨rfl, rfl⟩ | ⟨rfl, rfl⟩
          · exact ⟨.power whole marks digits, rfl, rfl⟩
          · exact absurd (by simp) plus
          · exact absurd (by simp) minus
  | negative => exact absurd List.mem_cons_self minus
  | string => exact absurd List.mem_cons_self quote
  | emptyList | list => exact absurd List.mem_cons_self bracket
  | emptyObject | object => exact absurd List.mem_cons_self brace

end

theorem Denotes.parses {cs : List Char} {v : Value} (denotes : Denotes cs v) : parse? cs = some v :=
  parse?_iff.mpr ⟨[], cs, [], by simp, List.forall_mem_nil _, List.forall_mem_nil _, denotes⟩

theorem IsBare.parses {cs : List Char} (bare : IsBare cs) : ∃ v, parse? cs = some v := by
  cases bare with
  | @word word known =>
    have listed : ∃ v, (word, v) ∈ words := by
      simp only [List.mem_cons, List.not_mem_nil, or_false] at known
      rcases known with rfl | rfl | rfl | rfl | rfl <;> simp [words]
    obtain ⟨v, listed⟩ := listed
    exact ⟨v, (Denotes.word listed).parses⟩
  | integer plain short => exact ⟨_, (Denotes.number (.integer plain short)).parses⟩
  | power plain marks digits =>
    have power := Exponent.digits marks (by decide : (([] : List Char), false) ∈ signs) digits
    exact ⟨_, (Denotes.number (.double plain .none power (by simp))).parses⟩

/-- Whether a text of letters and digits is JSON text can be seen from its form; it is neither an object nor a string
    then. -/
theorem parse?_plain {cs : List Char} (plain : ∀ c ∈ cs, c.isAlphanum = true) :
    (IsBare cs ∧ ∃ v, parse? cs = some v ∧ v.str? = none ∧ v.dict? = none) ∨ (¬ IsBare cs ∧ parse? cs = none) := by
  cases read : parse? cs with
  | none =>
    refine .inr ⟨fun bare => ?_, rfl⟩
    obtain ⟨v, some⟩ := bare.parses
    cases read.symm.trans some
  | some v =>
    obtain ⟨bare, str, dict⟩ := bare_of_denotes plain (denotes_of_means plain (parse?_iff.mp read))
    exact .inl ⟨bare, v, rfl, str, dict⟩

theorem spells_plain {cs : List Char} (plain : ∀ c ∈ cs, c.isAlphanum = true) : Spells cs cs := by
  induction cs with
  | nil => exact .done
  | cons c cs ih =>
    have range := Text.alphanumeric_range (plain c List.mem_cons_self)
    have quote := absent plain (by decide : '"'.isAlphanum = false)
    have backslash := absent plain (by decide : '\\'.isAlphanum = false)
    have rest := ih fun d member => plain d (List.mem_cons_of_mem _ member)
    refine .plain ?_ ?_ (by omega) rest
    · rintro rfl
      exact quote List.mem_cons_self
    · rintro rfl
      exact backslash List.mem_cons_self

/-- The object that has only this key. -/
theorem means_key {k : String} (plain : ∀ c ∈ k.toList, c.isAlphanum = true) :
    Means ("\x7b\"key\": \"" ++ k ++ "\"\x7d").toList (.dict [("key", .str k)]) := by
  have gap : AreSpaces [' '] := List.forall_mem_singleton.mpr (by decide)
  have none : AreSpaces [] := List.forall_mem_nil _
  have name : Spells ['k', 'e', 'y'] ['k', 'e', 'y'] := spells_plain (by simp)
  have pair := Pair.intro name none gap (.string (spells_plain plain))
  rw [String.ofList_toList] at pair
  have object := Denotes.object none (.last pair none)
  exact ⟨[], _, [], by simp, none, none, object⟩

end Json

namespace Script

theorem keyName_object {info k : String} {entries : Entries} (object : Json.Means info.toList (.dict entries))
    (key : entries.getD "key" = .str k) (filled : k ≠ "") : keyName (some (.str info)) = .ok k := by
  have read := Json.parse?_iff.mpr object
  have shown : info ≠ "" := by
    rintro rfl
    cases read
  have present : (some (Value.str info)).bind Value.present? = some (.str info) := by
    simp [Value.present?, Value.isPresent, shown]
  have given : (Value.str k).present? = some (.str k) := by simp [Value.present?, Value.isPresent, filled]
  simp only [keyName, present, read, key, given]
  rfl

theorem keyName_plain {k : String} (filled : k ≠ "") (plain : ∀ c ∈ k.toList, c.isAlphanum = true) :
    (Json.IsBare k.toList ∧ keyName (some (.str k)) = .ok "Enter") ∨
    (¬ Json.IsBare k.toList ∧ keyName (some (.str k)) = .ok k) := by
  have present : (some (Value.str k)).bind Value.present? = some (.str k) := by
    simp [Value.present?, Value.isPresent, filled]
  rcases Json.parse?_plain plain with ⟨bare, v, read, str, dict⟩ | ⟨other, read⟩
  · refine .inl ⟨bare, ?_⟩
    simp only [keyName, present, read]
    cases v with
    | str => cases str
    | dict => cases dict
    | _ => rfl
  · have trimmed : Text.trim k.toList = k.toList :=
      Text.trimmed_of_visible fun c member => Text.alphanumeric_visible (plain c member)
    refine .inr ⟨other, ?_⟩
    simp only [keyName, present, read, trimmed, String.ofList_toList]
    rw [if_neg (by simpa using filled)]

/-- The step of a key; only Enter has a remark. -/
def pressed (k : String) : Step := ⟨.keyPress k, if k == "Enter" then enterRemark else ""⟩

theorem ofAction_key {a : Action} (press : a.kind = .keypress) {v : Option Value} {k : String}
    (named : keyName v = .ok k) : Step.ofAction { a with value := v } = .ok (pressed k) := by
  simp only [Step.ofAction, press, named]
  rfl

theorem ofLine?_pressed (k : String) (number : ℕ) :
    Command.ofLine? number (indent ++ (pressed k).line).toList = some ⟨.keyPress k, number, (pressed k).line⟩ := by
  have remark : Text.trimRight (pressed k).remark.toList = (pressed k).remark.toList := by
    unfold pressed
    dsimp only
    split <;> decide
  exact @ofLine?_indented (.keyPress k) rfl trivial _ remark number

/-- A key of letters and digits that is the key of a JSON object becomes a line that is read back as this key. Given by
    itself it becomes the same line, unless it is JSON text: then it becomes Enter. -/
theorem key_payloads_agree {k info : String} {entries : Entries} (filled : k ≠ "")
    (plain : ∀ c ∈ k.toList, c.isAlphanum = true) (object : Json.Means info.toList (.dict entries))
    (key : entries.getD "key" = .str k) {a : Action} (press : a.kind = .keypress) :
    Step.ofAction { a with value := some (.str info) } = .ok (pressed k) ∧
    (¬ Json.IsBare k.toList → Step.ofAction { a with value := some (.str k) } = .ok (pressed k)) ∧
    (Json.IsBare k.toList → k ≠ "Enter" ∧
      Step.ofAction { a with value := some (.str k) } = .ok (pressed "Enter")) ∧
    ∀ number, Command.ofLine? number (indent ++ (pressed k).line).toList =
      some ⟨.keyPress k, number, (pressed k).line⟩ := by
  have told := ofAction_key press (keyName_object object key filled)
  rcases keyName_plain filled plain with ⟨bare, named⟩ | ⟨other, named⟩
  · have apart : k ≠ "Enter" := by
      rintro rfl
      obtain ⟨v, read⟩ := bare.parses
      cases read
    exact ⟨told, fun other => absurd bare other, fun _ => ⟨apart, ofAction_key press named⟩, ofLine?_pressed k⟩
  · exact ⟨told, fun _ => ofAction_key press named, fun bare => absurd bare other, ofLine?_pressed k⟩

/-- The key 1 by itself becomes Enter, the tabulator key does not. -/
theorem key_payloads_agree_one : ∃ a : Action, a.kind = .keypress ∧
    Step.ofAction { a with value := some (.str ("\x7b\"key\": \"" ++ "1" ++ "\"\x7d")) } = .ok (pressed "1") ∧
    Step.ofAction { a with value := some (.str "1") } = .ok (pressed "Enter") ∧
    Step.ofAction { a with value := some (.str "Tab") } = .ok (pressed "Tab") := by
  let a : Action := { kind := .keypress, locator := some {}, time := .epoch, id := "a" }
  have press : a.kind = .keypress := rfl
  have digit : ∀ c ∈ "1".toList, c.isAlphanum = true := by simp
  have letters : ∀ c ∈ "Tab".toList, c.isAlphanum = true := by simp
  have bare : Json.IsBare "1".toList := .integer ⟨⟨by simp, by simp⟩, by simp⟩ (by decide)
  have other : ¬ Json.IsBare "Tab".toList := by
    intro bare
    obtain ⟨v, read⟩ := bare.parses
    cases read
  obtain ⟨told, -, enter, -⟩ := key_payloads_agree (by decide) digit (Json.means_key digit) rfl press
  obtain ⟨-, same, -, -⟩ := key_payloads_agree (by decide) letters (Json.means_key letters) rfl press
  exact ⟨a, press, told, (enter bare).2, same other⟩

end Script

end BrowserFlow
