import BrowserFlow.Proofs.Result
import BrowserFlow.Proofs.Script.Statement
import BrowserFlow.Script.Step

namespace BrowserFlow

theorem Value.present?_some {v w : Value} (h : v.present? = some w) : w = v ∧ v.isPresent = true := by
  unfold present? at h
  split at h
  · exact ⟨(Option.some.inj h).symm, ‹_›⟩
  · cases h

/-- A field that holds text if it holds anything. -/
def Value.Textual (v : Option Value) : Prop := ∀ x ∈ v, ∃ s, x = .str s

@[simp] theorem Value.textual_none : Value.Textual none := by simp [Value.Textual]

@[simp] theorem Value.textual_text (s : String) : Value.Textual (some (.str s)) := by simp [Value.Textual]

structure Locator.Textual (l : Locator) : Prop where
  id : Value.Textual l.id
  cssPath : Value.Textual l.cssPath
  name : Value.Textual l.name
  text : Value.Textual l.text
  xpath : Value.Textual l.xpath

structure Action.Textual (a : Action) : Prop where
  locator : ∀ l ∈ a.locator, l.Textual
  value : Value.Textual a.value
  description : Value.Textual a.description

theorem Value.Textual.present {v : Option Value} (textual : Value.Textual v) :
    Value.Textual (v.bind Value.present?) := by
  intro x member
  obtain ⟨y, inside, same⟩ := Option.bind_eq_some_iff.mp member
  obtain ⟨rfl, _⟩ := Value.present?_some same
  exact textual _ inside

theorem Locator.Textual.preferred {l : Locator} (textual : l.Textual) : ∃ s, l.preferred = .str s := by
  unfold Locator.preferred
  split
  · exact ⟨_, rfl⟩
  · exact textual.cssPath.present _ ‹_›
  · exact ⟨_, rfl⟩
  · exact textual.xpath.present _ ‹_›
  · exact ⟨_, rfl⟩
  · exact ⟨_, rfl⟩

namespace Action

def selector (a : Action) : String := (Locator.preferred? a.locator).text

/-- The text that an action enters; empty if there is none. -/
def valueText (a : Action) : String := ((a.value.bind Value.present?).map Value.text).getD ""

def key (a : Action) : String :=
  match Script.keyName a.value with
  | .ok key => key
  | .error _ => "Enter"

def target (a : Action) : Int × Int :=
  match Script.scrollTarget a.value with
  | .ok target => target
  | .error _ => (0, 0)

def duration (a : Action) : Int :=
  match Script.waitTime a.value with
  | .ok ms => ms
  | .error _ => Script.defaultWait

def instruction (a : Action) : String :=
  let description := ((a.description.bind Value.present?).map fun v => Text.singleLine v.text.toList).getD []
  if description.isEmpty then Script.defaultManualStep else String.ofList description

/-- The numbers of an action's payload can be read, and a wait is not negative. -/
structure Convertible (a : Action) : Prop where
  scroll : a.kind = .scroll → ∃ target, Script.scrollTarget a.value = .ok target
  wait : a.kind = .wait → ∃ ms : Nat, Script.waitTime a.value = .ok ms

/-- What the line of an action quotes has no line boundaries but those that are escaped, and the page of the
    action has none at all. -/
structure LineSafe (a : Action) : Prop where
  pageUrl : ∀ url ∈ a.pageUrl, Text.Unbroken url.toList
  selector : a.kind ∈ [.click, .input, .select] → Script.Escapable a.selector.toList
  value : a.kind ∈ [.input, .select] → Script.Escapable a.valueText.toList
  key : a.kind = .keypress → Script.Escapable a.key.toList

theorem Textual.selector {a : Action} (textual : a.Textual) : Locator.preferred? a.locator = .str a.selector := by
  unfold Action.selector
  cases found : a.locator with
  | none => rfl
  | some l =>
    obtain ⟨s, same⟩ := (textual.locator l found).preferred
    simp [Locator.preferred?, same, Value.text]

end Action

namespace Script

def Statement.ofAction (a : Action) : Statement :=
  match a.kind with
  | .click => .click a.selector
  | .input => .fill a.selector a.valueText
  | .select => .select a.selector a.valueText
  | .keypress => .keyPress a.key
  | .scroll => .scroll (toString a.target.1) (toString a.target.2)
  | .wait => .wait (toString a.duration)
  | .manualStep => .manualStep a.instruction

theorem quotable_ok {v : Value} {s : String} (h : quotable v = .ok s) : v = .str s := by
  cases v <;> simp [quotable] at h
  rw [h]

theorem onOneLine_ok {v : Value} {s : String} (h : onOneLine v = .ok s) :
    s = String.ofList (Text.singleLine v.text.toList) := by
  cases v <;> simp [onOneLine] at h
  exact h.symm

theorem quotableOr_present {v : Option Value} {s : String} (h : quotableOr "" (v.bind Value.present?) = .ok s) :
    s = ((v.bind Value.present?).map Value.text).getD "" := by
  cases found : v.bind Value.present? with
  | none =>
    simp only [found, quotableOr] at h
    cases h
    rfl
  | some x =>
    simp only [found, quotableOr] at h
    rw [quotable_ok h]
    rfl

theorem quotableOr_given {v : Option Value} {s : String} (h : quotableOr "" v = .ok s) :
    s = ((v.bind Value.present?).map Value.text).getD "" := by
  cases v with
  | none => cases h; rfl
  | some x =>
    have same := quotable_ok h
    subst same
    by_cases empty : s = ""
    · subst empty
      rfl
    · simp [Value.present?, Value.isPresent, Value.text, empty]

theorem textRemark_unbroken {l : Option Locator} {s : String} (h : textRemark l = .ok s) : Text.Unbroken s.toList := by
  unfold textRemark at h
  split at h
  · rename_i v _
    cases line : onOneLine v with
    | error fault => simp [line, Bind.bind, Except.bind] at h
    | ok text =>
      simp only [line, Bind.bind, Except.bind, Pure.pure, Except.pure] at h
      cases h
      have plain : Text.Unbroken text.toList := by
        rw [onOneLine_ok line, String.toList_ofList]
        exact Text.singleLine_unbroken _
      simp only [String.toList_append]
      exact (Text.Unbroken.append (by decide) plain).append (by decide)
  · cases h
    exact .nil

/-- A step that can be written says what its action says, and its remark stays on the line. -/
theorem Step.ofAction_ok {a : Action} {step : Step} (h : Step.ofAction a = .ok step) :
    step.statement = Statement.ofAction a ∧ Text.Unbroken step.remark.toList ∧
      (a.kind = .manualStep → step.remark = "") := by
  unfold Step.ofAction at h
  unfold Statement.ofAction
  cases kind : a.kind <;> simp only [kind] at h ⊢
  case click =>
    obtain ⟨selector, hs, h⟩ := bind_ok h
    obtain ⟨remark, hr, h⟩ := bind_ok h
    cases h
    exact ⟨by rw [Action.selector, quotable_ok hs]; rfl, textRemark_unbroken hr, nofun⟩
  case input =>
    obtain ⟨selector, hs, h⟩ := bind_ok h
    obtain ⟨value, hv, h⟩ := bind_ok h
    obtain ⟨remark, hr, h⟩ := bind_ok h
    cases h
    exact ⟨by rw [Action.selector, quotable_ok hs, quotableOr_present hv]; rfl, textRemark_unbroken hr, nofun⟩
  case select =>
    obtain ⟨selector, hs, h⟩ := bind_ok h
    obtain ⟨value, hv, h⟩ := bind_ok h
    cases h
    exact ⟨by rw [Action.selector, quotable_ok hs, quotableOr_given hv]; rfl, .nil, nofun⟩
  case scroll =>
    obtain ⟨⟨x, y⟩, target, h⟩ := bind_ok h
    cases h
    exact ⟨by rw [Action.target, target], .nil, nofun⟩
  case keypress =>
    obtain ⟨key, named, h⟩ := bind_ok h
    cases h
    refine ⟨by rw [Action.key, named], ?_, nofun⟩
    dsimp only
    split
    · decide
    · exact .nil
  case manualStep =>
    rw [Action.instruction]
    cases found : a.description.bind Value.present? with
    | none =>
      simp only [found] at h
      cases h
      exact ⟨rfl, .nil, fun _ => rfl⟩
    | some v =>
      simp only [found] at h
      obtain ⟨description, line, h⟩ := bind_ok h
      cases h
      refine ⟨?_, .nil, fun _ => rfl⟩
      simp [onOneLine_ok line]
  case wait =>
    obtain ⟨ms, duration, h⟩ := bind_ok h
    cases h
    exact ⟨by rw [Action.duration, duration], .nil, nofun⟩

theorem quotableOr_textual {v : Option Value} (textual : Value.Textual v) (substitute : String) :
    ∃ s, quotableOr substitute v = .ok s := by
  cases found : v with
  | none => exact ⟨_, rfl⟩
  | some x =>
    obtain ⟨s, same⟩ := textual x found
    subst same
    exact ⟨s, rfl⟩

theorem textRemark_textual {l : Option Locator} (textual : ∀ x ∈ l, x.Textual) : ∃ s, textRemark l = .ok s := by
  unfold textRemark
  split
  · rename_i v found
    obtain ⟨x, inside, present⟩ := Option.bind_eq_some_iff.mp found
    obtain ⟨locator, held, same⟩ := Option.bind_eq_some_iff.mp inside
    obtain ⟨s, rfl⟩ := (textual locator held).text.present v (Option.bind_eq_some_iff.mpr ⟨x, same, present⟩)
    exact ⟨_, rfl⟩
  · exact ⟨_, rfl⟩

theorem keyName_textual {v : Option Value} (textual : Value.Textual v) : ∃ key, keyName v = .ok key := by
  unfold keyName
  split
  · exact ⟨_, rfl⟩
  · split <;> exact ⟨_, rfl⟩
  · rename_i x notText found
    obtain ⟨s, same⟩ := textual.present x found
    exact absurd same (notText s)

theorem Step.ofAction_total {a : Action} (textual : a.Textual) (convertible : a.Convertible) :
    ∃ step, Step.ofAction a = .ok step := by
  obtain ⟨remark, remarked⟩ := textRemark_textual textual.locator
  obtain ⟨entered, shown⟩ := quotableOr_textual textual.value.present ""
  obtain ⟨chosen, given⟩ := quotableOr_textual textual.value ""
  unfold Step.ofAction
  cases kind : a.kind <;> dsimp only
  case click => exact ⟨_, by rw [textual.selector, remarked]; rfl⟩
  case input => exact ⟨_, by rw [textual.selector, shown, remarked]; rfl⟩
  case select => exact ⟨_, by rw [textual.selector, given]; rfl⟩
  case scroll =>
    obtain ⟨target, read⟩ := convertible.scroll kind
    exact ⟨_, by rw [read]; rfl⟩
  case keypress =>
    obtain ⟨key, read⟩ := keyName_textual textual.value
    exact ⟨_, by rw [read]; rfl⟩
  case manualStep =>
    cases found : a.description.bind Value.present? with
    | none => exact ⟨_, rfl⟩
    | some v =>
      obtain ⟨s, rfl⟩ := textual.description.present v found
      exact ⟨_, rfl⟩
  case wait =>
    obtain ⟨ms, read⟩ := convertible.wait kind
    exact ⟨_, by rw [read]; rfl⟩

theorem Step.ofAction_convertible {a : Action} {step : Step} (written : Step.ofAction a = .ok step)
    (wait : a.kind = .wait → 0 ≤ a.duration) : a.Convertible := by
  unfold Step.ofAction at written
  constructor
  · intro kind
    rw [kind] at written
    obtain ⟨target, read, _⟩ := bind_ok written
    exact ⟨target, read⟩
  · intro kind
    have positive := wait kind
    rw [kind] at written
    obtain ⟨ms, read, _⟩ := bind_ok written
    rw [Action.duration, read] at positive
    exact ⟨ms.toNat, by rw [read, Int.toNat_of_nonneg positive]⟩

theorem instruction_trimmed (a : Action) : Text.Trimmed a.instruction.toList := by
  unfold Action.instruction
  dsimp only
  split
  · decide
  · cases a.description.bind Value.present? with
    | none => decide
    | some v => simpa using Text.singleLine_trimmed _

theorem instruction_unbroken (a : Action) : Text.Unbroken a.instruction.toList := by
  unfold Action.instruction
  dsimp only
  split
  · decide
  · cases a.description.bind Value.present? with
    | none => decide
    | some v => simpa using Text.singleLine_unbroken _

theorem Statement.ofAction_readable {a : Action} (convertible : a.Convertible) : (Statement.ofAction a).Readable := by
  unfold Statement.ofAction
  cases kind : a.kind <;> dsimp only <;> try trivial
  case scroll => exact ⟨Text.toString_isSignedNumeral _, Text.toString_isSignedNumeral _⟩
  case manualStep => exact instruction_trimmed a
  case wait =>
    obtain ⟨ms, read⟩ := convertible.wait kind
    simp only [Action.duration, read, Statement.Readable]
    exact Text.toString_areDigits (by omega)

theorem Statement.ofAction_unbroken {a : Action} (safe : a.LineSafe) :
    Text.Unbroken (Statement.ofAction a).line.toList := by
  unfold Statement.ofAction
  cases kind : a.kind <;> simp only [Statement.line_click, Statement.line_fill, Statement.line_select,
    Statement.line_keyPress, Statement.line_scroll, Statement.line_wait, Statement.line_manualStep,
    String.toList_append]
  case click =>
    have selector := quoted_unbroken (safe.selector (by simp [kind]))
    exact (Text.Unbroken.append (by decide) selector).append (by decide)
  case input =>
    have selector := quoted_unbroken (safe.selector (by simp [kind]))
    have value := quoted_unbroken (safe.value (by simp [kind]))
    exact ((((by decide : Text.Unbroken _).append selector).append (by decide)).append value).append (by decide)
  case select =>
    have selector := quoted_unbroken (safe.selector (by simp [kind]))
    have value := quoted_unbroken (safe.value (by simp [kind]))
    exact ((((by decide : Text.Unbroken _).append selector).append (by decide)).append value).append (by decide)
  case keypress =>
    have key := quoted_unbroken (safe.key kind)
    exact (Text.Unbroken.append (by decide) key).append (by decide)
  case scroll =>
    have x := (Text.toString_isSignedNumeral a.target.1).unbroken
    have y := (Text.toString_isSignedNumeral a.target.2).unbroken
    exact ((((by decide : Text.Unbroken _).append x).append (by decide)).append y).append (by decide)
  case manualStep => exact Text.Unbroken.append (by decide) (instruction_unbroken a)
  case wait =>
    have ms := (Text.toString_isSignedNumeral a.duration).unbroken
    exact (Text.Unbroken.append (by decide) ms).append (by decide)

end Script

end BrowserFlow
