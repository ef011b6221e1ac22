import BrowserFlow.Proofs.Record.Course
import BrowserFlow.Proofs.Value.JsonGrammar

/-!
Events that are accepted while a flow is recorded. The page may send any text: an event appends an action just when
the text reports one, and otherwise it leaves everything as it is.
-/

namespace BrowserFlow

namespace CaptureEvent

def selectorKeys : List String := ["id", "css", "css_path", "name", "text", "xpath"]

/-- The value of an event as text, unless it is absent or null. -/
def shown (v : Value) : Option Value := v.given?.map fun given => .str given.text

/-- The text is a JSON object that reports an action: of a kind that is known, and with a selector that filled something
    if it is an action on an element. -/
inductive Reports (payload : String) : CaptureEvent → Prop
  | onPage {entries : Entries} {kind : ActionKind} (object : Json.Means payload.toList (.dict entries))
      (named : entries.getD "kind" = .str kind.word) (onPage : kind = .scroll ∨ kind = .wait ∨ kind = .manualStep) :
      Reports payload ⟨kind, none, shown (entries.getD "value")⟩
  | onElement {entries fields : Entries} {kind : ActionKind} {key : String}
      (object : Json.Means payload.toList (.dict entries)) (named : entries.getD "kind" = .str kind.word)
      (onElement : kind ≠ .scroll ∧ kind ≠ .wait ∧ kind ≠ .manualStep)
      (selector : entries.getD "selector" = .dict fields) (known : key ∈ selectorKeys)
      (present : (fields.getD key).isPresent = true) :
      Reports payload ⟨kind, some (.ofEntries fields), shown (entries.getD "value")⟩

theorem ofWord?_word (kind : ActionKind) : ActionKind.ofWord? kind.word = some kind := by
  cases kind <;> rfl

theorem word_of_ofWord? {word : String} {kind : ActionKind} (known : ActionKind.ofWord? word = some kind) :
    kind.word = word := by
  have same := List.find?_some known
  exact beq_iff_eq.mp same

theorem needsLocator_iff (kind : ActionKind) :
    kind.needsLocator = true ↔ kind ≠ .scroll ∧ kind ≠ .wait ∧ kind ≠ .manualStep := by
  cases kind <;> decide

end CaptureEvent

theorem Value.any_present? (v : Value) : v.present?.any isPresent = v.isPresent := by
  unfold present?
  split
  · rfl
  · rename_i absent
    exact (Bool.eq_false_iff.mpr absent).symm

theorem Locator.isEmpty_iff (l : Locator) :
    l.isEmpty = true ↔ ∀ v ∈ [l.id, l.cssPath, l.name, l.text, l.xpath], v.any Value.isPresent = false := by
  have fields : (∀ v ∈ [l.id, l.cssPath, l.name, l.text, l.xpath], v.any Value.isPresent = false) ↔
      (((l.id.any Value.isPresent = false ∧ l.cssPath.any Value.isPresent = false) ∧
        l.name.any Value.isPresent = false) ∧ l.text.any Value.isPresent = false) ∧
          l.xpath.any Value.isPresent = false := by simp [and_assoc]
  simp only [isEmpty, entries, List.isEmpty_iff, List.append_eq_nil_iff, fields]
  refine and_congr (and_congr (and_congr (and_congr ?_ ?_) ?_) ?_) ?_ <;> split <;> simp_all

namespace CaptureEvent

/-- A selector is empty just when none of its fields says anything. -/
theorem isEmpty_ofEntries (fields : Entries) : (Locator.ofEntries fields).isEmpty = true ↔
    ∀ key ∈ selectorKeys, (Entries.getD fields key).isPresent = false := by
  have either (v w : Value) : (v.present?.or w.present?).any Value.isPresent = (v.isPresent || w.isPresent) := by
    by_cases present : v.isPresent = true
    · simp [Value.present?, present]
    · have none : v.present? = none := by simp [Value.present?, present]
      simp [none, present, Value.any_present?]
  rw [Locator.isEmpty_iff]
  simp [Locator.ofEntries, Locator.field, selectorKeys, Value.any_present?, either, and_assoc]

theorem locator?_some_iff {selector : Value} {locator : Locator} :
    locator? selector = some locator ↔ ∃ fields, selector = .dict fields ∧
      (∃ key ∈ selectorKeys, (Entries.getD fields key).isPresent = true) ∧ locator = .ofEntries fields := by
  cases selector with
  | dict fields =>
    have filled : (Locator.ofEntries fields).isEmpty = false ↔
        ∃ key ∈ selectorKeys, (Entries.getD fields key).isPresent = true := by
      rw [← Bool.not_eq_true, isEmpty_ofEntries]
      simp
    cases empty : (Locator.ofEntries fields).isEmpty with
    | true => simp [locator?, empty, ← filled]
    | false =>
      rw [locator?, empty]
      constructor
      · intro same
        cases same
        exact ⟨fields, rfl, filled.mp empty, rfl⟩
      · rintro ⟨_, same, -, rfl⟩
        cases same
        rfl
  | _ => simp [locator?]

theorem onPage_iff (kind : ActionKind) :
    kind.needsLocator = false ↔ kind = .scroll ∨ kind = .wait ∨ kind = .manualStep := by cases kind <;> decide

theorem ofEntries?_eq (entries : Entries) : ofEntries? entries =
    ((Entries.getD entries "kind").str?.bind ActionKind.ofWord?).bind fun kind =>
      if kind.needsLocator then (locator? (Entries.getD entries "selector")).bind fun locator =>
        some ⟨kind, some locator, shown (Entries.getD entries "value")⟩
      else some ⟨kind, none, shown (Entries.getD entries "value")⟩ := by
  rw [ofEntries?, Option.bind_assoc]
  generalize Entries.getD entries "value" = v
  cases v <;> rfl

theorem kind_iff {v : Value} {kind : ActionKind} :
    v.str?.bind ActionKind.ofWord? = some kind ↔ v = .str kind.word := by
  constructor
  · intro read
    obtain ⟨word, text, known⟩ := Option.bind_eq_some_iff.mp read
    rw [word_of_ofWord? known]
    cases v with
    | str s => exact congrArg Value.str (Option.some.inj text)
    | _ => cases text
  · rintro rfl
    exact ofWord?_word kind

theorem ofPayload?_iff {payload : String} {event : CaptureEvent} :
    ofPayload? payload = some event ↔ Reports payload event := by
  constructor
  · intro read
    unfold ofPayload? at read
    split at read
    · rename_i entries object
      rw [ofEntries?_eq] at read
      obtain ⟨kind, known, read⟩ := Option.bind_eq_some_iff.mp read
      have named := kind_iff.mp known
      split at read
      · rename_i needed
        obtain ⟨locator, found, made⟩ := Option.bind_eq_some_iff.mp read
        obtain ⟨fields, selector, ⟨key, known, present⟩, rfl⟩ := locator?_some_iff.mp found
        cases made
        exact .onElement (Json.parse?_iff.mp object) named ((needsLocator_iff kind).mp needed) selector known present
      · rename_i needless
        cases read
        exact .onPage (Json.parse?_iff.mp object) named ((onPage_iff kind).mp (by simpa using needless))
    · cases read
  · intro reports
    cases reports with
    | onPage object named onPage =>
      simp only [ofPayload?, Json.parse?_iff.mpr object, ofEntries?_eq, kind_iff.mpr named, Option.bind_some,
        (onPage_iff _).mpr onPage, Bool.false_eq_true, if_false]
    | onElement object named onElement selector known present =>
      have found := locator?_some_iff.mpr ⟨_, selector, ⟨_, known, present⟩, rfl⟩
      simp only [ofPayload?, Json.parse?_iff.mpr object, ofEntries?_eq, kind_iff.mpr named, Option.bind_some,
        (needsLocator_iff _).mpr onElement, if_true, found]

/-- The action that an event on a page is recorded as. -/
def action (event : CaptureEvent) (url : String) (time : Instant) (id : String) : Action where
  kind := event.kind
  pageUrl := some url
  locator := event.locator
  value := event.value
  time
  id

theorem Reports.validate {payload : String} {event : CaptureEvent} (reports : Reports payload event) (url : String)
    (time : Instant) (id : String) : (event.action url time id).validate = .ok (event.action url time id) := by
  cases reports with
  | onPage object named onPage => simp [action, Action.validate, (onPage_iff _).mpr onPage]
  | onElement => simp [action, Action.validate]

end CaptureEvent

namespace Recorder

open CaptureEvent

section

variable {r r' : Recorder} {w after : World} {payload url : String} {replies : List (PageRequest × Reply)}
  {result : Except Fault Outcome}

theorem handleEvent_asks {id : String} {event : CaptureEvent} (recording : r.state = .recording)
    (current : r.current = some id) (page : r.hasPage = true) (reports : Reports payload event) :
    r.handleEvent w payload = (r, w, .ask .url (.actionUrl event.kind event.locator event.value none)) := by
  rw [handleEvent, ofPayload?_iff.mpr reports]
  dsimp only
  rw [recordAction, if_neg (by simp [recording, current, page]), ofValue_word]

theorem handleEvent_other (other : ¬ (r.state = .recording ∧ ∃ event, Reports payload event)) :
    r.handleEvent w payload = (r, w, .finish (.ok .dropped)) := by
  unfold handleEvent
  split
  · rename_i event read
    have paused : r.state ≠ .recording := fun recording => other ⟨recording, event, ofPayload?_iff.mp read⟩
    rw [recordAction, if_pos (by simp [paused])]
  · rfl

theorem reply_appends {id : String} {event : CaptureEvent} (current : r.current = some id)
    (reports : Reports payload event) :
    r.step w (.actionUrl event.kind event.locator event.value none) (.ok (.value (.str url))) =
      (r.appendTo id (event.action url w.freshId.2.now w.freshId.1) 0, w.freshId.2,
        .finish (.ok (.appended (event.action url w.freshId.2.now w.freshId.1)))) := by
  have valid := reports.validate url w.freshId.2.now w.freshId.1
  rw [step]
  dsimp only
  change r.append w.freshId.2 (event.action url w.freshId.2.now w.freshId.1) 0 = _
  rw [append, current, valid]
  rfl

end

theorem Consistent.ofRecording {r : Recorder} {w : World} (consistent : Consistent r w)
    (recording : r.state = .recording) : ∃ x, r.current? = some x ∧ r.current = some x.id ∧ r.hasPage = true := by
  have active : r.state ≠ .idle := by simp [recording]
  obtain ⟨id, current⟩ := Option.ne_none_iff_exists'.mp (mt consistent.idle.mpr active)
  obtain ⟨x, shown, -, rfl⟩ := consistent.current? current
  exact ⟨x, shown, current, consistent.page.mpr active⟩

end Recorder

end BrowserFlow
