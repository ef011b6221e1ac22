import BrowserFlow.Proofs.Record.Stored

/-!
The counter of steps by hand. It counts the steps that have been added as such; one that has come as a capture is an
action like any other. The counter is the number of steps by hand just if no capture was one, and the summary of the
stored script tells the number in any case.
-/

namespace BrowserFlow.Recorder

def Call.isByHand : Call → Bool
  | .manualStep _ => true
  | _ => false

/-- The actions that captures have given as appended since the last start. -/
def captured (history : List Entry) : List Action := accepted (history.filter (!·.call.isByHand))

/-- How many of the actions are steps by hand. -/
def steps (actions : List Action) : Nat := actions.countP (·.kind == .manualStep)

theorem steps_append (actions : List Action) (a : Action) :
    steps (actions ++ [a]) = steps actions + steps [a] := List.countP_append

theorem steps_eq_zero {actions : List Action} : steps actions = 0 ↔ ∀ a ∈ actions, a.kind ≠ .manualStep := by
  simp [steps, List.countP_eq_zero]

theorem captured_byHand (history : List Entry) {entry : Entry} (byHand : entry.call.isByHand = true) :
    captured (history ++ [entry]) = captured history := by
  simp [captured, List.filter_append, byHand]

theorem captured_other (history : List Entry) {entry : Entry} (other : entry.call.isByHand = false) :
    captured (history ++ [entry]) = accepted (history.filter (!·.call.isByHand) ++ [entry]) := by
  simp [captured, List.filter_append, other]

/-- An operation that neither starts nor appends adds nothing to what has been captured. -/
theorem captured_same (history : List Entry) {entry : Entry} (result : ∀ id, entry.result ≠ .ok (.started id))
    (result' : ∀ action, entry.result ≠ .ok (.appended action)) : captured (history ++ [entry]) = captured history := by
  by_cases byHand : entry.call.isByHand = true
  · exact captured_byHand history byHand
  · rw [captured_other history (by simpa using byHand), accepted_append]
    split
    · rename_i id started
      exact absurd started (result id)
    · rename_i action appended
      exact absurd appended (result' action)
    · rfl

theorem captured_appended (history : List Entry) {entry : Entry} (capture : entry.call.isCapture = true)
    {action : Action} (appended : entry.result = .ok (.appended action)) :
    captured (history ++ [entry]) = captured history ++ [action] := by
  have other : entry.call.isByHand = false := by
    cases call : entry.call <;> simp_all [Call.isCapture, Call.isByHand]
  rw [captured_other history other, accepted_append, appended]
  rfl

/-- What an operation adds to the counter and what it adds to the captures is what it adds to the steps by hand. -/
theorem effect_counted {r r' : Recorder} {w after : World} {call : Call} {result : Except Fault Outcome}
    {history : List Entry} (consistent : Consistent r w)
    (counted : ∀ x ∈ r.current?, x.manualSteps + steps (captured history) = steps x.actions)
    (effect : Effect r w call result r' after) : ∀ x ∈ r'.current?,
      x.manualSteps + steps (captured (history ++ [⟨call, r.state, result⟩])) = steps x.actions := by
  have appended {id : String} (current : r.current = some id) (action : Action) (count : Nat) (log : List Action)
      (balanced : ∀ x ∈ r.current?, x.manualSteps + count + steps log = steps x.actions + steps [action]) :
      ∀ x ∈ (r.appendTo id action count).current?, x.manualSteps + steps log = steps x.actions := by
    intro x shown
    obtain ⟨y, this, found, _⟩ := consistent.current? current
    rw [current?_appendTo current found] at shown
    cases shown
    have same : (grown action count y).actions = y.actions ++ [action] := rfl
    rw [same, steps_append]
    exact balanced y this
  have unchanged (other : ∀ id, result ≠ .ok (.started id)) (other' : ∀ action, result ≠ .ok (.appended action)) :
      captured (history ++ [⟨call, r.state, result⟩]) = captured history := captured_same history other other'
  intro x shown
  cases effect with
  | refused | dropped | loaded | paused | resumed =>
    rw [unchanged (by simp) (by simp)]
    exact counted x shown
  | @started name description targetSite _ idle passes =>
    have found := recording?_begin consistent.unclaimed name description targetSite
    rw [current?, begin_current, Option.bind_some, found] at shown
    cases shown
    rw [captured_other history (by rfl), accepted_append]
    rfl
  | notStarted | stopped => cases shown
  | @recorded _ id action _ capture recording current valid passes =>
    have same : captured (history ++ [⟨call, r.state, .ok (.appended action)⟩]) = captured history ++ [action] :=
      captured_appended history capture rfl
    rw [same]
    refine appended current action 0 _ (fun y this => ?_) x shown
    have before := counted y this
    rw [steps_append]
    omega
  | @stepped _ id action _ active current byHand valid passes =>
    rw [captured_byHand history (by rfl)]
    refine appended current action 1 _ (fun y this => ?_) x shown
    have before := counted y this
    have one : steps [action] = 1 := by simp [steps, byHand]
    omega
  | @notStopped y _ fault current later =>
    rw [unchanged (by simp) (by simp)]
    rw [current?_touch current] at shown
    cases shown
    exact counted y current

theorem Reaches.counted {store : ScriptStore} {takesScreenshots : Bool} {w after : World} {history : List Entry}
    {r : Recorder} (run : Reaches store takesScreenshots w history r after) :
    ∀ x ∈ r.current?, x.manualSteps + steps (captured history) = steps x.actions := by
  induction run with
  | fresh => exact fun x shown => by cases shown
  | elapse refusal run later ih => exact ih
  | call call observers run ordinary ends ih =>
    rw [hear_ordinary ordinary]
    exact effect_counted run.consistent ih (Call.effect run.consistent.unclaimed ends)

/-- A successful stop keeps what the current recording counts. -/
theorem Reaches.stopped_counted {store : ScriptStore} {takesScreenshots : Bool} {w after : World} {history : List Entry}
    {r : Recorder} (run : Reaches store takesScreenshots w history r after) {replies : List (PageRequest × Reply)}
    {id : String} {r' : Recorder} {final : World} (ends : Ends (r.stop after) replies (.ok (.stopped id)) r' final) :
    ∃ x, r'.recording? id = some x ∧ x.actions = accepted history ∧
      x.manualSteps + steps (captured history) = steps x.actions := by
  have effect := stop_ends ends
  cases effect with
  | @stopped x _ script path active current rendered named written later =>
    obtain ⟨_, found⟩ := current?_found current
    exact ⟨touched x after.now, recording?_touch found _, run.log x current, run.counted x current⟩

/-- The counter of the current recording and the captures of steps by hand make up the steps by hand among its actions,
    so the counter is their number just if there was no such capture. The same holds of a recording that has been
    stopped, and if it is legible, the summary of what is stored tells the number itself. -/
theorem manual_steps_counted {store : ScriptStore} {takesScreenshots : Bool} {w after : World} {history : List Entry}
    {r : Recorder} (run : Reaches store takesScreenshots w history r after) :
    (∀ x ∈ r.current?, x.manualSteps + steps (captured history) = steps x.actions ∧
      (x.manualSteps = steps x.actions ↔ ∀ a ∈ captured history, a.kind ≠ .manualStep)) ∧
    ∀ (replies : List (PageRequest × Reply)) (id : String) (r' : Recorder) (final : World),
      Ends (r.stop after) replies (.ok (.stopped id)) r' final → ∃ x, r'.recording? id = some x ∧
        x.actions = accepted history ∧ x.manualSteps + steps (captured history) = steps x.actions ∧
        (x.Legible → ∃ script, r.store.read final.files id = .ok script ∧ ∀ fileName suffix, ∃ summary,
          Script.summary fileName script suffix = .ok summary ∧ summary.manualSteps = steps x.actions) := by
  refine ⟨fun x current => ?_, fun replies id r' final ends => ?_⟩
  · have counted := run.counted x current
    refine ⟨counted, ?_⟩
    rw [← steps_eq_zero, ← counted]
    omega
  · obtain ⟨x, found, log, counted⟩ := run.stopped_counted ends
    refine ⟨x, found, log, counted, fun legible => ?_⟩
    obtain ⟨script, read, _, _, _, told⟩ := run.stored ends found legible
    refine ⟨script, read, fun fileName suffix => ?_⟩
    obtain ⟨summary, told, _, number⟩ := told fileName suffix
    exact ⟨summary, told, number⟩

/-- A step by hand that comes as a capture is in the log and in the stored script, and the counter stays at zero. -/
theorem manual_steps_counted_capture : ∃ (history : List Entry) (r r' : Recorder) (after final : World)
    (replies : List (PageRequest × Reply)) (x : Recording) (script : String) (summary : Recording),
    Reaches ⟨⟨["recordings"]⟩, ".ts", none⟩ false { files := ⟨[(["recordings"], .directory)]⟩ } history r after ∧
      (captured history).map (·.kind) = [.manualStep] ∧ r.current? = some x ∧ x.manualSteps = 0 ∧
      steps x.actions = 1 ∧ Ends (r.stop after) replies (.ok (.stopped x.id)) r' final ∧
      r.store.read final.files x.id = .ok script ∧ Script.summary x.id script ".ts" = .ok summary ∧
      summary.manualSteps = 1 := by
  have taken (text : String) : (({ files := ⟨[(["recordings"], .directory)]⟩, idsUsed := 2 } : World).onFiles
      (ScriptStore.write ⟨⟨["recordings"]⟩, ".ts", none⟩ "id-1" text)).1 = .ok () := by rfl
  let store : ScriptStore := ⟨⟨["recordings"]⟩, ".ts", none⟩
  let w : World := { files := ⟨[(["recordings"], .directory)]⟩ }
  let step : Action := { kind := .manualStep, pageUrl := none, time := w.now, id := w.ids.id 1 }
  let begun : Recording := .begun (w.ids.id 0) w.now (some (.str "login")) none
  let x : Recording := grown step 0 begun
  obtain ⟨history, r, run, records, same, captures⟩ : ∃ history r,
      Reaches store false w history r { w with idsUsed := 2 } ∧ r.Records x ∧ r.store = store ∧
        captured history = [step] := by
    have unclaimed : (fresh store false).Unclaimed w := by simp [Unclaimed, fresh]
    have records : Records _ begun := .begin unclaimed (some (.str "login")) none none
    have first := Reaches.call (.start (some (.str "login")) none) [] .fresh (by simp)
      (starts rfl unclaimed (some (.str "login")) none .nothing .nothing .nothing .nothing)
    have second := Reaches.call (.record (.str "manual_step") none none none) [] first (by simp)
      (recordAction_appends records.state records.current records.page .manualStep .nothing rfl rfl)
    exact ⟨_, _, second, records.appendTo step, rfl, rfl⟩
  have only {motive : Action → Prop} (it : motive step) : ∀ a ∈ x.actions, motive a := by
    simpa [x, grown, Recording.append, begun, Recording.begun] using it
  obtain ⟨script, rendered⟩ : ∃ script, Script.ofRecording (touched x w.now) = .ok script := by
    apply Script.render_total
    · exact ⟨⟨_, rfl⟩, Value.textual_none⟩
    · exact only ⟨by simp [step], Value.textual_none, Value.textual_none⟩
    · exact only ⟨by simp [step], by simp [step]⟩
  have legible : (touched x w.now).Legible :=
    ⟨by decide, by decide, by decide, only ⟨by decide, fun _ => by decide, by decide, by simp [step]⟩, by decide⟩
  have written : ({ w with idsUsed := 2 }.onFiles (r.store.write x.id script)).1 = .ok () := by
    have id : x.id = "id-1" := by decide
    rw [id, same]
    exact taken script
  have stopped := @stops r { w with idsUsed := 2 } x script (by simp [records.state]) records.current? records.page
    rendered written .nothing .nothing
  have found : (r.touch x w.now).reset.recording? x.id = some (touched x w.now) := recording?_touch records.found w.now
  obtain ⟨balanced, _⟩ := (manual_steps_counted run).1 x records.current?
  obtain ⟨y, held, log, counted, told⟩ := (manual_steps_counted run).2 _ _ _ _ stopped
  cases held.symm.trans found
  obtain ⟨script, read, told⟩ := told legible
  obtain ⟨summary, told, number⟩ := told x.id ".ts"
  have one : steps x.actions = 1 := by decide
  have none : x.manualSteps = 0 := by
    have missed : steps (captured history) = 1 := by
      rw [captures]
      decide
    omega
  exact ⟨history, r, _, _, _, _, x, script, summary, run, by rw [captures]; rfl, records.current?, none, one, stopped,
    read, told, number.trans one⟩

end BrowserFlow.Recorder
