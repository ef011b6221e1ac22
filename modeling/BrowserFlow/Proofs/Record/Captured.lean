import BrowserFlow.Proofs.Record.Rollback
import BrowserFlow.Proofs.Script.Writable

/-!
Recordings of events with payloads of any kind. Callers give text where text is wanted, but an event may bring a
selector that is none and numbers without end; a recording that ends up with an action that no line can say cannot be
stored any more.
-/

namespace BrowserFlow

/-- A recording whose header can be written and whose actions are as they are reported. -/
structure Recording.Reported (x : Recording) : Prop where
  header : (Script.Header.ofRecording x).Textual
  actions : ∀ a ∈ x.actions, a.Reported

/-- The value of an event is text in any case: another value is shown as one. -/
theorem CaptureEvent.ofPayload?_textual {payload : String} {e : CaptureEvent} (read : ofPayload? payload = some e) :
    Value.Textual e.value := by
  unfold ofPayload? at read
  split at read
  · rename_i entries _
    obtain ⟨word, _, read⟩ := Option.bind_eq_some_iff.mp read
    obtain ⟨kind, _, read⟩ := Option.bind_eq_some_iff.mp read
    dsimp only at read
    split at read
    · obtain ⟨locator, _, made⟩ := Option.bind_eq_some_iff.mp read
      cases made
      dsimp only
      split
      · exact Value.textual_none
      · exact Value.textual_text _
    · cases read
      dsimp only
      split
      · exact Value.textual_none
      · exact Value.textual_text _
  · cases read

namespace Recorder

/-- The caller gives text where text is wanted; a locator may hold anything, and so may the payload of an event. -/
def Call.IsTextual : Call → Prop
  | .start name description => Value.Textual name ∧ Value.Textual description
  | .record _ _ value description => Value.Textual value ∧ Value.Textual description
  | .manualStep description => ∃ s, description = .str s
  | _ => True

def Pending.IsTextual : Pending → Prop
  | .actionUrl _ _ value description => Value.Textual value ∧ Value.Textual description
  | .stepImage description | .stepUrl description _ => ∃ s, description = .str s
  | _ => True

def Reported (r : Recorder) : Prop := ∀ x ∈ r.recordings, x.Reported

/-- After the transition, recordings are reported ones and the operation waits with text. -/
structure Transition.IsReported (t : Transition) : Prop where
  recorder : t.1.Reported
  waiting : ∀ p ∈ t.2.2.waiting, p.IsTextual

theorem Reported.update {r : Recorder} (reported : r.Reported) (id : String) (change : Recording → Recording)
    (keeps : ∀ x ∈ r.recordings, (change x).Reported) : (r.update id change).Reported := by
  intro x member
  obtain ⟨y, held, rfl⟩ := List.mem_map.mp member
  split
  · exact keeps y held
  · exact reported y held

theorem Reported.reset {r : Recorder} (reported : r.Reported) : r.reset.Reported := reported

section Transitions

variable {r : Recorder} {w : World}

theorem finish_reported (reported : r.Reported) (result : Except Fault Outcome) :
    Transition.IsReported (r, w, .finish result) := ⟨reported, by simp [Step.waiting]⟩

theorem ask_reported (reported : r.Reported) (request : PageRequest) {pending : Pending} (textual : pending.IsTextual) :
    Transition.IsReported (r, w, .ask request pending) := ⟨reported, by simpa [Step.waiting] using textual⟩

theorem start_reported (reported : r.Reported) {name description : Option Value} (named : Value.Textual name)
    (described : Value.Textual description) : Transition.IsReported (r.start w name description) := by
  unfold start
  split
  · exact finish_reported reported _
  · refine ask_reported ?_ _ trivial
    intro x member
    rcases List.mem_append.mp member with old | new
    · exact reported x old
    · rw [List.mem_singleton.mp new]
      refine ⟨⟨?_, described.present⟩, by simp [Recording.begun]⟩
      cases given : name.bind Value.present? with
      | none => exact ⟨_, by rw [Script.Header.ofRecording, Recording.begun, given]; rfl⟩
      | some v =>
        obtain ⟨s, rfl⟩ := named.present v given
        exact ⟨s, by rw [Script.Header.ofRecording, Recording.begun, given]; rfl⟩

theorem recordAction_reported (reported : r.Reported) (kind : Value) (locator : Option Locator)
    {value description : Option Value} (valued : Value.Textual value) (described : Value.Textual description) :
    Transition.IsReported (r.recordAction w kind locator value description) := by
  unfold recordAction
  split
  · exact finish_reported reported _
  · split
    · exact ask_reported reported _ ⟨valued, described⟩
    · exact finish_reported reported _

theorem handleEvent_reported (reported : r.Reported) (payload : String) :
    Transition.IsReported (r.handleEvent w payload) := by
  unfold handleEvent
  split
  · rename_i e read
    exact recordAction_reported reported _ _ (CaptureEvent.ofPayload?_textual read) Value.textual_none
  · exact finish_reported reported _

theorem askUrl_reported (reported : r.Reported) {pending : Pending} (textual : pending.IsTextual) :
    Transition.IsReported (r.askUrl w pending) := by
  unfold askUrl
  split
  · exact ask_reported reported _ textual
  · exact finish_reported reported _

theorem addManualStep_reported (reported : r.Reported) {description : Value} (textual : ∃ s, description = .str s) :
    Transition.IsReported (r.addManualStep w description) := by
  unfold addManualStep
  split
  · exact finish_reported reported _
  · split
    · exact ask_reported reported _ textual
    · exact askUrl_reported reported textual

theorem Reported.touch (reported : r.Reported) {x : Recording} (current : r.current? = some x) (now : Instant) :
    (r.touch x now).Reported := by
  obtain ⟨_, found⟩ := current?_found current
  have here := reported x (List.mem_of_find?_eq_some found)
  exact reported.update x.id _ fun _ _ => ⟨here.header, here.actions⟩

theorem stop_reported (reported : r.Reported) : Transition.IsReported (r.stop w) := by
  rcases stop_cases r w with refused | ⟨x, active, current⟩
  · rw [refused]
    exact finish_reported reported _
  · have touched := reported.touch current w.now
    rw [stop_eq active current]
    split
    · exact finish_reported touched _
    · split
      · exact finish_reported touched _
      · split
        · exact ask_reported touched _ trivial
        · exact finish_reported touched.reset _

theorem afterLoad_reported (reported : r.Reported) : Transition.IsReported (r.afterLoad w) := by
  unfold afterLoad
  split
  · exact finish_reported reported _
  · exact ask_reported reported _ trivial

theorem append_reported (reported : r.Reported) {action : Action} (action_reported : action.Reported) (count : Nat) :
    Transition.IsReported (r.append w action count) := by
  unfold append
  split
  · exact finish_reported reported _
  · exact finish_reported reported _
  · rename_i id checked _ valid
    have same := validate_ok valid
    subst same
    refine finish_reported (reported.update id (grown checked count) ?_) _
    intro x member
    refine ⟨(reported x member).header, fun a inside => ?_⟩
    rcases List.mem_append.mp inside with old | new
    · exact (reported x member).actions a old
    · rw [List.mem_singleton.mp new]
      exact action_reported

theorem settle_reported (reported : r.Reported) {changed : Except Fault Recorder}
    (keeps : ∀ r', changed = .ok r' → r'.recordings = r.recordings) : Transition.IsReported (r.settle w changed) := by
  cases changed with
  | error fault => exact finish_reported reported _
  | ok r' =>
    refine finish_reported ?_ _
    rw [Reported, keeps r' rfl]
    exact reported

theorem Call.begin_reported (reported : r.Reported) {call : Call} (textual : call.IsTextual) :
    Transition.IsReported (call.begin r w) := by
  cases call with
  | start name description => exact start_reported reported textual.1 textual.2
  | pause =>
    refine settle_reported reported fun r' paused => ?_
    unfold Recorder.pause at paused
    split at paused <;> cases paused
    rfl
  | resume =>
    refine settle_reported reported fun r' resumed => ?_
    unfold Recorder.resume at resumed
    split at resumed <;> cases resumed
    rfl
  | record kind locator value description => exact recordAction_reported reported kind locator textual.1 textual.2
  | event payload => exact handleEvent_reported reported payload
  | manualStep description => exact addManualStep_reported reported textual
  | stop => exact stop_reported reported
  | load => exact afterLoad_reported reported

theorem step_reported (reported : r.Reported) {pending : Pending} (textual : pending.IsTextual) (reply : Reply) :
    Transition.IsReported (r.step w pending reply) := by
  cases pending with
  | startUrl id =>
    cases reply with
    | error fault => exact finish_reported reported.reset _
    | ok answer =>
      rw [step]
      refine ask_reported ?_ _ trivial
      cases targetSite? answer with
      | none => exact reported
      | some url =>
        refine reported.update id _ fun x member => ?_
        have here := reported x member
        exact ⟨⟨here.header.name, here.header.description⟩, here.actions⟩
  | startExpose id => cases reply with
    | error fault => exact finish_reported reported.reset _
    | ok answer => exact ask_reported reported _ trivial
  | startInstall id => cases reply with
    | error fault => exact finish_reported reported.reset _
    | ok answer => exact ask_reported reported _ trivial
  | startListen id => cases reply with
    | error fault => exact finish_reported reported.reset _
    | ok answer => exact finish_reported reported _
  | actionUrl kind locator value description => cases reply with
    | error fault => exact finish_reported reported _
    | ok answer => exact append_reported reported ⟨textual.1, textual.2⟩ 0
  | stepImage description => cases reply with
    | ok answer => exact askUrl_reported reported textual
    | error fault => cases fault with
      | cancelled => exact finish_reported reported _
      | _ => exact askUrl_reported reported textual
  | stepUrl description screenshot => cases reply with
    | error fault => exact finish_reported reported _
    | ok answer =>
      obtain ⟨s, rfl⟩ := textual
      exact append_reported reported ⟨Value.textual_none, Value.textual_text s⟩ 1
  | stopListen id => cases reply with
    | error fault => exact finish_reported reported _
    | ok answer => exact ask_reported reported _ trivial
  | stopUninstall id => cases reply with
    | ok answer => exact finish_reported reported.reset _
    | error fault => cases fault with
      | cancelled => exact finish_reported reported _
      | _ => exact finish_reported reported.reset _
  | reinstall => cases reply with
    | ok answer => exact finish_reported reported _
    | error fault => cases fault with
      | cancelled => exact finish_reported reported _
      | _ => exact finish_reported reported _

end Transitions

namespace Course

variable {c : Course} {store : ScriptStore} {takesScreenshots : Bool} {w : World}

theorem after_reported {others : List Pending} (waiting : ∀ p ∈ others, p.IsTextual) (observers : List Observer)
    {t : Transition} (reported : t.IsReported) : (c.after others observers t).recorder.Reported ∧
      ∀ p ∈ (c.after others observers t).waiting, p.IsTextual :=
  ⟨reported.recorder, List.forall_mem_append.mpr ⟨waiting, reported.waiting⟩⟩

theorem reported (run : Relation.ReflTransGen Move (fresh store takesScreenshots w) c)
    (textual : ∀ call ∈ c.calls, call.IsTextual) : c.recorder.Reported ∧ ∀ p ∈ c.waiting, p.IsTextual := by
  induction run with
  | refl => exact ⟨by simp [Recorder.Reported, fresh, Recorder.fresh], by simp [fresh]⟩
  | tail run move ih =>
    cases move with
    | elapse refusal later => exact ih textual
    | call call observers =>
      obtain ⟨before, last⟩ := List.forall_mem_append.mp textual
      obtain ⟨recorder, waiting⟩ := ih before
      exact after_reported waiting observers (Call.begin_reported recorder (last call (by simp)))
    | reply waits reply observers =>
      obtain ⟨recorder, waiting⟩ := ih textual
      rw [waits, List.forall_mem_append, List.forall_mem_cons] at waiting
      obtain ⟨before, here, rest⟩ := waiting
      exact after_reported (List.forall_mem_append.mpr ⟨before, rest⟩) observers (step_reported recorder here reply)

/-- Stopping fails for good once the script of the recording cannot be written. -/
theorem stop_unwritable {r : Recorder} {x : Recording} (current : r.current? = some x) {fault : Fault}
    (unwritable : Script.ofRecording x = .error fault) {replies : List (PageRequest × Reply)}
    {result : Except Fault Outcome} {r' : Recorder} {after : World} (ends : Ends (r.stop w) replies result r' after) :
    ∃ fault, result = .error fault := by
  rcases stop_cases r w with refused | ⟨y, active, _⟩
  · rw [refused] at ends
    exact ⟨_, ends.of_finish.1⟩
  · rw [stop_eq active current, unwritable] at ends
    exact ⟨_, ends.of_finish.1⟩

/-- What a recording must not hold to be stored, in any state of any course in which callers give text where text is
    wanted. Its script can be written just if the action that decides each line can become one; then stopping stores
    it, if the store takes the script, and otherwise stopping fails. An action other than an input that cannot become a
    line makes stopping fail from then on, whatever is recorded later. -/
theorem captured_storable (run : Relation.ReflTransGen Move (fresh store takesScreenshots w) c)
    (textual : ∀ call ∈ c.calls, call.IsTextual) {x : Recording} (current : c.recorder.current? = some x) :
    ((∃ script, Script.ofRecording x = .ok script) ↔ ∀ b ∈ Script.blocks x.actions, b.last.Writable) ∧
    (∀ script, Script.ofRecording x = .ok script → (c.world.onFiles (c.recorder.store.write x.id script)).1 = .ok () →
      ∀ (first : Answer) (second : Reply), second ≠ .error .cancelled → ∃ stopped final,
        Ends (c.recorder.stop c.world) [(.removeLoadListener loadListener, .ok first), (.run .uninstall, second)]
          (.ok (.stopped x.id)) stopped final ∧ stopped.state = .idle) ∧
    (∀ b ∈ Script.blocks x.actions, ¬ b.last.Writable → ∀ replies result r' after,
      Ends (c.recorder.stop c.world) replies result r' after → ∃ fault, result = .error fault) ∧
    ∀ a ∈ x.actions, a.kind ≠ .input → ¬ a.Writable → ∀ c', Relation.ReflTransGen Move c c' →
      c'.recorder.current = c.recorder.current → ∀ replies result r' after,
        Ends (c'.recorder.stop c'.world) replies result r' after → ∃ fault, result = .error fault := by
  have consistent := consistent_of_fresh run
  obtain ⟨id, active, found⟩ := Option.bind_eq_some_iff.mp current
  have here := (reported run textual).1 x (List.mem_of_find?_eq_some found)
  have writable := Script.render_ok_iff here.header here.actions
  have on : c.recorder.state ≠ .idle := by
    rw [ne_eq, consistent.idle_iff, current]
    nofun
  refine ⟨writable, ?_, ?_, ?_⟩
  · intro script rendered written first second uncancelled
    have page := consistent.page.mpr on
    exact ⟨_, _, stop_written on current page rendered written first uncancelled, rfl⟩
  · intro b member unwritable replies result r' after ends
    cases made : Script.ofRecording x with
    | error fault => exact stop_unwritable current made ends
    | ok script => exact absurd (writable.mp ⟨script, made⟩ b member) unwritable
  · intro a inside other unwritable c' later same replies result r' after ends
    obtain ⟨y, grown, begins⟩ := grows later id x found
    have current' : c'.recorder.current? = some y := by rw [current?, same, active, Option.bind_some, grown]
    cases made : Script.ofRecording y with
    | error fault => exact stop_unwritable current' made ends
    | ok script =>
      obtain ⟨b, member, last⟩ := Script.last_of_other (begins.subset inside) other
      obtain ⟨_, _, _, written, _⟩ := Script.render_ok made
      have step := Script.blockLines_steps written b member
      rw [last, Script.Step.ofAction_ok_iff (here.actions a inside)] at step
      exact absurd step unwritable

/-- A scroll to infinity is accepted as an event, and no stop succeeds any more. -/
theorem captured_storable_infinite : ∃ (c : Course) (x : Recording) (a : Action),
    Relation.ReflTransGen Move (fresh ⟨⟨["recordings"]⟩, ".ts", none⟩ false {}) c ∧
    c.calls = [.start none none,
      .event "\x7b\"kind\": \"scroll\", \"value\": \"\x7b\\\"x\\\": Infinity\x7d\"\x7d"] ∧
    c.recorder.state = .recording ∧ c.recorder.current? = some x ∧ x.actions = [a] ∧ a.kind = .scroll ∧
    (¬ ∃ script, Script.ofRecording x = .ok script) ∧
    ∀ c', Relation.ReflTransGen Move c c' → c'.recorder.current = c.recorder.current →
      ∀ replies result r' after, Ends (c'.recorder.stop c'.world) replies result r' after →
        ∃ fault, result = .error fault := by
  let store : ScriptStore := ⟨⟨["recordings"]⟩, ".ts", none⟩
  let payload := "\x7b\"kind\": \"scroll\", \"value\": \"\x7b\\\"x\\\": Infinity\x7d\"\x7d"
  have accepted : ((CaptureEvent.ofPayload? payload).any fun e =>
      e.kind == .scroll && (Script.scrollTarget e.value).toOption.isNone) = true := by decide +kernel
  cases read : CaptureEvent.ofPayload? payload with
  | none =>
    rw [read] at accepted
    cases accepted
  | some e =>
    rw [read, Option.any_some, Bool.and_eq_true, beq_iff_eq] at accepted
    obtain ⟨kind, endless⟩ := accepted
    let w : World := { idsUsed := 1 }
    let a : Action :=
      { kind := e.kind, pageUrl := none, locator := e.locator, value := e.value, time := w.now, id := w.ids.id 1 }
    let begun : Recorder := (Recorder.fresh store false).begin {} none none none
    have valid : a.validate = .ok a := by simp [a, Action.validate, kind, ActionKind.needsLocator]
    have scrolled : Ends (begun.handleEvent w payload) [(.url, .ok .nothing)] (.ok (.appended a))
        (begun.appendTo (w.ids.id 0) a 0) w.freshId.2 := by
      rw [handleEvent, read]
      exact recordAction_appends rfl rfl rfl e.kind .nothing rfl valid
    obtain ⟨c, moves, same, _, _, calls, _⟩ :=
      of_reaches (Reaches.call (.event payload) [] (.begun store false {}) (by simp) scrolled)
    let x : Recording := grown a 0 (.begun (w.ids.id 0) w.now none none)
    have found : begun.recording? (w.ids.id 0) = some (.begun (w.ids.id 0) w.now none none) :=
      recording?_begin (by simp [Unclaimed, Recorder.fresh]) none none none
    have current : c.recorder.current? = some x := by
      rw [same]
      exact recording?_appendTo found a 0
    have textual : ∀ call ∈ c.calls, call.IsTextual := by
      rw [calls]
      simp [Call.IsTextual]
    have unwritable : ¬ a.Writable := by
      have shown : Value.Textual e.value := CaptureEvent.ofPayload?_textual read
      intro writable
      simp only [Action.Writable, a, kind] at writable
      obtain ⟨target, reached⟩ := (Script.scrollTarget_ok_iff shown).mpr writable
      rw [reached] at endless
      cases endless
    obtain ⟨iff, _, _, forever⟩ := captured_storable moves textual current
    refine ⟨c, x, a, moves, calls, by rw [same]; rfl, current, rfl, kind, ?_,
      forever a (by simp [x, grown, Recording.append, Recording.begun]) (by simp [a, kind]) unwritable⟩
    intro rendered
    exact unwritable (iff.mp rendered ⟨a, []⟩ (by simp [x, grown, Recording.append, Recording.begun, Script.extend]))

end Course

end Recorder

end BrowserFlow
