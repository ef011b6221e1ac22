import BrowserFlow.Proofs.Record.Effect
import BrowserFlow.Proofs.Script.Layout

/-!
The log of a recording: in every run the current recording holds exactly the actions that operations have given as
appended since it was started, and stopping stores the script of exactly these.
-/

namespace BrowserFlow

theorem IdSupply.visible (ids : IdSupply) (n : Nat) : ∀ c ∈ (ids.id n).toList, Text.isBlank c = false := by
  intro c member
  rcases ids.plain n c member with letter | rfl
  · exact Text.alphanumeric_visible letter
  · decide

namespace Recorder

theorem recording?_id {r : Recorder} {id : String} {x : Recording} (found : r.recording? id = some x) : x.id = id := by
  have same : (x.id == id) = true := by
    rw [recording?] at found
    have holds := List.find?_some found
    exact holds
  exact beq_iff_eq.mp same

theorem current?_found {r : Recorder} {x : Recording} (current : r.current? = some x) :
    r.current = some x.id ∧ r.recording? x.id = some x := by
  obtain ⟨id, active, found⟩ := Option.bind_eq_some_iff.mp current
  have same := recording?_id found
  subst same
  exact ⟨active, found⟩

theorem recording?_update (r : Recorder) {id : String} (change : Recording → Recording)
    (keeps : ∀ x : Recording, x.id = id → (change x).id = id) (other : String) :
    (r.update id change).recording? other =
      (r.recording? other).map fun x => if x.id == id then change x else x := by
  have same : ((fun x : Recording => x.id == other) ∘ fun x => if x.id == id then change x else x) =
      fun x => x.id == other := by
    funext x
    by_cases found : x.id = id
    · simp [found, keeps x found]
    · simp [found]
  rw [recording?, recording?, update, List.find?_map, same]

theorem recording?_update_self (r : Recorder) {id : String} (change : Recording → Recording)
    (keeps : ∀ x : Recording, x.id = id → (change x).id = id) {x : Recording} (found : r.recording? id = some x) :
    (r.update id change).recording? id = some (change x) := by
  rw [recording?_update r change keeps, found, Option.map_some, recording?_id found, beq_self_eq_true, if_pos rfl]

theorem recording?_touch {r : Recorder} {x : Recording} (found : r.recording? x.id = some x) (now : Instant) :
    (r.touch x now).recording? x.id = some (touched x now) :=
  recording?_update_self r (fun _ => touched x now) (fun _ _ => rfl) found

theorem current?_touch {r : Recorder} {x : Recording} (current : r.current? = some x) (now : Instant) :
    (r.touch x now).current? = some (touched x now) := by
  obtain ⟨active, found⟩ := current?_found current
  rw [current?, touch_current, active, Option.bind_some, recording?_touch found]

theorem recording?_appendTo {r : Recorder} {id : String} {x : Recording} (found : r.recording? id = some x)
    (action : Action) (count : Nat) : (r.appendTo id action count).recording? id = some (grown action count x) :=
  recording?_update_self r (grown action count) (fun _ same => same) found

theorem current?_appendTo {r : Recorder} {id : String} {x : Recording} (current : r.current = some id)
    (found : r.recording? id = some x) (action : Action) (count : Nat) :
    (r.appendTo id action count).current? = some (grown action count x) := by
  rw [current?, appendTo_current, current, Option.bind_some, recording?_appendTo found]

theorem recording?_begin {r : Recorder} {w : World} (unclaimed : r.Unclaimed w) (name description : Option Value)
    (targetSite : Option String) : (r.begin w name description targetSite).recording? (w.ids.id w.idsUsed) =
      some { Recording.begun (w.ids.id w.idsUsed) w.now name description with targetSite } := by
  have none : r.recordings.find? (fun x => x.id == w.ids.id w.idsUsed) = none := by
    rw [List.find?_eq_none]
    intro x member
    simpa using unclaimed x member
  simp [recording?, begin, List.find?_append, none, Recording.begun]

/-- The recorder records actions for this recording. -/
structure Records (r : Recorder) (x : Recording) : Prop where
  state : r.state = .recording
  current : r.current = some x.id
  page : r.hasPage = true
  found : r.recording? x.id = some x

theorem Records.begin {r : Recorder} {w : World} (unclaimed : r.Unclaimed w) (name description : Option Value)
    (targetSite : Option String) : (r.begin w name description targetSite).Records
      { Recording.begun (w.ids.id w.idsUsed) w.now name description with targetSite } :=
  ⟨rfl, rfl, rfl, recording?_begin unclaimed name description targetSite⟩

theorem Records.appendTo {r : Recorder} {x : Recording} (records : r.Records x) (action : Action) :
    (r.appendTo x.id action 0).Records (grown action 0 x) :=
  ⟨records.state, records.current, records.page, recording?_appendTo records.found action 0⟩

theorem Records.current? {r : Recorder} {x : Recording} (records : r.Records x) : r.current? = some x := by
  rw [Recorder.current?, records.current]
  exact records.found

/-- Every recording has an id that has been used, and the recorder is idle just when nothing is current and it has
    no page. -/
structure Consistent (r : Recorder) (w : World) : Prop where
  known : ∀ x ∈ r.recordings, ∃ n < w.idsUsed, x.id = w.ids.id n
  idle : r.state = .idle ↔ r.current = none
  page : r.hasPage = true ↔ r.state ≠ .idle
  present : ∀ id ∈ r.current, ∃ x, r.recording? id = some x

namespace Consistent

variable {r : Recorder} {w after : World}

theorem fresh (store : ScriptStore) (takesScreenshots : Bool) (w : World) :
    Consistent (fresh store takesScreenshots) w where
  known := by simp [Recorder.fresh]
  idle := by simp [Recorder.fresh]
  page := by simp [Recorder.fresh]
  present := by simp [Recorder.fresh]

theorem later (consistent : Consistent r w) (later : w.Later after) : Consistent r after where
  known x member := by
    obtain ⟨n, used, same⟩ := consistent.known x member
    exact ⟨n, Nat.lt_of_lt_of_le used later.idsUsed, by rw [later.ids, same]⟩
  idle := consistent.idle
  page := consistent.page
  present := consistent.present

theorem unclaimed (consistent : Consistent r w) : r.Unclaimed w := by
  intro x member same
  obtain ⟨n, used, known⟩ := consistent.known x member
  have equal := w.ids.distinct _ _ (known.symm.trans same)
  omega

theorem update (consistent : Consistent r w) (id : String) (change : Recording → Recording)
    (keeps : ∀ x : Recording, x.id = id → (change x).id = id) : Consistent (r.update id change) w where
  known x member := by
    obtain ⟨y, inside, rfl⟩ := List.mem_map.mp member
    obtain ⟨n, used, known⟩ := consistent.known y inside
    refine ⟨n, used, ?_⟩
    by_cases found : y.id = id
    · rw [if_pos (beq_iff_eq.mpr found), keeps y found, ← found, known]
    · rw [if_neg (by simpa using found), known]
  idle := consistent.idle
  page := consistent.page
  present other current := by
    obtain ⟨x, found⟩ := consistent.present other current
    exact ⟨_, by rw [recording?_update r change keeps, found, Option.map_some]⟩

theorem appendTo (consistent : Consistent r w) (id : String) (action : Action) (count : Nat) :
    Consistent (r.appendTo id action count) w := consistent.update id (grown action count) fun _ same => same

theorem touch (consistent : Consistent r w) (x : Recording) (now : Instant) : Consistent (r.touch x now) w :=
  consistent.update x.id (fun _ => touched x now) fun _ _ => rfl

theorem reset (consistent : Consistent r w) : Consistent r.reset w where
  known := consistent.known
  idle := by simp [Recorder.reset]
  page := by simp [Recorder.reset]
  present := by simp [Recorder.reset]

theorem switched (consistent : Consistent r w) {state : RecorderState} (active : r.state ≠ .idle)
    (other : state ≠ .idle) : Consistent { r with state } w where
  known := consistent.known
  idle := by
    rw [← consistent.idle]
    exact iff_of_false other active
  page := consistent.page.trans (iff_of_true active other)
  present := consistent.present

theorem refusing (consistent : Consistent r w) (refusal : Option String) :
    Consistent { r with store := { r.store with refusal } } w :=
  ⟨consistent.known, consistent.idle, consistent.page, consistent.present⟩

theorem begin (consistent : Consistent r w) (name description : Option Value) (targetSite : Option String)
    (later : w.freshId.2.Later after) : Consistent (r.begin w name description targetSite) after where
  known x member := by
    rcases List.mem_append.mp member with member | member
    · obtain ⟨n, used, same⟩ := consistent.known x member
      exact ⟨n, Nat.lt_trans used later.used, by rw [later.ids]; exact same⟩
    · rw [List.mem_singleton.mp member]
      exact ⟨w.idsUsed, later.used, by rw [later.ids]; rfl⟩
  idle := by simp [Recorder.begin]
  page := by simp [Recorder.begin]
  present id current := by
    cases current
    exact ⟨_, recording?_begin consistent.unclaimed name description targetSite⟩

theorem id_visible (consistent : Consistent r w) {id : String} {x : Recording} (found : r.recording? id = some x) :
    x.id ≠ "" ∧ ∀ c ∈ x.id.toList, Text.isBlank c = false := by
  rw [recording?] at found
  obtain ⟨n, _, same⟩ := consistent.known x (List.mem_of_find?_eq_some found)
  rw [same]
  exact ⟨w.ids.nonempty n, w.ids.visible n⟩

theorem current? (consistent : Consistent r w) {id : String} (current : r.current = some id) :
    ∃ x, r.current? = some x ∧ r.recording? id = some x ∧ x.id = id := by
  obtain ⟨x, found⟩ := consistent.present id current
  exact ⟨x, by rw [Recorder.current?, current]; exact found, found, recording?_id found⟩

theorem effect (consistent : Consistent r w) {call : Call} {result : Except Fault Outcome} {r' : Recorder}
    (effect : Effect r w call result r' after) : Consistent r' after := by
  cases effect with
  | refused _ _ passes => exact consistent.later passes.toLater
  | dropped => exact consistent
  | loaded passes => exact consistent.later passes.toLater
  | paused recording => exact consistent.switched (by simp [recording]) nofun
  | resumed paused => exact consistent.switched (by simp [paused]) nofun
  | started targetSite idle passes => exact consistent.begin _ _ targetSite passes.toLater
  | notStarted targetSite fault idle passes => exact (consistent.begin _ _ targetSite passes.toLater).reset
  | recorded capture recording current valid passes => exact (consistent.appendTo _ _ 0).later passes.toLater
  | stepped active current byHand valid passes => exact (consistent.appendTo _ _ 1).later passes.toLater
  | notStopped fault current later => exact (consistent.touch _ _).later later
  | stopped active current rendered named written later => exact ((consistent.touch _ _).later later).reset

end Consistent

theorem Reaches.consistent {store : ScriptStore} {takesScreenshots : Bool} {w after : World} {history : List Entry}
    {r : Recorder} (run : Reaches store takesScreenshots w history r after) : Consistent r after := by
  induction run with
  | fresh => exact .fresh store takesScreenshots w
  | elapse refusal run later ih => exact (ih.later later).refusing refusal
  | call call observers run ordinary ends ih => exact ih.effect (Call.effect ih.unclaimed ends)

theorem announce_ordinary {observers : List Observer} (ordinary : ∀ observer ∈ observers, observer.IsOrdinary)
    (action : Action) : announce observers action = .ok () := by
  induction observers with
  | nil => rfl
  | cons observer observers ih =>
    have head := ordinary observer (by simp) action
    have tail := ih fun other member => ordinary other (List.mem_cons_of_mem _ member)
    rw [announce]
    split
    · rename_i cancelled
      exact absurd cancelled head
    · exact tail

/-- The faults of observers do not show in what an operation gives. -/
theorem hear_ordinary {observers : List Observer} (ordinary : ∀ observer ∈ observers, observer.IsOrdinary)
    (result : Except Fault Outcome) : hear observers result = result := by
  unfold hear
  split
  · rw [announce_ordinary ordinary]
    rfl
  · rfl

theorem accepted_append (history : List Entry) (entry : Entry) : accepted (history ++ [entry]) =
    match entry.result with
    | .ok (.started _) => []
    | .ok (.appended action) => accepted history ++ [action]
    | _ => accepted history := by
  rw [accepted, List.foldl_append]
  rfl

/-- One operation keeps the log: what it gives as appended, and nothing else, is added to the actions. -/
theorem effect_accepted {r r' : Recorder} {w after : World} {call : Call} {result : Except Fault Outcome}
    {history : List Entry} (consistent : Consistent r w) (log : ∀ x ∈ r.current?, x.actions = accepted history)
    (effect : Effect r w call result r' after) :
    ∀ x ∈ r'.current?, x.actions = accepted (history ++ [⟨call, r.state, result⟩]) := by
  have appended {id : String} (current : r.current = some id) (action : Action) (count : Nat) :
      ∀ x ∈ (r.appendTo id action count).current?, x.actions = accepted history ++ [action] := by
    intro x shown
    obtain ⟨y, this, found, _⟩ := consistent.current? current
    rw [current?_appendTo current found] at shown
    cases shown
    exact congrArg (· ++ [action]) (log y this)
  intro x shown
  rw [accepted_append]
  cases effect with
  | refused | dropped | loaded | paused | resumed => exact log x shown
  | @started name description targetSite _ idle passes =>
    have found := recording?_begin consistent.unclaimed name description targetSite
    rw [current?, begin_current, Option.bind_some, found] at shown
    cases shown
    rfl
  | notStarted | stopped => cases shown
  | recorded capture recording current valid passes => exact appended current _ 0 x shown
  | stepped active current byHand valid passes => exact appended current _ 1 x shown
  | @notStopped y _ fault current later =>
    rw [current?_touch current] at shown
    cases shown
    exact log y current

theorem Reaches.log {store : ScriptStore} {takesScreenshots : Bool} {w after : World} {history : List Entry}
    {r : Recorder} (run : Reaches store takesScreenshots w history r after) :
    ∀ x ∈ r.current?, x.actions = accepted history := by
  induction run with
  | fresh => exact fun x shown => by cases shown
  | elapse refusal run later ih => exact ih
  | call call observers run ordinary ends ih =>
    rw [hear_ordinary ordinary]
    exact effect_accepted run.consistent ih (Call.effect run.consistent.unclaimed ends)

theorem Reaches.dropped {store : ScriptStore} {takesScreenshots : Bool} {w after : World} {history : List Entry}
    {r : Recorder} (run : Reaches store takesScreenshots w history r after) :
    ∀ entry ∈ history, entry.call.isCapture = true → entry.state ≠ .recording → entry.result = .ok .dropped := by
  induction run with
  | fresh => exact fun entry member => by cases member
  | elapse refusal run later ih => exact ih
  | call call observers run ordinary ends ih =>
    intro entry member capture other
    rcases List.mem_append.mp member with member | member
    · exact ih entry member capture other
    · cases List.mem_singleton.mp member
      rw [hear_ordinary ordinary]
      exact Call.dropped capture other ends

theorem Reaches.stopped {store : ScriptStore} {takesScreenshots : Bool} {w after : World} {history : List Entry}
    {r : Recorder} (run : Reaches store takesScreenshots w history r after) {replies : List (PageRequest × Reply)}
    {outcome : Outcome} {r' : Recorder} {final : World} (ends : Ends (r.stop after) replies (.ok outcome) r' final) :
    ∃ x script path, r.current = some x.id ∧ outcome = .stopped x.id ∧ r'.state = .idle ∧
      r'.recording? x.id = some x ∧ x.actions = accepted history ∧ Script.ofRecording x = .ok script ∧
      r.store.path x.id = .ok path ∧ final.files.find path = .ok (some (.file (Utf8.encode script.toList))) := by
  have effect := stop_ends ends
  cases effect with
  | dropped capture => cases capture
  | recorded capture => cases capture
  | @stopped x _ script path active current rendered named written later =>
    obtain ⟨this, found⟩ := current?_found current
    exact ⟨touched x after.now, script, path, this, rfl, rfl, recording?_touch found _, run.log x current, rendered, named,
      written⟩

/-- The persisted script is the accepted log: the current recording holds the accepted actions, what came while
    nothing was recorded has been dropped, and when stopping succeeds, the file of the recording has the script of
    exactly these actions, and the recorder is idle. -/
theorem persisted_log {store : ScriptStore} {takesScreenshots : Bool} {w after : World} {history : List Entry}
    {r : Recorder} (run : Reaches store takesScreenshots w history r after) :
    (∀ x ∈ r.current?, x.actions = accepted history) ∧
    (∀ entry ∈ history, entry.call.isCapture = true → entry.state ≠ .recording → entry.result = .ok .dropped) ∧
    ∀ (replies : List (PageRequest × Reply)) (outcome : Outcome) (r' : Recorder) (final : World),
      Ends (r.stop after) replies (.ok outcome) r' final → ∃ x script path, r.current = some x.id ∧
        outcome = .stopped x.id ∧ r'.state = .idle ∧ r'.recording? x.id = some x ∧ x.actions = accepted history ∧
        Script.ofRecording x = .ok script ∧ r.store.path x.id = .ok path ∧
        final.files.find path = .ok (some (.file (Utf8.encode script.toList))) := by
  refine ⟨run.log, run.dropped, ?_⟩
  intro replies outcome r' final ends
  exact run.stopped ends

theorem persisted_log_login : ∃ (history : List Entry) (r r' : Recorder) (after final : World)
    (replies : List (PageRequest × Reply)) (x : Recording) (script : String) (path : Path),
    Reaches ⟨⟨["recordings"]⟩, ".ts", none⟩ false { files := ⟨[(["recordings"], .directory)]⟩ } history r after ∧
      Ends (r.stop after) replies (.ok (.stopped x.id)) r' final ∧ x.actions = accepted history ∧
      x.actions.map (·.kind) = [.manualStep] ∧ Script.ofRecording x = .ok script ∧
      final.files.find path = .ok (some (.file (Utf8.encode script.toList))) := by
  have taken (text : String) : (({ files := ⟨[(["recordings"], .directory)]⟩, idsUsed := 2 } : World).onFiles
      (ScriptStore.write ⟨⟨["recordings"]⟩, ".ts", none⟩ "id-1" text)).1 = .ok () := by rfl
  let store : ScriptStore := ⟨⟨["recordings"]⟩, ".ts", none⟩
  let w : World := { files := ⟨[(["recordings"], .directory)]⟩ }
  let answer : Reply := .ok .nothing
  let step : Action :=
    { kind := .manualStep, pageUrl := none, description := some (.str "log in"), time := w.now, id := w.ids.id 1 }
  let begun : Recorder := (fresh store false).begin w none none none
  let x : Recording := grown step 1 (.begun (w.ids.id 0) w.now none none)
  let r : Recorder := { begun with state := .paused }.appendTo (w.ids.id 0) step 1
  have found : begun.recording? (w.ids.id 0) = some (.begun (w.ids.id 0) w.now none none) :=
    recording?_begin (by simp [Unclaimed, fresh]) none none none
  have current : r.current? = some x := recording?_appendTo (r := { begun with state := .paused }) found step 1
  obtain ⟨history, run⟩ : ∃ history, Reaches store false w history r { w with idsUsed := 2 } := by
    have unused : Reaches store false w [] (fresh store false) w := .fresh
    have started := Reaches.call (.start none none) [] unused (by simp)
      (.reply answer (.reply answer (.reply answer (.reply answer (.finish _ _ _)))))
    have paused := Reaches.call .pause [] started (by simp) (.finish _ _ _)
    have dropped := Reaches.call (.record (.str "click") none none none) [] paused (by simp) (.finish _ _ _)
    have stepped := Reaches.call (.manualStep (.str "log in")) [fun _ => .error .recordingGone] dropped
      (by simp [Observer.IsOrdinary]) (.reply answer (.finish _ _ _))
    exact ⟨_, stepped⟩
  obtain ⟨script, rendered⟩ : ∃ script, Script.ofRecording (touched x w.now) = .ok script := by
    have only : ∀ a ∈ (touched x w.now).actions, a = step := fun a member => List.mem_singleton.mp member
    apply Script.render_total
    · exact ⟨⟨_, rfl⟩, Value.textual_none⟩
    · intro a member
      rw [only a member]
      exact ⟨by simp [step], Value.textual_none, Value.textual_text _⟩
    · intro a member
      rw [only a member]
      exact ⟨by simp [step], by simp [step]⟩
  have written : ({ w with idsUsed := 2 }.onFiles (r.store.write x.id script)).1 = .ok () := by
    have same : x.id = "id-1" := by decide
    have stored : r.store = ⟨⟨["recordings"]⟩, ".ts", none⟩ := rfl
    rw [same, stored]
    exact taken script
  have active : r.state ≠ .idle := by simp [r, appendTo, update]
  have stopped := stops (w := { w with idsUsed := 2 }) active current rfl rendered written .nothing .nothing
  obtain ⟨y, text, path, _, same, _, _, log, made, _, written⟩ := (persisted_log run).2.2 _ _ _ _ stopped
  have kinds : y.actions.map (·.kind) = [.manualStep] := by
    rw [log, ← (persisted_log run).1 x current]
    rfl
  exact ⟨history, r, _, _, _, _, y, text, path, run, same ▸ stopped, log, kinds, made, written⟩

end Recorder

end BrowserFlow
