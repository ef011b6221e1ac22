import BrowserFlow.Proofs.Record.Log
import Mathlib.Logic.Relation

/-!
A recorder among operations that are under way at the same time. Each waits for an answer of the page; answers come
in any order, and other operations begin in between. Whatever the order, the recorder is idle just when it has
neither a current recording nor a page, recorded actions have the locators they need, and the actions of a recording
only grow at their end.
-/

namespace BrowserFlow.Recorder

structure Course where
  recorder : Recorder
  world : World
  /-- what the operations under way go on with -/
  waiting : List Pending := []
  /-- the operations that have been called -/
  calls : List Call := []
  /-- what the operations that are at their end have given -/
  given : List (Except Fault Outcome) := []

def Step.waiting : Step → List Pending
  | .ask _ pending => [pending]
  | .finish _ => []

def Step.given (observers : List Observer) : Step → List (Except Fault Outcome)
  | .ask _ _ => []
  | .finish result => [hear observers result]

/-- What one transition can do to a recorder. -/
inductive Change (r : Recorder) (w : World) : Recorder → World → Prop
  | stays {after : World} (later : w.Later after) : Change r w r after
  | refusing (refusal : Option String) {after : World} (later : w.Later after) :
      Change r w { r with store := { r.store with refusal } } after
  | paused (recording : r.state = .recording) : Change r w { r with state := .paused } w
  | resumed (paused : r.state = .paused) : Change r w { r with state := .recording } w
  | begun (name description : Option Value) (idle : r.state = .idle) :
      Change r w (r.begin w name description none) w.freshId.2
  | noted (id : String) {url : String} (filled : url ≠ "") :
      Change r w (r.update id fun x => { x with targetSite := some url }) w
  | appended {id : String} {action : Action} (count : Nat) {after : World} (current : r.current = some id)
      (valid : action.validate = .ok action) (later : w.Later after) : Change r w (r.appendTo id action count) after
  | touched {x : Recording} {after : World} (current : r.current? = some x) (later : w.Later after) :
      Change r w (r.touch x w.now) after
  | stopped {x : Recording} {after : World} (current : r.current? = some x) (later : w.Later after) :
      Change r w (r.touch x w.now).reset after
  | reset {after : World} (later : w.Later after) : Change r w r.reset after

/-- A transition that leaves the recorder as it is. -/
def Keeps (r : Recorder) (w : World) (t : Transition) : Prop := t.1 = r ∧ t.2.1 = w

section Transitions

variable {r : Recorder} {w : World}

theorem Keeps.change {t : Transition} (keeps : Keeps r w t) : Change r w t.1 t.2.1 := by
  obtain ⟨recorder, world⟩ := keeps
  rw [recorder, world]
  exact .stays (.refl w)

theorem recordAction_keeps (kind : Value) (locator : Option Locator) (value description : Option Value) :
    Keeps r w (r.recordAction w kind locator value description) := by
  unfold recordAction
  split
  · exact ⟨rfl, rfl⟩
  · split <;> exact ⟨rfl, rfl⟩

theorem handleEvent_keeps (payload : String) : Keeps r w (r.handleEvent w payload) := by
  unfold handleEvent
  split
  · exact recordAction_keeps _ _ _ _
  · exact ⟨rfl, rfl⟩

theorem askUrl_keeps (pending : Pending) : Keeps r w (r.askUrl w pending) := by
  unfold askUrl
  split <;> exact ⟨rfl, rfl⟩

theorem addManualStep_keeps (description : Value) : Keeps r w (r.addManualStep w description) := by
  unfold addManualStep
  split
  · exact ⟨rfl, rfl⟩
  · split
    · exact ⟨rfl, rfl⟩
    · exact askUrl_keeps _

theorem afterLoad_keeps : Keeps r w (r.afterLoad w) := by
  unfold afterLoad
  split <;> exact ⟨rfl, rfl⟩

theorem start_change (name description : Option Value) :
    Change r w (r.start w name description).1 (r.start w name description).2.1 := by
  unfold start
  split
  · exact .stays (.refl w)
  · rename_i notActive
    exact .begun name description (by simpa using notActive)

theorem pause_change : Change r w (r.settle w r.pause).1 (r.settle w r.pause).2.1 := by
  unfold pause
  split
  · rename_i recording
    exact .paused (beq_iff_eq.mp recording)
  · exact .stays (.refl w)

theorem resume_change : Change r w (r.settle w r.resume).1 (r.settle w r.resume).2.1 := by
  unfold resume
  split
  · rename_i paused
    exact .resumed (beq_iff_eq.mp paused)
  · exact .stays (.refl w)

theorem stop_change : Change r w (r.stop w).1 (r.stop w).2.1 := by
  rcases stop_cases r w with refused | ⟨x, active, current⟩
  · rw [refused]
    exact .stays (.refl w)
  · rw [stop_eq active current]
    split
    · exact .touched current (.refl w)
    · rename_i script _
      have moved := World.later_onFiles w (r.store.write x.id script)
      split
      · exact .touched current moved
      · split
        · exact .touched current moved
        · exact .stopped current moved

theorem append_change {start : World} (action : Action) (count : Nat) (later : start.Later w) :
    Change r start (r.append w action count).1 (r.append w action count).2.1 := by
  unfold append
  split
  · exact .stays later
  · exact .stays later
  · rename_i id checked current valid
    have same := validate_ok valid
    subst same
    exact .appended count current valid later

/-- What an operation does before it first waits. -/
theorem Call.begin_change (call : Call) : Change r w (call.begin r w).1 (call.begin r w).2.1 := by
  cases call with
  | start name description => exact start_change name description
  | pause => exact pause_change
  | resume => exact resume_change
  | record kind locator value description => exact (recordAction_keeps kind locator value description).change
  | event payload => exact (handleEvent_keeps payload).change
  | manualStep description => exact (addManualStep_keeps description).change
  | stop => exact stop_change
  | load => exact afterLoad_keeps.change

/-- What an operation does when the page has answered, whatever has happened meanwhile. -/
theorem step_change (pending : Pending) (reply : Reply) :
    Change r w (r.step w pending reply).1 (r.step w pending reply).2.1 := by
  have unchanged : Change r w r w := .stays (.refl w)
  have idle : Change r w r.reset w := .reset (.refl w)
  cases pending with
  | startUrl id =>
    cases reply with
    | error fault => exact idle
    | ok answer =>
      rw [step]
      cases site : targetSite? answer with
      | none => exact unchanged
      | some url =>
        have filled := (Option.filter_eq_some_iff.mp site).2
        refine .noted id fun empty => ?_
        rw [empty] at filled
        cases filled
  | startExpose id => cases reply with
    | error fault => exact idle
    | ok answer => exact unchanged
  | startInstall id => cases reply with
    | error fault => exact idle
    | ok answer => exact unchanged
  | startListen id => cases reply with
    | error fault => exact idle
    | ok answer => exact unchanged
  | actionUrl kind locator value description => cases reply with
    | error fault => exact unchanged
    | ok answer => exact append_change _ 0 (World.passes_freshId w).toLater
  | stepImage description => cases reply with
    | ok answer => exact (askUrl_keeps _).change
    | error fault => cases fault with
      | cancelled => exact unchanged
      | _ => exact (askUrl_keeps _).change
  | stepUrl description screenshot => cases reply with
    | error fault => exact unchanged
    | ok answer => exact append_change _ 1 (World.passes_freshId w).toLater
  | stopListen id => cases reply with
    | error fault => exact unchanged
    | ok answer => exact unchanged
  | stopUninstall id => cases reply with
    | ok answer => exact idle
    | error fault => cases fault with
      | cancelled => exact unchanged
      | _ => exact idle
  | reinstall => cases reply with
    | ok answer => exact unchanged
    | error fault => cases fault with
      | cancelled => exact unchanged
      | _ => exact unchanged

end Transitions

namespace Course

def fresh (store : ScriptStore) (takesScreenshots : Bool) (w : World) : Course :=
  { recorder := Recorder.fresh store takesScreenshots, world := w }

/-- After a transition of one operation, with the others that wait. -/
def after (c : Course) (others : List Pending) (observers : List Observer) : Transition → Course
  | (r, w, step) =>
    { c with recorder := r, world := w, waiting := others ++ step.waiting, given := c.given ++ step.given observers }

/-- Time passes and files change, an operation is called, or the page answers one that waits; a cancellation is an
    answer as well. The observers may fail with anything. -/
inductive Move : Course → Course → Prop
  | elapse (c : Course) (refusal : Option String) {world : World} (later : c.world.Later world) :
      Move c { c with recorder := { c.recorder with store := { c.recorder.store with refusal } }, world }
  | call (c : Course) (call : Call) (observers : List Observer) :
      Move c ({ c with calls := c.calls ++ [call] }.after c.waiting observers (call.begin c.recorder c.world))
  | reply {c : Course} {before rest : List Pending} {pending : Pending} (waits : c.waiting = before ++ pending :: rest)
      (reply : Reply) (observers : List Observer) :
      Move c (c.after (before ++ rest) observers (c.recorder.step c.world pending reply))

theorem Move.change {c c' : Course} (move : Move c c') : Change c.recorder c.world c'.recorder c'.world := by
  cases move with
  | elapse refusal later => exact .refusing refusal later
  | call call observers => exact call.begin_change
  | reply waits reply observers => exact step_change _ reply

/-- An operation that nothing comes between is a course of its own. -/
theorem moves_of_ends {t : Transition} {replies : List (PageRequest × Reply)} {result : Except Fault Outcome}
    {r' : Recorder} {final : World} (ends : Ends t replies result r' final) (c : Course) (others : List Pending)
    (observers : List Observer) : Relation.ReflTransGen Move (c.after others observers t)
      (c.after others observers (r', final, .finish result)) := by
  induction ends with
  | finish r w result => exact .refl
  | @ask r r' w w' _ request pending reply replies result passes next ih =>
    have elapsed : Move (c.after others observers (r, w, .ask request pending))
        (c.after others observers (r, w', .ask request pending)) :=
      .elapse (c.after others observers (r, w, .ask request pending)) r.store.refusal passes.toLater
    have waits : (c.after others observers (r, w', .ask request pending)).waiting = others ++ pending :: [] := rfl
    have answered : Move (c.after others observers (r, w', .ask request pending))
        (c.after others observers (r.step w' pending reply)) := by
      simpa [after, Step.given] using Move.reply waits reply observers
    exact .head elapsed (.head answered ih)

/-- A sequential run is a course in which nothing waits in the end. -/
theorem of_reaches {store : ScriptStore} {takesScreenshots : Bool} {w final : World} {history : List Entry}
    {r : Recorder} (run : Reaches store takesScreenshots w history r final) :
    ∃ c, Relation.ReflTransGen Move (fresh store takesScreenshots w) c ∧ c.recorder = r ∧ c.world = final ∧
      c.waiting = [] ∧ c.calls = history.map (·.call) ∧ c.given = history.map (·.result) := by
  induction run with
  | fresh => exact ⟨_, .refl, rfl, rfl, rfl, rfl, rfl⟩
  | elapse refusal run later ih =>
    obtain ⟨c, moves, rfl, rfl, waiting, calls, given⟩ := ih
    exact ⟨_, moves.tail (.elapse c refusal later), rfl, rfl, waiting, calls, given⟩
  | call call observers run ordinary ends ih =>
    obtain ⟨c, moves, rfl, rfl, waiting, calls, given⟩ := ih
    have called := moves.tail (.call c call observers)
    rw [waiting] at called
    refine ⟨_, called.trans (moves_of_ends ends _ [] observers), rfl, rfl, rfl, ?_, ?_⟩
    · simp [after, calls]
    · simp [after, given, Step.given]

end Course

/-- A recording only gets more actions at its end. -/
def Grows (r r' : Recorder) : Prop :=
  ∀ id x, r.recording? id = some x → ∃ y, r'.recording? id = some y ∧ x.actions <+: y.actions

theorem Grows.refl (r : Recorder) : Grows r r := fun _ x found => ⟨x, found, List.prefix_refl _⟩

theorem Grows.trans {first second third : Recorder} (h : Grows first second) (h' : Grows second third) :
    Grows first third := by
  intro id x found
  obtain ⟨y, found, early⟩ := h id x found
  obtain ⟨z, found, late⟩ := h' id y found
  exact ⟨z, found, early.trans late⟩

theorem grows_update {r : Recorder} {id : String} {change : Recording → Recording}
    (keeps : ∀ x : Recording, x.id = id → (change x).id = id)
    (adds : ∀ x, r.recording? id = some x → x.actions <+: (change x).actions) : Grows r (r.update id change) := by
  intro other x found
  refine ⟨if x.id == id then change x else x, by rw [recording?_update r change keeps, found, Option.map_some], ?_⟩
  have same := recording?_id found
  subst same
  split
  · rename_i here
    have here := beq_iff_eq.mp here
    subst here
    exact adds x found
  · exact List.prefix_refl _

theorem grows_begin (r : Recorder) (w : World) (name description : Option Value) (targetSite : Option String) :
    Grows r (r.begin w name description targetSite) := by
  intro id x found
  refine ⟨x, ?_, List.prefix_refl _⟩
  rw [recording?] at found
  rw [recording?, begin, List.find?_append, found]
  rfl

theorem grows_touch {r : Recorder} {x : Recording} (current : r.current? = some x) (now : Instant) :
    Grows r (r.touch x now) := by
  refine grows_update (fun _ _ => rfl) fun y found => ?_
  cases (current?_found current).2.symm.trans found
  exact List.prefix_refl _

theorem Change.grows {r r' : Recorder} {w after : World} (change : Change r w r' after) : Grows r r' := by
  cases change with
  | stays | refusing | paused | resumed | reset => exact .refl r
  | begun name description idle => exact grows_begin r w name description none
  | noted id filled => exact grows_update (fun _ same => same) fun x _ => List.prefix_refl _
  | appended count current valid later => exact grows_update (fun _ same => same) fun x _ => List.prefix_append _ _
  | touched current later => exact grows_touch current w.now
  | stopped current later => exact grows_touch current w.now

/-- Every action has the locator that its kind needs. -/
def Located (r : Recorder) : Prop :=
  ∀ x ∈ r.recordings, ∀ a ∈ x.actions, a.kind.needsLocator = true → a.locator.isSome = true

theorem validate_located {a b : Action} (valid : a.validate = .ok b) (needs : a.kind.needsLocator = true) :
    a.locator.isSome = true := by
  unfold Action.validate at valid
  split at valid
  · cases valid
  · rename_i there
    rw [needs, Bool.true_and, Option.isNone_iff_eq_none] at there
    exact Option.isSome_iff_ne_none.mpr there

theorem Located.update {r : Recorder} (located : r.Located) (id : String) (change : Recording → Recording)
    (adds : ∀ x ∈ r.recordings, ∀ a ∈ (change x).actions, a ∈ x.actions ∨ ∃ b, a.validate = .ok b) :
    (r.update id change).Located := by
  intro x member a inside needs
  obtain ⟨y, held, rfl⟩ := List.mem_map.mp member
  split at inside
  · rcases adds y held a inside with old | ⟨b, valid⟩
    · exact located y held a old needs
    · exact validate_located valid needs
  · exact located y held a inside needs

theorem Located.touch {r : Recorder} (located : r.Located) {x : Recording} (current : r.current? = some x)
    (now : Instant) : (r.touch x now).Located := by
  intro y member a inside needs
  obtain ⟨z, held, rfl⟩ := List.mem_map.mp member
  split at inside
  · exact located x (List.mem_of_find?_eq_some (current?_found current).2) a inside needs
  · exact located z held a inside needs

theorem Change.located {r r' : Recorder} {w after : World} (change : Change r w r' after) (located : r.Located) :
    r'.Located := by
  cases change with
  | stays | refusing | paused | resumed | reset => exact located
  | begun name description idle =>
    intro x member a inside needs
    rcases List.mem_append.mp member with old | new
    · exact located x old a inside needs
    · cases List.mem_singleton.mp new
      cases inside
  | noted id filled => exact located.update id _ fun x _ a inside => .inl inside
  | @appended id action count _ current valid later =>
    refine located.update id _ fun x _ a inside => ?_
    rcases List.mem_append.mp inside with old | new
    · exact .inl old
    · cases List.mem_singleton.mp new
      exact .inr ⟨action, valid⟩
  | touched current later => exact located.touch current w.now
  | stopped current later => exact located.touch current w.now

theorem Consistent.change {r r' : Recorder} {w after : World} (consistent : Consistent r w)
    (change : Change r w r' after) : Consistent r' after := by
  cases change with
  | stays later => exact consistent.later later
  | refusing refusal later => exact (consistent.later later).refusing refusal
  | paused recording => exact consistent.switched (by simp [recording]) nofun
  | resumed paused => exact consistent.switched (by simp [paused]) nofun
  | begun name description idle => exact consistent.begin name description none (.refl _)
  | noted id filled => exact consistent.update id _ fun _ same => same
  | appended count current valid later => exact (consistent.appendTo _ _ count).later later
  | touched current later => exact (consistent.touch _ _).later later
  | stopped current later => exact ((consistent.touch _ _).later later).reset
  | reset later => exact (consistent.later later).reset

theorem Consistent.idle_iff {r : Recorder} {w : World} (consistent : Consistent r w) :
    r.state = .idle ↔ r.current? = none := by
  constructor
  · intro idle
    rw [Recorder.current?, consistent.idle.mp idle]
    rfl
  · intro none
    cases current : r.current with
    | none => exact consistent.idle.mpr current
    | some id =>
      obtain ⟨x, shown, _⟩ := consistent.current? current
      cases none.symm.trans shown

namespace Course

variable {c c' : Course}

theorem consistent (consistent : Consistent c.recorder c.world) (run : Relation.ReflTransGen Move c c') :
    Consistent c'.recorder c'.world := by
  induction run with
  | refl => exact consistent
  | tail _ move ih => exact ih.change move.change

theorem located (located : c.recorder.Located) (run : Relation.ReflTransGen Move c c') : c'.recorder.Located := by
  induction run with
  | refl => exact located
  | tail _ move ih => exact move.change.located ih

theorem grows (run : Relation.ReflTransGen Move c c') : Grows c.recorder c'.recorder := by
  induction run with
  | refl => exact .refl _
  | tail _ move ih => exact ih.trans move.change.grows

variable {store : ScriptStore} {takesScreenshots : Bool} {w : World}

theorem consistent_of_fresh (run : Relation.ReflTransGen Move (fresh store takesScreenshots w) c) :
    Consistent c.recorder c.world := consistent (.fresh store takesScreenshots w) run

/-- In every state of every course the recorder is idle just when it has no current recording, and just when it has no
    page; an action without a locator is one that needs none; and as long as the recording stays current, its actions
    so far remain the beginning of its actions. -/
theorem coherent (run : Relation.ReflTransGen Move (fresh store takesScreenshots w) c) :
    (c.recorder.state = .idle ↔ c.recorder.current? = none) ∧
    (c.recorder.current? = none ↔ c.recorder.hasPage = false) ∧
    (∀ x ∈ c.recorder.current?, ∀ a ∈ x.actions, a.locator = none → a.kind ∈ [.scroll, .wait, .manualStep]) ∧
    ∀ c', Relation.ReflTransGen Move c c' → c'.recorder.current = c.recorder.current →
      ∀ x ∈ c.recorder.current?, ∃ y ∈ c'.recorder.current?, y.id = x.id ∧ x.actions <+: y.actions := by
  have consistent := consistent_of_fresh run
  have located : c.recorder.Located := located (by simp [Located, fresh, Recorder.fresh]) run
  have idle := consistent.idle_iff
  refine ⟨idle, ?_, ?_, ?_⟩
  · have page := consistent.page
    rw [← idle]
    cases shown : c.recorder.hasPage <;> simp_all
  · intro x shown a inside bare
    obtain ⟨id, _, found⟩ := Option.bind_eq_some_iff.mp shown
    have needs := located x (List.mem_of_find?_eq_some found) a inside
    rw [bare] at needs
    cases kind : a.kind <;> simp_all [ActionKind.needsLocator]
  · intro c' later same x shown
    obtain ⟨id, current, found⟩ := Option.bind_eq_some_iff.mp shown
    obtain ⟨y, grown, begins⟩ := grows later id x found
    have kept : c'.recorder.current? = some y := by rw [current?, same, current, Option.bind_some, grown]
    exact ⟨y, kept, (recording?_id grown).trans (recording?_id found).symm, begins⟩

/-- A start that is cancelled while it waits, a second one, and a click whose page is asked for before a pause and
    answered after it. -/
theorem coherent_overlapping : ∃ c c' : Course,
    Relation.ReflTransGen Move (fresh ⟨⟨["recordings"]⟩, ".ts", none⟩ false {}) c ∧
    Relation.ReflTransGen Move c c' ∧ c'.recorder.current = c.recorder.current ∧ c.recorder.state = .paused ∧
    c.recorder.hasPage = true ∧ ∃ x ∈ c.recorder.current?, ∃ y ∈ c'.recorder.current?,
      x.actions.map (·.kind) = [.click] ∧ (∀ a ∈ x.actions, a.locator = none → a.kind ∈ [.scroll, .wait, .manualStep]) ∧
      y.actions.map (·.kind) = [.click, .manualStep] ∧ x.actions <+: y.actions := by
  let store : ScriptStore := ⟨⟨["recordings"]⟩, ".ts", none⟩
  let w : World := { idsUsed := 2 }
  let click : Action := { kind := .click, pageUrl := none, locator := some {}, time := w.now, id := w.ids.id 2 }
  let step : Action :=
    { kind := .manualStep, pageUrl := none, description := some (.str "log in"), time := w.now, id := w.ids.id 3 }
  let abandoned : Recorder := ((Recorder.fresh store false).begin {} none none none).reset
  let begun : Recorder := abandoned.begin { idsUsed := 1 } none none none
  let paused : Recorder := { begun with state := .paused }
  let clicked : Recorder := paused.appendTo (w.ids.id 1) click 0
  have unused : Reaches store false {} [] (Recorder.fresh store false) {} := .fresh
  have cancelled := Reaches.call (.start none none) [] unused (by simp)
    (.reply (.error .cancelled) (.finish abandoned { idsUsed := 1 } _))
  have started := Reaches.call (.start none none) [] cancelled (by simp)
    (.reply (.ok .nothing) (.reply (.ok .nothing) (.reply (.ok .nothing) (.reply (.ok .nothing) (.finish begun w _)))))
  obtain ⟨⟨r, v, waiting, calls, given⟩, moves, same, rfl, rfl, _⟩ := of_reaches started
  have same : r = begun := same
  subst same
  let asking : Pending := .actionUrl .click (some {}) none none
  have asked := moves.tail (.call _ (.record (.str "click") (some {}) none none) [])
  have waited := asked.tail (.call _ .pause [])
  have recorded := waited.tail (@Move.reply _ [] [] asking rfl (.ok .nothing) [])
  obtain ⟨calls, given, run⟩ : ∃ calls given, Relation.ReflTransGen Move (fresh store false {})
      ⟨clicked, { idsUsed := 3 }, [], calls, given⟩ := ⟨_, _, recorded⟩
  have called := Move.call ⟨clicked, { idsUsed := 3 }, [], calls, given⟩ (.manualStep (.str "log in")) []
  have stepped := (Relation.ReflTransGen.single called).tail
    (@Move.reply _ [] [] (.stepUrl (.str "log in") none) rfl (.ok .nothing) [])
  have found : paused.recording? (w.ids.id 1) = some (.begun (w.ids.id 1) w.now none none) :=
    recording?_begin cancelled.consistent.unclaimed none none none
  have current := recording?_appendTo found click 0
  obtain ⟨idle, page, located, grows⟩ := coherent run
  obtain ⟨y, shown, _, begins⟩ := grows _ stepped rfl _ current
  have same : y = grown step 1 (grown click 0 (.begun (w.ids.id 1) w.now none none)) :=
    Option.some.inj (shown.symm.trans (recording?_appendTo current step 1))
  subst same
  exact ⟨_, _, run, stepped, rfl, rfl, rfl, _, current, _, shown, rfl, located _ current, rfl, begins⟩

end Course

end BrowserFlow.Recorder
