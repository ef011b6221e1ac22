import BrowserFlow.Mode.Mode
import BrowserFlow.Proofs.Record.Captured

/-!
A mode that has been started, among commands that are under way at the same time. Commands are dictionaries or anything
else, each goes on when what it waits for has come, and the page reports events and loads of documents in between. To
the recorder all of this is a course of its own operations.
-/

namespace BrowserFlow

/-- The arguments that scripts are made of are text. A locator may be anything. -/
def ModeRequest.IsTextual (r : ModeRequest) : Prop :=
  match r.action with
  | .record => Value.Textual (r.argument? "name") ∧ Value.Textual (r.argument? "description")
  | .recordAction => Value.Textual (r.argument? "value") ∧ Value.Textual (r.argument? "description")
  | .manualStep => ∃ s, r.argument "description" = .str s
  | _ => True

theorem ModeAction.ofWord?_word (action : ModeAction) : ofWord? action.word = some action := by
  cases action <;> rfl

theorem ModeRequest.ofInput_named {entries : Entries} {action : ModeAction} (named : actionWord entries = action.word) :
    ofInput (.dict entries) = .ok ⟨action, entries⟩ := by
  unfold ofInput
  dsimp only
  rw [named, ModeAction.ofWord?_word]

namespace Mode

def IsTextual (input : Value) : Prop := ∀ request, ModeRequest.ofInput input = .ok request → request.IsTextual

def Task.pending? : Task → Option Recorder.Pending
  | .recording pending => some pending
  | _ => none

/-- What a command has still to go on with. -/
def waiting (t : Transition) : List Task :=
  match t.2.2.2 with
  | .ask _ => [t.2.2.1]
  | .finish _ => []

/-- The mode with a store that begins or ceases to refuse writing. -/
def refusing (m : Mode) (refusal : Option String) : Mode :=
  { m with recorder := m.recorder.map fun r => { r with store := { r.store with refusal } } }

structure Course where
  mode : Mode
  world : World
  /-- what the commands under way, and the recorder's reactions to the page, go on with -/
  tasks : List Task := []
  /-- the commands that have been executed -/
  commands : List Value := []
  /-- what the recorder had been used for before the mode was started with it -/
  earlier : List Recorder.Call := []

namespace Course

/-- After a transition of one command, with the others that wait. -/
def after (c : Course) (others : List Task) (t : Transition) : Course :=
  { c with mode := t.1, world := t.2.1, tasks := others ++ waiting t }

/-- Time passes, files change and the store begins or ceases to refuse writing; a command of any kind is executed; the
    page reports an event or that it has been loaded; or what a task waits for has come. -/
inductive Move : Course → Course → Prop
  | elapse (c : Course) (refusal : Option String) {world : World} (later : c.world.Later world) :
      Move c { c with mode := c.mode.refusing refusal, world }
  | execute (c : Course) (input : Value) :
      Move c ({ c with commands := c.commands ++ [input] }.after c.tasks
        (c.mode.step c.world (.received input) (.ok .nothing)))
  | event (c : Course) (payload : String) :
      Move c (c.after c.tasks (c.mode.ofRecorder (.received .null) (c.mode.current.handleEvent c.world payload)))
  | load (c : Course) :
      Move c (c.after c.tasks (c.mode.ofRecorder (.received .null) (c.mode.current.afterLoad c.world)))
  | reply {c : Course} {before rest : List Task} {task : Task} (waits : c.tasks = before ++ task :: rest)
      (reply : Reply) : Move c (c.after (before ++ rest) (c.mode.step c.world task reply))

/-- The operations that have been called on the recorder had text where scripts need it. -/
structure IsTextual (c : Course) : Prop where
  earlier : ∀ call ∈ c.earlier, call.IsTextual
  commands : ∀ input ∈ c.commands, Mode.IsTextual input

end Course

/-- A mode right after its start: with a new recorder, or with one that has been used in any way before and may even be
    in use. -/
inductive Started : Course → Prop
  | new {m m' : Mode} {o : ModeOptions} {observer : Option Nat} {w w' : World} (none : m.recorder = none)
      (started : w.onFiles (m.start o observer) = (.ok m', w')) : Started { mode := m', world := w' }
  | given {m m' : Mode} {o : ModeOptions} {observer : Option Nat} {w' : World} {store : ScriptStore}
      {takesScreenshots : Bool} {w : World} {used : Recorder.Course} (given : m.recorder = some used.recorder)
      (uses : Relation.ReflTransGen Recorder.Course.Move (.fresh store takesScreenshots w) used)
      (started : used.world.onFiles (m.start o observer) = (.ok m', w')) :
      Started { mode := m', world := w', tasks := used.waiting.map .recording, earlier := used.calls }

/-! ### What a transition does to the recorder -/

/-- The mode runs on and keeps its page, and what waits is a command that has begun. -/
structure Stays (m : Mode) (t : Transition) : Prop where
  isRunning : t.1.isRunning = m.isRunning
  hasPage : t.1.hasPage = m.hasPage
  begun : ∀ input, Task.received input ∉ waiting t

/-- The mode's transition does what one of its recorder does. -/
structure Does (m : Mode) (t : Transition) (s : Recorder.Transition) : Prop extends Stays m t where
  recorder : t.1.recorder = some s.1
  world : t.2.1 = s.2.1
  waiting : (waiting t).filterMap Task.pending? = s.2.2.waiting

/-- The mode's transition leaves its recorder alone. -/
structure Spares (m : Mode) (w : World) (t : Transition) : Prop extends Stays m t where
  recorder : t.1.recorder = m.recorder
  later : w.Later t.2.1
  waiting : (waiting t).filterMap Task.pending? = []

section Transitions

variable {m : Mode} {w after : World} {task : Task}

theorem current_eq {r : Recorder} (recorder : m.recorder = some r) : m.current = r := by
  rw [current, recorder]
  rfl

theorem finish_spares (replayer : Option Replayer) (later : w.Later after) (result : Except Fault ModeResult) :
    Spares m w ({ m with replayer }, after, task, .finish result) where
  isRunning := rfl
  hasPage := rfl
  begun _ := List.not_mem_nil
  recorder := rfl
  later := later
  waiting := rfl

/-- Only the recorder's own operations wait with something of the recorder. -/
theorem ask_spares (replayer : Option Replayer) (begun : ∀ input, task ≠ .received input)
    (other : task.pending? = none) (request : Request) : Spares m w ({ m with replayer }, w, task, .ask request) where
  isRunning := rfl
  hasPage := rfl
  begun input member := begun input (List.mem_singleton.mp member).symm
  recorder := rfl
  later := .refl w
  waiting := by simp [Mode.waiting, other]

theorem fail_eq (m : Mode) (w : World) (task : Task) (fault : Fault) :
    ∃ result, m.fail w task fault = (m, w, task, .finish result) := by
  cases fault <;> exact ⟨_, rfl⟩

theorem fail_spares (replayer : Option Replayer) (later : w.Later after) (fault : Fault) :
    Spares m w ({ m with replayer }.fail after task fault) := by
  obtain ⟨result, same⟩ := fail_eq { m with replayer } after task fault
  rw [same]
  exact finish_spares replayer later result

theorem answer_spares (result : Except Fault ModeResult) (later : w.Later after) :
    Spares m w (answer result m after task) := by
  cases result with
  | ok result => exact finish_spares m.replayer later _
  | error fault => exact fail_spares m.replayer later fault

theorem ofReplay_spares (p : Replayer) (run : Run) (demand : Demand Report) :
    Spares m w (m.ofReplay w p run demand) := by
  cases demand with
  | ask request => exact ask_spares (some p) (by simp) rfl request
  | finish result =>
    cases result with
    | ok report => exact finish_spares (some p) (.refl w) _
    | error fault => exact fail_spares (some p) (.refl w) fault

theorem pending?_recording (pending : List Recorder.Pending) :
    (pending.map Task.recording).filterMap Task.pending? = pending := by
  rw [List.filterMap_map]
  exact List.filterMap_some

theorem ofRecorder_eq (m : Mode) (task : Task) (r : Recorder) (w : World) (step : Recorder.Step) :
    ∃ task' demand, m.ofRecorder task (r, w, step) = ({ m with recorder := some r }, w, task', demand) ∧
      waiting ({ m with recorder := some r }, w, task', demand) = step.waiting.map .recording := by
  cases step with
  | ask request pending => exact ⟨_, _, rfl, rfl⟩
  | finish result =>
    cases result with
    | error fault =>
      obtain ⟨given, same⟩ := fail_eq { m with recorder := some r } w task fault
      exact ⟨_, _, same, rfl⟩
    | ok outcome =>
      unfold ofRecorder
      dsimp only
      split <;> exact ⟨_, _, rfl, rfl⟩

theorem ofRecorder_does (m : Mode) (task : Task) (s : Recorder.Transition) : Does m (m.ofRecorder task s) s := by
  obtain ⟨r, w, step⟩ := s
  obtain ⟨task', demand, same, waits⟩ := ofRecorder_eq m task r w step
  rw [same]
  exact
    { isRunning := rfl
      hasPage := rfl
      begun := by simp [waits]
      recorder := rfl
      world := rfl
      waiting := by rw [waits, pending?_recording] }

/-- A pause or a resume is at its end at once. -/
theorem settle_does (recorder : m.recorder = some m.current) (changed : Except Fault Recorder) (data : ModeData) :
    Does m (match changed with
      | .ok r => { m with recorder := some r }.finish w task (.ofData data)
      | .error fault => m.fail w task fault) (m.current.settle w changed) := by
  cases changed with
  | ok r => exact ⟨⟨rfl, rfl, fun _ => List.not_mem_nil⟩, rfl, rfl, rfl⟩
  | error fault =>
    obtain ⟨result, same⟩ := fail_eq m w task fault
    dsimp only
    rw [same]
    exact ⟨⟨rfl, rfl, fun _ => List.not_mem_nil⟩, recorder, rfl, rfl⟩

/-- What a command does before it first waits: an operation of the recorder, or nothing to it. -/
theorem begin_does (recorder : m.recorder = some m.current) (r : ModeRequest) :
    (∃ call : Recorder.Call, Does m (m.begin w task r) (call.begin m.current w) ∧ (r.IsTextual → call.IsTextual)) ∨
      Spares m w (m.begin w task r) := by
  obtain ⟨action, arguments⟩ := r
  cases action with
  | record => exact .inl ⟨.start _ _, ofRecorder_does m task _, id⟩
  | pause => exact .inl ⟨.pause, settle_does recorder m.current.pause .paused, id⟩
  | resume => exact .inl ⟨.resume, settle_does recorder m.current.resume .resumed, id⟩
  | stop => exact .inl ⟨.stop, ofRecorder_does m task _, id⟩
  | recordAction =>
    unfold begin
    dsimp only
    split
    · exact .inr (fail_spares m.replayer (.refl w) _)
    · exact .inr (fail_spares m.replayer (.refl w) _)
    · exact .inl ⟨.record _ _ _ _, ofRecorder_does m task _, id⟩
  | manualStep => exact .inl ⟨.manualStep _, ofRecorder_does m task _, id⟩
  | list => exact .inr (answer_spares _ (.refl w))
  | get => exact .inr (answer_spares _ (.refl w))
  | delete => exact .inr (answer_spares _ (World.later_onFiles w _))
  | replay =>
    right
    unfold begin
    dsimp only
    split
    · exact ofReplay_spares _ _ _
    · exact fail_spares _ (.refl w) _
  | replayPause | replayResume =>
    right
    unfold begin
    dsimp only
    split
    · exact ask_spares _ (by simp) rfl .tell
    · exact fail_spares m.replayer (.refl w) _
  | replayStop => exact .inr (finish_spares _ (.refl w) _)
  | replayStatus => exact .inr (finish_spares m.replayer (.refl w) _)
  | status => exact .inr (finish_spares m.replayer (.refl w) _)

theorem step_received (running : m.isRunning = true) {input : Value} {request : ModeRequest}
    (read : ModeRequest.ofInput input = .ok request) (answer : Answer) :
    m.step w (.received input) (.ok answer) = m.begin w (.received input) request := by
  rw [step, running, read]
  rfl

theorem received_does (recorder : m.recorder = some m.current) (input : Value) (reply : Reply) :
    (∃ call : Recorder.Call, Does m (m.step w (.received input) reply) (call.begin m.current w) ∧
      (IsTextual input → call.IsTextual)) ∨ Spares m w (m.step w (.received input) reply) := by
  cases reply with
  | error fault => exact .inr (fail_spares m.replayer (.refl w) fault)
  | ok answer =>
    rw [step]
    split
    · exact .inr (finish_spares m.replayer (.refl w) _)
    · split
      · rename_i request read
        refine (begin_does recorder request).imp_left fun ⟨call, does, textual⟩ => ⟨call, does, fun given => ?_⟩
        exact textual (given request read)
      · exact .inr (finish_spares m.replayer (.refl w) _)

theorem step_spares (begun : ∀ input, task ≠ .received input) (other : task.pending? = none) (reply : Reply) :
    Spares m w (m.step w task reply) := by
  cases task with
  | received input => exact absurd rfl (begun input)
  | recording pending => cases other
  | steering opensGate =>
    rw [step]
    cases opensGate
    · exact finish_spares m.replayer (.refl w) _
    · exact finish_spares _ (.refl w) _
  | replaying run => exact ofReplay_spares _ _ _

end Transitions

/-! ### The course of the recorder -/

/-- A mode that runs, with its recorder in the middle of a course of its own, in which what waits is what the mode's
    commands wait with. -/
structure Course.Mirrors (c : Course) (own : Recorder.Course) : Prop where
  isRunning : c.mode.isRunning = true
  hasPage : c.mode.hasPage = true
  begun : ∀ input, Task.received input ∉ c.tasks
  recorder : c.mode.recorder = some own.recorder
  world : c.world = own.world
  waiting : c.tasks.filterMap Task.pending? = own.waiting
  textual : c.IsTextual → ∀ call ∈ own.calls, call.IsTextual

namespace Course

section Mirrors

variable {c c' : Course} {own : Recorder.Course} {others : List Task} {t : Transition}

theorem Mirrors.current (mirrors : c.Mirrors own) : c.mode.current = own.recorder := current_eq mirrors.recorder

theorem Mirrors.recorder_current (mirrors : c.Mirrors own) : c.mode.recorder = some c.mode.current := by
  rw [mirrors.current, mirrors.recorder]

theorem Mirrors.called (mirrors : c.Mirrors own) {call : Recorder.Call} {commands : List Value}
    (textual : IsTextual { c with commands } → c.IsTextual ∧ call.IsTextual) :
    Mirrors { c with commands } { own with calls := own.calls ++ [call] } :=
  { mirrors with
    textual := fun given => by
      obtain ⟨before, last⟩ := textual given
      exact List.forall_mem_append.mpr ⟨mirrors.textual before, by simpa using last⟩ }

theorem begun_after (begun : ∀ input, Task.received input ∉ others) (stays : Stays c.mode t) :
    ∀ input, Task.received input ∉ (c.after others t).tasks := fun input member =>
  (List.mem_append.mp member).elim (begun input) (stays.begun input)

theorem Mirrors.does (mirrors : c.Mirrors own) (begun : ∀ input, Task.received input ∉ others)
    {s : Recorder.Transition} (does : Does c.mode t s) :
    Mirrors (c.after others t) (own.after (others.filterMap Task.pending?) [] s) where
  isRunning := does.isRunning.trans mirrors.isRunning
  hasPage := does.hasPage.trans mirrors.hasPage
  begun := begun_after begun does.toStays
  recorder := does.recorder
  world := does.world
  waiting := by rw [after, List.filterMap_append, does.waiting]; rfl
  textual given := mirrors.textual ⟨given.earlier, given.commands⟩

theorem Mirrors.spared (mirrors : c.Mirrors own) (begun : ∀ input, Task.received input ∉ others)
    (same : others.filterMap Task.pending? = own.waiting) (spares : Spares c.mode c.world t) :
    Recorder.Course.Move own { own with world := t.2.1 } ∧ Mirrors (c.after others t) { own with world := t.2.1 } := by
  have later : own.world.Later t.2.1 := mirrors.world ▸ spares.later
  exact ⟨.elapse own own.recorder.store.refusal later,
    { isRunning := spares.isRunning.trans mirrors.isRunning
      hasPage := spares.hasPage.trans mirrors.hasPage
      begun := begun_after begun spares.toStays
      recorder := spares.recorder.trans mirrors.recorder
      world := rfl
      waiting := by rw [after, List.filterMap_append, spares.waiting, List.append_nil, same]
      textual := fun given => mirrors.textual ⟨given.earlier, given.commands⟩ }⟩

/-- The page calls the recorder itself. -/
theorem Mirrors.reacted (mirrors : c.Mirrors own) (call : Recorder.Call) (textual : call.IsTextual) (task : Task) :
    ∃ own', Recorder.Course.Move own own' ∧
      Mirrors (c.after c.tasks (c.mode.ofRecorder task (call.begin c.mode.current c.world))) own' := by
  have move := Recorder.Course.Move.call own call []
  rw [← mirrors.current, ← mirrors.world, ← mirrors.waiting] at move
  have called : Mirrors c { own with calls := own.calls ++ [call] } := mirrors.called fun given => ⟨given, textual⟩
  exact ⟨_, move, called.does mirrors.begun (ofRecorder_does _ _ _)⟩

/-- To the recorder, a command that is executed is a call of its own, or some time that passes. -/
theorem Mirrors.executed (mirrors : c.Mirrors own) (input : Value) : ∃ own', Recorder.Course.Move own own' ∧
    Mirrors ({ c with commands := c.commands ++ [input] }.after c.tasks
      (c.mode.step c.world (.received input) (.ok .nothing))) own' := by
  have before (given : IsTextual { c with commands := c.commands ++ [input] }) :
      c.IsTextual ∧ Mode.IsTextual input := by
    obtain ⟨earlier, last⟩ := List.forall_mem_append.mp given.commands
    exact ⟨⟨given.earlier, earlier⟩, last input (List.mem_singleton_self input)⟩
  rcases @received_does c.mode c.world mirrors.recorder_current input (.ok .nothing) with ⟨call, does, textual⟩ | spares
  · have move := Recorder.Course.Move.call own call []
    rw [← mirrors.current, ← mirrors.world, ← mirrors.waiting] at move
    have called : Mirrors { c with commands := c.commands ++ [input] } { own with calls := own.calls ++ [call] } :=
      mirrors.called fun given => (before given).imp_right textual
    exact ⟨_, move, called.does mirrors.begun does⟩
  · have called : Mirrors { c with commands := c.commands ++ [input] } own :=
      { mirrors with textual := fun given => mirrors.textual (before given).1 }
    exact ⟨_, called.spared mirrors.begun mirrors.waiting spares⟩

theorem Mirrors.answered (mirrors : c.Mirrors own) {before rest : List Task} {task : Task}
    (waits : c.tasks = before ++ task :: rest) (reply : Reply) : ∃ own', Recorder.Course.Move own own' ∧
      Mirrors (c.after (before ++ rest) (c.mode.step c.world task reply)) own' := by
  have begun (input : Value) : Task.received input ∉ before ++ rest := fun member =>
    mirrors.begun input (by rw [waits]; simp only [List.mem_append, List.mem_cons] at member ⊢; tauto)
  have waiting := mirrors.waiting
  rw [waits, List.filterMap_append, List.filterMap_cons] at waiting
  cases other : task.pending? with
  | some pending =>
    cases task with
    | recording pending' =>
      cases other
      have move := Recorder.Course.Move.reply waiting.symm reply []
      rw [← mirrors.current, ← mirrors.world, ← List.filterMap_append] at move
      exact ⟨_, move, mirrors.does begun (ofRecorder_does _ _ _)⟩
    | _ => cases other
  | none =>
    have unbegun (input : Value) : task ≠ .received input := fun same =>
      mirrors.begun input (by rw [waits, ← same]; simp)
    rw [other] at waiting
    exact ⟨_, mirrors.spared begun (List.filterMap_append.trans waiting) (step_spares unbegun other reply)⟩

/-- One move of the mode is one of its recorder. -/
theorem Move.mirrored (move : Move c c') (mirrors : c.Mirrors own) :
    ∃ own', Recorder.Course.Move own own' ∧ c'.Mirrors own' := by
  cases move with
  | @elapse refusal world later =>
    rw [mirrors.world] at later
    exact ⟨_, .elapse own refusal later,
      { mirrors with
        recorder := by rw [refusing, mirrors.recorder]; rfl
        world := rfl
        textual := fun given => mirrors.textual ⟨given.earlier, given.commands⟩ }⟩
  | execute input => exact mirrors.executed input
  | event payload => exact mirrors.reacted (.event payload) trivial _
  | load => exact mirrors.reacted .load trivial _
  | reply waits reply => exact mirrors.answered waits reply

end Mirrors

/-- A command that nothing comes between is a course of its own. -/
theorem moves_of_ends {t : Recorder.Transition} {replies : List (PageRequest × Reply)}
    {result : Except Fault Recorder.Outcome} {r : Recorder} {final : World}
    (ends : Recorder.Ends t replies result r final) (c : Course) (others : List Task) (task : Task) :
    Relation.ReflTransGen Move (c.after others (c.mode.ofRecorder task t))
      { c with mode := { c.mode with recorder := some r }, world := final, tasks := others } := by
  induction ends generalizing c task with
  | finish r w result =>
    obtain ⟨task', demand, same, waits⟩ := ofRecorder_eq c.mode task r w (.finish result)
    rw [same, after, waits, Recorder.Step.waiting, List.map_nil, List.append_nil]
  | @ask r _ w w' _ request pending reply _ _ passes _ ih =>
    let asking : Course :=
      { c with mode := { c.mode with recorder := some r }, world := w, tasks := others ++ [.recording pending] }
    have elapsed : Move asking { asking with world := w' } := .elapse asking r.store.refusal passes.toLater
    have answered := @Move.reply { asking with world := w' } others [] (.recording pending) rfl reply
    rw [List.append_nil] at answered
    exact .head elapsed (.head answered (ih { asking with world := w' } (.recording pending)))

theorem moves_of_command {c : Course} (running : c.mode.isRunning = true) {input : Value} {request : ModeRequest}
    (read : ModeRequest.ofInput input = .ok request) {t : Recorder.Transition}
    (begins : c.mode.begin c.world (.received input) request = c.mode.ofRecorder (.received input) t)
    {replies : List (PageRequest × Reply)} {result : Except Fault Recorder.Outcome} {r : Recorder} {final : World}
    (ends : Recorder.Ends t replies result r final) : Relation.ReflTransGen Move c
      { c with mode := { c.mode with recorder := some r }, world := final, commands := c.commands ++ [input] } := by
  have executed := Move.execute c input
  rw [step_received running read, begins] at executed
  exact .head executed (moves_of_ends ends { c with commands := c.commands ++ [input] } c.tasks (.received input))

end Course

/-- What a mode is right after its start. -/
theorem start_ok {m m' : Mode} {o : ModeOptions} {observer : Option Nat} {w w' : World}
    (started : w.onFiles (m.start o observer) = (.ok m', w')) : w.Later w' ∧ m'.isRunning = true ∧ m'.hasPage = true ∧
      ∃ store, m'.recorder = some (m.recorder.getD (Recorder.fresh store o.takesScreenshots)) := by
  have later := World.later_onFiles w (m.start o observer)
  rw [started] at later
  have ran := World.onFiles_ok (congrArg Prod.fst started)
  unfold start at ran
  dsimp only at ran
  split at ran
  · rename_i both
    obtain ⟨recorder, _⟩ := Bool.and_eq_true_iff.mp both
    obtain ⟨r, given⟩ := Option.isSome_iff_exists.mp recorder
    cases ran
    exact ⟨later, rfl, rfl, ⟨⟨[]⟩, "", none⟩, by rw [given]; rfl⟩
  · obtain ⟨store, _, _, ran⟩ := FileM.bind_ok ran
    cases ran
    exact ⟨later, rfl, rfl, store, by cases m.recorder <;> rfl⟩

theorem Started.mirrored {c : Course} (started : Started c) : ∃ own store takesScreenshots w,
    Relation.ReflTransGen Recorder.Course.Move (.fresh store takesScreenshots w) own ∧ c.Mirrors own := by
  cases started with
  | @new m m' o observer w w' none started =>
    obtain ⟨_, isRunning, hasPage, store, recorder⟩ := start_ok started
    rw [none] at recorder
    exact ⟨_, store, o.takesScreenshots, w', .refl,
      { isRunning, hasPage, recorder
        begun := fun _ => List.not_mem_nil
        world := rfl
        waiting := rfl
        textual := fun _ _ => nofun }⟩
  | @given m m' o observer w' store takesScreenshots w used given uses started =>
    obtain ⟨later, isRunning, hasPage, _, recorder⟩ := start_ok started
    rw [given] at recorder
    exact ⟨_, store, takesScreenshots, w, uses.tail (.elapse used used.recorder.store.refusal later),
      { isRunning, hasPage, recorder
        begun := by simp
        world := rfl
        waiting := pending?_recording used.waiting
        textual := fun given => given.earlier }⟩

namespace Course

variable {start c : Course}

/-- In every state the mode runs, and what its recorder has been through is a course of its own. -/
theorem mirrored (started : Started start) (run : Relation.ReflTransGen Move start c) :
    ∃ own store takesScreenshots w,
      Relation.ReflTransGen Recorder.Course.Move (.fresh store takesScreenshots w) own ∧ c.Mirrors own := by
  induction run with
  | refl => exact started.mirrored
  | tail _ move ih =>
    obtain ⟨own, store, takesScreenshots, w, before, mirrors⟩ := ih
    obtain ⟨own', next, mirrors⟩ := move.mirrored mirrors
    exact ⟨own', store, takesScreenshots, w, before.tail next, mirrors⟩

theorem running (started : Started start) (run : Relation.ReflTransGen Move start c) :
    c.mode.isRunning = true ∧ c.mode.hasPage = true := by
  obtain ⟨_, _, _, _, _, mirrors⟩ := mirrored started run
  exact ⟨mirrors.isRunning, mirrors.hasPage⟩

theorem consistent (started : Started start) (run : Relation.ReflTransGen Move start c) :
    c.mode.recorder = some c.mode.current ∧ c.mode.current.Consistent c.world := by
  obtain ⟨own, _, _, _, before, mirrors⟩ := mirrored started run
  refine ⟨mirrors.recorder_current, ?_⟩
  rw [mirrors.current, mirrors.world]
  exact Recorder.Course.consistent_of_fresh before

theorem reported (started : Started start) (run : Relation.ReflTransGen Move start c) (textual : c.IsTextual) :
    c.mode.current.Reported := by
  obtain ⟨own, _, _, _, before, mirrors⟩ := mirrored started run
  rw [mirrors.current]
  exact (Recorder.Course.reported before (mirrors.textual textual)).1

end Course

end Mode

end BrowserFlow
