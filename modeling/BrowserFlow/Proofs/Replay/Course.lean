import BrowserFlow.Proofs.Replay.Gate
import BrowserFlow.Proofs.Store
import Mathlib.Logic.Relation

/-!
Courses of a replay. Whatever it waits for may come, fail or be cancelled, and between two of its steps, also while the
observer is told of something, anybody may pause it, resume it and stop it.
-/

namespace BrowserFlow.Replayer

/-- A replay under way, with all that has been asked for so far. What a command asks for to take effect is marked. -/
structure Course where
  replayer : Replayer
  run : Run
  demand : Demand Report
  asked : List (Bool × Request)
  /-- resumes of which the observer is being told; the gate is opened after that -/
  opening : Nat := 0
  /-- has the replay been cancelled? -/
  cancelled : Bool := false

namespace Course

/-- The course of a replay whose start is to be told. -/
def ofStart (r : Replayer) (run : Run) : Course := ⟨r, run, .ask .tell, [(false, .tell)], 0, false⟩

def after (c : Course) (t : Run.Transition) : Course :=
  { c with replayer := t.1, run := t.2.1, demand := t.2.2, asked := c.asked ++ t.2.2.asked t.2.1.phase }

/-- One step of a course. A call that is made while the observer is told of a resume comes before the gate is opened,
    and the replay itself goes on when all calls have returned. -/
inductive Move : Course → Course → Prop
  | pause {c : Course} {r : Replayer} (passes : c.replayer.pause = .ok r) : Move c { c with replayer := r }
  | resume {c : Course} {r : Replayer} (passes : c.replayer.resume = .ok r) :
      Move c { c with replayer := r, opening := c.opening + 1 }
  | opened {c : Course} {n : Nat} (told : c.opening = n + 1) :
      Move c { c with replayer := c.replayer.openGate, opening := n }
  | stop (c : Course) : Move c { c with replayer := c.replayer.stop }
  | reply {c : Course} {request : Request} (waits : c.demand = .ask request) (settled : c.opening = 0) (w : World)
      {reply : Reply} (fits : request.MayGet c.replayer.gate reply) :
      Move c ({ c with cancelled := c.cancelled || Run.isCancelled reply }.after (c.run.step c.replayer w reply))

def saves (c : Course) : Nat := c.asked.countP (·.2.isSave)

/-- The start is told or the session restored, which are the first two requests at most. -/
def IsOpening (c : Course) : Prop :=
  c.run.phase.isOpening = true ∧ c.run.report.results = [] ∧ c.asked.length ≤ 2

/-- The replay waits before its next command, as it has been paused, or it has been let on. -/
def IsHeld (c : Course) : Prop :=
  c.run.phase = .blocked ∧ ∃ openings, c.demand = .ask (.gate openings) ∧
    (c.replayer.status.state = .paused ∨ 0 < c.opening ∨ c.replayer.gate.lets openings = true)

end Course

/-- A call that steers a replay, seen from its stages: it can only ask the replay to stop. -/
structure Steers (r r' : Replayer) : Prop where
  active : r'.isActive = r.isActive
  ended : r.isActive = false → r'.status.state = r.status.state
  speed : r'.speed = r.speed
  requested : r.stopRequested = true → r'.stopRequested = true

theorem pause_steers {r r' : Replayer} (passes : r.pause = .ok r') : Steers r r' := by
  obtain ⟨running, rfl⟩ := pause_ok passes
  have active : r.isActive = true := congrArg ReplayState.isActive running
  exact ⟨active.symm, fun ended => absurd active (by simp [ended]), rfl, id⟩

theorem resume_steers {r r' : Replayer} (passes : r.resume = .ok r') : Steers r r' := by
  obtain ⟨active, rfl⟩ := resume_ok passes
  exact ⟨active.symm, fun ended => absurd active (by simp [ended]), rfl, id⟩

theorem openGate_steers (r : Replayer) : Steers r r.openGate := ⟨rfl, fun _ => rfl, rfl, id⟩

theorem stop_steers (r : Replayer) : Steers r r.stop := by
  unfold stop
  split
  · exact ⟨rfl, fun _ => rfl, rfl, fun _ => rfl⟩
  · exact ⟨rfl, fun _ => rfl, rfl, id⟩

theorem Steers.stays {r r' : Replayer} (steers : Steers r r') {state : ReplayState} (same : r.status.state = state)
    (ended : state.isActive = false) : r'.status.state = state := by
  subst same
  exact steers.ended ended

theorem Steers.stage {cs : List Script.Command} {cancelled : Bool} {r r' : Replayer} {run : Run}
    {demand : Demand Report} (steers : Steers r r') (stage : Run.Stage cs cancelled r run demand) :
    Run.Stage cs cancelled r' run demand := by
  cases stage with
  | replaying active tallies asks => exact .replaying (steers.active.trans active) tallies asks
  | stopping idle tallies requested phase =>
    exact .stopping (steers.stays idle rfl) tallies (steers.requested requested) phase
  | stopped idle tallies requested phase =>
    exact .stopped (steers.stays idle rfl) tallies (steers.requested requested) phase
  | cancelling idle tallies phase => exact .cancelling (steers.stays idle rfl) tallies phase
  | cancelled idle tallies phase => exact .cancelled (steers.stays idle rfl) tallies phase
  | completing completed tallies phase => exact .completing (steers.stays completed rfl) tallies phase
  | saving completed tallies phase => exact .saving (steers.stays completed rfl) tallies phase
  | completed completed tallies ended => exact .completed (steers.stays completed rfl) tallies ended
  | unsaved completed tallies ended => exact .unsaved (steers.stays completed rfl) tallies ended

namespace Course

/-- What holds of every course: it is at some stage, the results account for what has been asked for, and the session
    has not been asked to be saved unless that was last. -/
structure Sound (cs : List Script.Command) (wait : WaitStrategy) (speed : Value) (c : Course) : Prop where
  stage : Run.Stage cs c.cancelled c.replayer c.run c.demand
  kept : c.replayer.speed = speed ∧ c.run.wait = wait
  accounts : Run.Accounts wait speed c.run (Run.effects c.asked)
  saves : c.saves = 0 ∨ c.saves = 1 ∧ c.run.phase = .saving
  opening : (c.run.phase = .announcing → c.asked.length = 1) ∧ (c.run.phase = .restoring → c.asked.length ≤ 2)
  gated : Gated c.opening c.replayer c.run.phase c.demand

variable {cs : List Script.Command} {wait : WaitStrategy} {speed : Value} {c c' : Course}

theorem Sound.steered (sound : Sound cs wait speed c) {r : Replayer} {opening : Nat} (steers : Steers c.replayer r)
    (gated : Gated opening r c.run.phase c.demand) : Sound cs wait speed { c with replayer := r, opening } where
  stage := steers.stage sound.stage
  kept := ⟨steers.speed.trans sound.kept.1, sound.kept.2⟩
  accounts := sound.accounts
  saves := sound.saves
  opening := sound.opening
  gated := gated

theorem saves_after (c : Course) (t : Run.Transition) :
    (c.after t).saves = c.saves + (t.2.2.asked t.2.1.phase).countP (·.2.isSave) := List.countP_append

theorem Sound.saves_step (sound : Sound cs wait speed c) {w : World} {reply : Reply} {t : Run.Transition}
    (same : c.run.step c.replayer w reply = t) {cancelled : Bool} (stage : Run.Stage cs cancelled t.1 t.2.1 t.2.2) :
    (c.after t).saves = 0 ∨ (c.after t).saves = 1 ∧ t.2.1.phase = .saving := by
  rw [saves_after]
  rcases sound.saves with none | ⟨once, phase⟩
  · rw [none, Nat.zero_add]
    obtain ⟨r, run, demand⟩ := t
    cases demand with
    | finish result => exact .inl rfl
    | ask request =>
      cases saves : request.isSave with
      | true => exact .inr ⟨by simp [Demand.asked, saves], stage.phase_of_save saves⟩
      | false => exact .inl (by simp [Demand.asked, saves])
  · cases same.symm.trans (Run.step_saving phase w reply)
    exact .inr ⟨once, phase⟩

theorem asked_length (phase : Phase) (demand : Demand Report) : (demand.asked phase).length ≤ 1 := by
  cases demand
  · exact Nat.le_refl 1
  · exact Nat.zero_le 1

theorem Sound.opening_step (sound : Sound cs wait speed c) (w : World) (reply : Reply) {t : Run.Transition}
    (same : c.run.step c.replayer w reply = t) :
    (t.2.1.phase = .announcing → (c.after t).asked.length = 1) ∧
      (t.2.1.phase = .restoring → (c.after t).asked.length ≤ 2) := by
  subst same
  by_cases phase : c.run.phase = .announcing
  · have begun : c.run.step c.replayer w reply = Run.begin c.replayer c.run w := by simp [Run.step, phase]
    rw [begun]
    have first := sound.opening.1 phase
    have next := asked_length (Run.begin c.replayer c.run w).2.1.phase (Run.begin c.replayer c.run w).2.2
    refine ⟨fun announcing => ?_, fun _ => ?_⟩
    · obtain restoring | opened := Run.begin_opened c.replayer c.run w
      · cases announcing.symm.trans restoring
      · rw [announcing] at opened
        cases opened
    · rw [after, List.length_append]
      omega
  · have opened : (c.run.step c.replayer w reply).2.1.phase.isOpening = false := Run.opened_step phase
    refine ⟨fun announcing => ?_, fun restoring => ?_⟩
    · rw [announcing] at opened
      cases opened
    · rw [restoring] at opened
      cases opened

theorem Sound.move (sound : Sound cs wait speed c) (move : Move c c') : Sound cs wait speed c' := by
  cases move with
  | pause passes => exact sound.steered (pause_steers passes) (sound.gated.pause passes)
  | resume passes => exact sound.steered (resume_steers passes) (sound.gated.resume passes)
  | opened told =>
    refine sound.steered (openGate_steers _) (sound.gated.openGate (fun manual => ?_) _)
    obtain ⟨settled, _⟩ := sound.gated.byHand manual
    omega
  | stop => exact sound.steered (stop_steers _) sound.gated.stop
  | @reply request waits settled w reply fits =>
    have stage := sound.stage
    have gated := sound.gated
    rw [waits] at stage gated
    rw [settled] at gated
    have told : request = .tell → Run.isCancelled reply = false := by
      rintro rfl
      obtain ⟨answer, rfl⟩ := fits
      rfl
    have kept := sound.kept
    have leads := stage.leads (kept.1.symm ▸ kept.2.symm ▸ sound.accounts) told w
    rw [kept.1, kept.2] at leads
    refine ⟨leads.stage, leads.kept, ?_, sound.saves_step rfl leads.stage, sound.opening_step w reply rfl, ?_⟩
    · have accounts := leads.accounts
      rw [← Run.effects_append] at accounts
      exact accounts
    · have next := gated.step stage w fits
      rw [← settled] at next
      exact next

theorem Sound.moves (sound : Sound cs wait speed c) (moves : Relation.ReflTransGen Move c c') :
    Sound cs wait speed c' := by
  induction moves with
  | refl => exact sound
  | tail _ move ih => exact ih.move move

theorem Sound.ofStart {r : Replayer} {run : Run} (running : r.status.state = .running) (isOpen : r.gate.isOpen = true)
    (phase : run.phase = .announcing) (fresh : run.report.results = [])
    (tallies : run.report.Tallies cs false run.remaining) : Sound cs run.wait r.speed (.ofStart r run) where
  stage := .replaying (congrArg ReplayState.isActive running) tallies (.announcing phase fresh)
  kept := ⟨rfl, rfl⟩
  accounts := .even (congrArg Phase.isEffective phase) (fresh ▸ .start)
  saves := .inl rfl
  opening := ⟨fun _ => rfl, fun _ => Nat.le_succ 1⟩
  gated := by
    refine ⟨fun _ closed => ?_, by rintro _ ⟨⟩, fun manual => ?_⟩
    · cases isOpen.symm.trans closed
    · cases running.symm.trans manual

theorem Sound.isOpening (sound : Sound cs wait speed c) (opening : c.run.phase.isOpening = true)
    (fresh : c.run.report.results = []) : c.IsOpening := by
  refine ⟨opening, fresh, ?_⟩
  cases phase : c.run.phase with
  | announcing => exact (sound.opening.1 phase).trans_le (Nat.le_succ 1)
  | restoring => exact sound.opening.2 phase
  | _ =>
    rw [phase] at opening
    cases opening

/-- A replay that waits before a command does so on account of a pause. -/
theorem Sound.isHeld (sound : Sound cs wait speed c) (active : c.replayer.isActive = true)
    (phase : c.run.phase = .blocked) {openings : Nat} (asks : c.demand = .ask (.gate openings)) : c.IsHeld := by
  refine ⟨phase, openings, asks, ?_⟩
  obtain ⟨early, last⟩ := sound.gated.waiting openings asks
  rcases Nat.lt_or_eq_of_le early with lets | same
  · exact .inr (.inr (decide_eq_true lets))
  · have closed := last same
    cases state : c.replayer.status.state with
    | paused => exact .inl rfl
    | running => exact .inr (.inl (sound.gated.running state closed))
    | manualStep =>
      obtain ⟨_, handing | byHand, _⟩ := sound.gated.byHand state
      · cases phase.symm.trans handing
      · cases phase.symm.trans byHand
    | idle | completed | error =>
      rw [Replayer.isActive, state] at active
      cases active

/-- What a replay of these commands comes to, at its best effort, in the course so far. -/
structure BestEffort (cs : List Script.Command) (wait : WaitStrategy) (speed : Value) (c : Course) : Prop where
  total : c.run.report.total = cs.length
  /-- the commands attempted so far have one result each, in their order, but for the one under way -/
  attempted : c.run.attempted <+: cs
  /-- and each of them has taken effect once or been kept from it by a fault of its own -/
  accounts : Run.Accounts wait speed c.run (Run.effects c.asked)
  /-- the next command is under way, whatever the results so far, unless the replay is held before it -/
  goesOn : c.run.report.executed < cs.length → c.cancelled = false → c.replayer.stopRequested = false →
    c.IsOpening ∨ c.run.attempted = cs.take (c.run.report.executed + 1) ∨ c.IsHeld
  /-- a fault in a command, before it takes effect, while it does or after that, is its result -/
  fails : ∀ (w : World) (reply : Reply) (command : Script.Command) (fault : Fault),
    c.run.attempted = c.run.report.commands ++ [command] → Run.isCancelled reply = false →
    Run.Fails c.replayer c.run w reply command fault → ∃ tenths, c.run.report.results ++
      [⟨command, false, tenths, some fault.text⟩] <+: (c.run.step c.replayer w reply).2.1.report.results
  completed : c.replayer.status.state = .completed → c.run.report.commands = cs ∧
    c.run.report.executed = c.run.report.total ∧ c.run.report.total = c.run.report.succeeded + c.run.report.failed ∧
    (c.run.report.success = true ↔ ∀ result ∈ c.run.report.results, result.success = true)
  returned : ∀ report, c.demand = .finish (.ok report) → report = c.run.report ∧ c.cancelled = false ∧
    (c.replayer.status.state = .completed ∨
      c.replayer.status.state = .idle ∧ report.stopped = true ∧ c.replayer.stopRequested = true)
  raised : ∀ fault, c.demand = .finish (.error fault) → fault = .cancelled ∧ c.cancelled = true
  /-- a replay that is cancelled before it is completed has ended, and its caller is or will be told -/
  cancelled : c.cancelled = true → c.replayer.status.state ≠ .completed → c.replayer.status.state = .idle ∧
    (c.demand = .finish (.error .cancelled) ∨ c.demand = .ask .tell ∧ c.run.phase = .closing (some .cancelled))
  saved : c.saves = 0 ∨ c.saves = 1 ∧ c.replayer.status.state = .completed

theorem Sound.bestEffort (sound : Sound cs wait speed c) : BestEffort cs wait speed c := by
  have stage := sound.stage
  obtain ⟨_, left, tallies, attempted⟩ := stage.tallies
  refine ⟨tallies.total, tallies.whole ▸ attempted, sound.accounts, ?_, ?_, ?_, ?_, ?_, ?_, ?_⟩
  · intro left going unstopped
    rw [going] at stage
    obtain opening | next | ⟨active, phase, openings, asks⟩ := stage.next left unstopped
    · exact .inl (sound.isOpening opening.1 opening.2)
    · exact .inr (.inl next)
    · exact .inr (.inr (sound.isHeld active phase asks))
  · intro w reply command fault underWay going fails
    obtain ⟨rest, remaining⟩ := Run.remaining_of_attempted underWay
    exact fails.result remaining going
  · intro completed
    have all := stage.tallies_completed completed
    have whole : c.run.report.commands = cs := by simpa using all.whole
    have executed : c.run.report.executed = c.run.report.total := by
      rw [all.total, ← Report.commands_length, whole]
    exact ⟨whole, executed, executed ▸ Report.executed_eq _, Report.success_iff all.stopped all.fine⟩
  · intro report ends
    rw [ends] at stage
    exact stage.returned
  · intro fault ends
    rw [ends] at stage
    exact stage.raised
  · intro cancelled other
    rw [cancelled] at stage
    exact stage.idle other
  · rcases sound.saves with none | ⟨once, phase⟩
    · exact .inl none
    · exact .inr ⟨once, stage.completed_of_saving phase⟩

variable {r p : Replayer} {v : World} {o : ReplayOptions} {observer : Option Nat} {run : Run}

/-- The course of a replay that has entered the running state with the commands of a script that could be read. -/
theorem Sound.ofRunning (started : p.start v o observer = (r, .ok run)) (running : r.status.state = .running) :
    ∃ id script, ScriptStore.idOfValue o.recordingId = .ok id ∧ p.store.read v.files id = .ok script ∧
      Sound (Script.commands script) run.wait r.speed (.ofStart r run) := by
  obtain ⟨id, script, named, read, isOpen, phase, remaining, report⟩ := start_running started running
  have tallies : run.report.Tallies (Script.commands script) false run.remaining := by
    rw [report, remaining]
    exact ⟨rfl, rfl, rfl, rfl⟩
  exact ⟨id, script, named, read, .ofStart running isOpen phase (by rw [report]) tallies⟩

/-- Whatever the page and the strategy of its waits do, and whenever it is paused, resumed, stopped and cancelled, a
    replay that has entered the running state attempts the commands of its script one after the other, those after a
    failure as well. -/
theorem best_effort (started : p.start v o observer = (r, .ok run)) (running : r.status.state = .running)
    (moves : Relation.ReflTransGen Move (.ofStart r run) c) : ∃ id script,
      ScriptStore.idOfValue o.recordingId = .ok id ∧ p.store.read v.files id = .ok script ∧
        BestEffort (Script.commands script) run.wait r.speed c := by
  obtain ⟨id, script, named, read, isOpen, phase, remaining, report⟩ := start_running started running
  have tallies : run.report.Tallies (Script.commands script) false run.remaining := by
    rw [report, remaining]
    exact ⟨rfl, rfl, rfl, rfl⟩
  have fresh : run.report.results = [] := by rw [report]
  exact ⟨id, script, named, read, ((Sound.ofStart running isOpen phase fresh tallies).moves moves).bestEffort⟩

/-- A click fails before anything is asked of the page. The next command goes on, is answered during a pause, and that
    completes the replay. -/
theorem best_effort_after_failure : ∃ (p : Replayer) (v : World) (o : ReplayOptions) (r : Replayer) (run : Run)
    (c c' : Course), p.start v o none = (r, .ok run) ∧ Relation.ReflTransGen Move (.ofStart r run) c ∧
      Relation.ReflTransGen Move (.ofStart r run) c' ∧ c.replayer.status.state = .paused ∧
      c.run.report.results.map (·.success) = [false] ∧ c.run.attempted.map (·.line) = [1, 2] ∧
      c'.replayer.status.state = .completed ∧ c'.run.report.results.map (·.success) = [false, true] ∧
      c'.run.report.commands.map (·.line) = [1, 2] ∧ c'.run.report.success = false := by
  obtain ⟨text, plain, commands, summary, told, site⟩ : ∃ text : String,
      Text.unifyNewlines text.toList = text.toList ∧
      Script.commands text =
        [⟨.click "#a", 1, "await page.click('#a');"⟩, ⟨.fill "#b" "c", 2, "await page.fill('#b', 'c');"⟩] ∧
      ∃ summary, Script.summary "x" text "" = .ok summary ∧ Host.ofUrl (summary.targetSite.getD "") = .ok none :=
    ⟨"await page.click('#a');\nawait page.fill('#b', 'c');", by decide +kernel, by decide +kernel, _, rfl, rfl⟩
  let files : Files := ⟨[(["recordings"], .directory), (["recordings", "x.ts"], .file (Utf8.encode text.toList))]⟩
  let v : World := { files }
  let p : Replayer := { store := ⟨⟨["recordings"]⟩, ".ts", none⟩,
                        wait := .own { before := fun _ line => if line = 1 then .fail "no" else .done,
                                       after := fun _ _ => .done } }
  let o : ReplayOptions := { recordingId := .str "x" }
  have named : ScriptStore.path ⟨⟨["recordings"]⟩, ".ts", none⟩ "x" = .ok ⟨["recordings", "x.ts"]⟩ := by rfl
  have read : p.store.read v.files "x" = .ok text := ScriptStore.read_written named rfl plain
  obtain ⟨r, run, started, isOpen, goesOn, skips, speed, phase, remaining, wait, domain, running⟩ :=
    start_runs (r := p) (w := v) (o := o) rfl rfl read told none site rfl
  obtain ⟨_, _, _, _, _, _, _, report⟩ := start_running started running
  rw [commands] at remaining
  have begun {r : Replayer} {run : Run} (_ : p.start v o none = (r, .ok run)) :
      Relation.ReflTransGen Move (ofStart r run) (ofStart r run) := .refl
  have scripted {script id : String} (named : ScriptStore.idOfValue (.str "x") = .ok id)
      (found : p.store.read v.files id = .ok script) : script = text := by
    cases named
    exact Except.ok.inj (found.symm.trans read)
  obtain ⟨c, c', paused, completed, results, phase, going, unstopped, state, state', results'⟩ : ∃ c c',
      Relation.ReflTransGen Move (ofStart r run) c ∧ Relation.ReflTransGen Move (ofStart r run) c' ∧
        c.run.report.results.map (·.success) = [false] ∧ c.run.phase = .acting ∧ c.cancelled = false ∧
        c.replayer.stopRequested = false ∧ c.replayer.status.state = .paused ∧
        c'.replayer.status.state = .completed ∧ c'.run.report.results.map (·.success) = [false, true] := by
    obtain ⟨report, remaining, wait, domain, restores, phase, clock⟩ := run
    obtain ⟨store, session, strategy, pauses, status, ⟨isOpen, openings⟩, stops, speed, observer⟩ := r
    obtain ⟨state, id, line, total, message, error⟩ := status
    simp only at isOpen goesOn skips speed phase remaining wait domain running report
    subst isOpen goesOn skips phase remaining wait domain running report
    have reached := (begun started).tail (@Move.reply _ .tell rfl rfl v (.ok .nothing) ⟨_, rfl⟩)
    have paused := reached.tail (.pause rfl)
    have answered := paused.tail
      (@Move.reply _ (.page (.run (.fill "#b" "c"))) rfl rfl v (.ok (.value (.bool true))) trivial)
    have completed := answered.tail (@Move.reply _ .tell rfl rfl v (.ok .nothing) ⟨_, rfl⟩)
    exact ⟨_, _, paused, completed, rfl, rfl, rfl, rfl, rfl, rfl, rfl⟩
  obtain ⟨_, _, named, found, half⟩ := best_effort started running paused
  obtain ⟨_, _, named', found', whole⟩ := best_effort started running completed
  rw [scripted named found, commands] at half
  rw [scripted named' found', commands] at whole
  have executed : c.run.report.executed = 1 := by simpa [Report.executed] using congrArg List.length results
  have attempted : c.run.attempted.map (·.line) = [1, 2] := by
    have left : c.run.report.executed < 2 := by omega
    obtain ⟨opening, _⟩ | next | ⟨blocked, _⟩ := half.goesOn left going unstopped
    · rw [phase] at opening
      cases opening
    · rw [next, executed]
      rfl
    · cases phase.symm.trans blocked
  obtain ⟨all, _, _, success⟩ := whole.completed state'
  refine ⟨p, v, o, r, run, c, c', started, paused, completed, state, results, attempted, state', results', ?_, ?_⟩
  · rw [all]
    rfl
  · refine Bool.eq_false_iff.mpr fun succeeded => ?_
    have failed : false ∈ c'.run.report.results.map (·.success) := by
      rw [results']
      exact List.mem_cons_self
    obtain ⟨result, member, bad⟩ := List.mem_map.mp failed
    cases bad.symm.trans (success.mp succeeded result member)

end Course

end BrowserFlow.Replayer
