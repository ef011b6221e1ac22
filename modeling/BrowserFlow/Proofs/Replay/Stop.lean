import BrowserFlow.Proofs.Replay.Pause

/-!
Stops of a replay. They are heeded before the next command, so that the command in flight may come to its end. With
commands left the replay is then reported as stopped; with none left it has been completed all the same.
-/

namespace BrowserFlow.Replayer.Course

open Run (begun_quiet begun_inFlight commands_mono commands_prefix_begun)

/-- What the course `d` keeps of a stop in the course `c` before it. -/
structure Halted (c d : Course) : Prop where
  requested : d.replayer.stopRequested = true
  results : c.run.report.results <+: d.run.report.results
  begun : d.run.begun <+: c.run.begun

variable {cs : List Script.Command} {wait : WaitStrategy} {speed : Value} {c d d' : Course} {r : Replayer}

theorem stop_halted (active : c.replayer.isActive = true) : Halted c { c with replayer := c.replayer.stop } :=
  ⟨congrArg stopRequested (stop_active active), List.prefix_refl _, List.prefix_refl _⟩

/-- A move of a course steers its replay or is a step of it. -/
theorem Move.steers_or_steps (move : Move c d) :
    (∃ r opening, Steers c.replayer r ∧ d = { c with replayer := r, opening }) ∨
    ∃ request w reply, c.demand = .ask request ∧
      d = { c with cancelled := c.cancelled || Run.isCancelled reply }.after (c.run.step c.replayer w reply) := by
  cases move with
  | pause passes => exact .inl ⟨_, _, pause_steers passes, rfl⟩
  | resume passes => exact .inl ⟨_, _, resume_steers passes, rfl⟩
  | opened => exact .inl ⟨_, _, openGate_steers _, rfl⟩
  | stop => exact .inl ⟨_, _, stop_steers _, rfl⟩
  | reply waits => exact .inr ⟨_, _, _, waits, rfl⟩

/-- Whatever calls follow, a stop stays requested, and no other command begins. -/
theorem Halted.move (halted : Halted c d) (move : Move d d') : Halted c d' := by
  obtain ⟨r, opening, steers, rfl⟩ | ⟨request, w, reply, _, rfl⟩ := move.steers_or_steps
  · exact ⟨steers.requested halted.requested, halted.results, halted.begun⟩
  · have halts := (Run.step_turn d.replayer d.run w reply).halts halted.requested
    exact ⟨halts.requested, halted.results.trans halts.results, halts.begun.trans halted.begun⟩

theorem Halted.moves (halted : Halted c d) (moves : Relation.ReflTransGen Move d d') : Halted c d' := by
  induction moves with
  | refl => exact halted
  | tail _ move ih => exact ih.move move

theorem Halted.finishes (halted : Halted c d) : ∃ results, d.run.report.results = c.run.report.results ++ results ∧
    results.map (·.command) <+: c.run.inFlight := by
  obtain ⟨results, more⟩ := halted.results
  refine ⟨results, more.symm, ?_⟩
  have begun : d.run.report.commands <+: c.run.begun := (commands_prefix_begun d.run).trans halted.begun
  rw [Report.commands, ← more, List.map_append] at begun
  exact (List.prefix_append_right_inj _).mp begun

theorem inFlight_length (run : Run) : run.inFlight.length ≤ 1 := by
  unfold Run.inFlight
  split
  · exact List.length_take_le _ _
  · exact Nat.zero_le 1

/-- Only for a command in flight anything is asked of the page. -/
theorem Sound.inFlight_of_work (sound : Sound cs wait speed c) {request : Request} (asks : c.demand = .ask request)
    (work : request.isWork = true) : c.run.inFlight ≠ [] := by
  have active : c.replayer.isActive = true := (asks ▸ sound.stage).isActive_of_work work
  obtain ⟨_, same, _, _, waits⟩ := sound.stage.replays active
  cases asks.symm.trans same
  have busy {command : Script.Command} {rest : List Script.Command} (busy : c.run.phase.isInFlight = true)
      (remaining : c.run.remaining = command :: rest) : c.run.inFlight ≠ [] := by
    simp [Run.inFlight, busy, remaining]
  cases waits with
  | announcing | restoring | blocked | handing | byHand => cases work
  | preparing phase remaining => exact busy (congrArg Phase.isInFlight phase) remaining
  | acting phase | settling phase =>
    obtain ⟨_, _, _, _, remaining, _⟩ := sound.accounts.effective (congrArg Phase.isEffective phase)
    exact busy (congrArg Phase.isInFlight phase) remaining

theorem Halted.inFlight (halted : Halted c d) (busy : d.run.inFlight ≠ []) :
    d.run.report.results = c.run.report.results ∧ d.run.inFlight = c.run.inFlight := by
  have begun := halted.begun
  have one := inFlight_length c.run
  have some := List.length_pos_iff.mpr busy
  have bound : (d.run.report.commands ++ d.run.inFlight).length ≤ (c.run.report.commands ++ c.run.inFlight).length :=
    begun.length_le
  simp only [List.length_append, Report.commands_length] at bound
  have results : c.run.report.results = d.run.report.results :=
    halted.results.eq_of_length_le (by simp only [Report.executed] at bound; omega)
  refine ⟨results.symm, ?_⟩
  rw [Run.begun, Run.begun, Report.commands, Report.commands, results] at begun
  exact ((List.prefix_append_right_inj _).mp begun).eq_of_length_le (by omega)

/-- After a stop in the course `c` only the command in flight there can go on to its end. -/
structure Discards (c d : Course) : Prop where
  begun : d.run.begun <+: c.run.begun
  /-- at most the command that was in flight gets a result -/
  finishes : ∃ results, d.run.report.results = c.run.report.results ++ results ∧
    results.map (·.command) <+: c.run.inFlight
  /-- and until it has one, all that is asked of the page is asked for it -/
  asks : ∀ request, d.demand = .ask request → request.isWork = true →
    d.run.inFlight = c.run.inFlight ∧ c.run.inFlight ≠ [] ∧ d.run.report.results = c.run.report.results

theorem Halted.discards (halted : Halted c d) (sound : Sound cs wait speed d) : Discards c d := by
  refine ⟨halted.begun, halted.finishes, fun request asks work => ?_⟩
  have busy := sound.inFlight_of_work asks work
  obtain ⟨results, same⟩ := halted.inFlight busy
  exact ⟨same, same ▸ busy, results⟩

/-- The replay has ended before its last command. -/
structure IsCutShort (c : Course) (result : Except Fault Report) : Prop where
  reported : ∀ report, result = .ok report → report = c.run.report
  stopped : c.run.report.stopped = true
  unsuccessful : c.run.report.success = false
  idle : c.replayer.status.state = .idle
  unsaved : c.saves = 0

/-- A replay that ends with commands left has been cut short, and its session is not saved. -/
theorem Sound.cutShort (sound : Sound cs wait speed c) {result : Except Fault Report} (ends : c.demand = .finish result)
    (left : c.run.report.executed < cs.length) : c.IsCutShort result := by
  have stage := sound.stage
  rw [ends] at stage
  obtain ⟨idle, stopped⟩ := stage.ended_short left
  refine ⟨fun report same => ?_, stopped, by simp [Report.success, stopped], idle, ?_⟩
  · subst same
    exact stage.returned.1
  · rcases sound.saves with none | ⟨_, saving⟩
    · exact none
    · cases idle.symm.trans (sound.stage.completed_of_saving saving)

theorem Sound.begun_ofScript (sound : Sound cs wait speed c) : c.run.begun <+: cs := by
  obtain ⟨_, left, tallies, attempted⟩ := sound.stage.tallies
  exact tallies.whole ▸ (Run.begun_prefix_attempted c.run).trans attempted

/-- All commands have been begun, and unless it is cancelled the replay completes. -/
def Completes (cs : List Script.Command) (c : Course) : Prop :=
  c.cancelled = false → c.replayer.status.state = .completed ∨ c.replayer.isActive = true ∧ c.run.begun = cs

theorem Completes.move (completes : Completes cs c) (sound : Sound cs wait speed c) (move : Move c d) :
    Completes cs d := by
  obtain ⟨r, opening, steers, rfl⟩ | ⟨request, w, reply, waits, rfl⟩ := move.steers_or_steps
  · intro going
    obtain completed | ⟨active, begun⟩ := completes going
    · exact .inl (steers.stays completed rfl)
    · exact .inr ⟨steers.active.trans active, begun⟩
  · intro going
    obtain ⟨uncancelled, going⟩ := Bool.or_eq_false_iff.mp going
    have stage := sound.stage
    rw [waits] at stage
    have turn := Run.step_turn c.replayer c.run w reply
    obtain completed | ⟨active, begun⟩ := completes uncancelled
    · have ending := stage.ending (congrArg ReplayState.isActive completed)
      exact .inl ((congrArg (·.status.state) (turn.kept ending)).trans completed)
    · obtain ⟨_, _, _, tallies, asks⟩ := stage.replays active
      obtain completed | ⟨active, same⟩ := turn.completes asks.going going (tallies.whole ▸ begun) active
      · exact .inl completed
      · exact .inr ⟨active, same.trans begun⟩

theorem Completes.moves (completes : Completes cs c) (sound : Sound cs wait speed c)
    (moves : Relation.ReflTransGen Move c d) : Completes cs d := by
  induction moves with
  | refl => exact completes
  | tail moves move ih => exact ih.move (sound.moves moves) move

theorem Completes.returned (completes : Completes cs c) (sound : Sound cs wait speed c) {report : Report}
    (ends : c.demand = .finish (.ok report)) :
    report.stopped = false ∧ c.replayer.status.state = .completed ∧ report.executed = cs.length := by
  have stage := sound.stage
  rw [ends] at stage
  obtain ⟨rfl, uncancelled, _⟩ := stage.returned
  obtain completed | ⟨active, _⟩ := completes uncancelled
  · have tallies := stage.tallies_completed completed
    refine ⟨tallies.stopped, completed, ?_⟩
    rw [← Report.commands_length, ← tallies.whole, List.append_nil]
  · obtain ⟨_, asks, _⟩ := stage.replays active
    cases asks

/-- Steps that go on from a course that has been reached. -/
theorem goingOn (steps : Course → Course → Prop) (_ : Relation.ReflTransGen Move c d) :
    Relation.ReflTransGen steps d d := .refl

/-- Once a replay has been stopped no other command begins, whatever pauses and resumes follow. A replay that ends with
    commands left has been cut short. -/
theorem stop_discards {p : Replayer} {v : World} {o : ReplayOptions} {observer : Option Nat} {run : Run}
    (started : p.start v o observer = (r, .ok run)) (running : r.status.state = .running) :
    ∃ id script, ScriptStore.idOfValue o.recordingId = .ok id ∧ p.store.read v.files id = .ok script ∧
      ∀ c, Relation.ReflTransGen Move (.ofStart r run) c → c.run.begun <+: Script.commands script ∧
        (∀ result, c.demand = .finish result → c.run.report.executed < (Script.commands script).length →
          c.IsCutShort result) ∧
        (c.replayer.isActive = true → ∀ d, Relation.ReflTransGen Move { c with replayer := c.replayer.stop } d →
          Discards c d) := by
  obtain ⟨id, script, named, read, sound⟩ := Sound.ofRunning started running
  refine ⟨id, script, named, read, ?_⟩
  intro c moves
  have sound' := sound.moves moves
  refine ⟨sound'.begun_ofScript, ?_, ?_⟩
  · intro result ends left
    exact sound'.cutShort ends left
  · intro active d later
    have stopped := moves.tail (.stop c)
    exact ((stop_halted active).moves later).discards (sound.moves (stopped.trans later))

/-- Of two clicks only the one in flight comes to its end after a stop, also when the replay is paused and resumed. -/
theorem stop_discards_clicks : ∃ (p : Replayer) (v : World) (o : ReplayOptions) (r : Replayer) (run : Run)
    (c d : Course) (report : Report), p.start v o none = (r, .ok run) ∧
      Relation.ReflTransGen Move (.ofStart r run) c ∧ c.replayer.isActive = true ∧
      Relation.ReflTransGen Move { c with replayer := c.replayer.stop } d ∧ d.demand = .finish (.ok report) ∧
      Discards c d ∧ d.IsCutShort (.ok report) := by
  obtain ⟨text, plain, commands, summary, told, site⟩ := exists_clicks
  have started := start_storing plain { after := fun _ _ => .done } false commands told site
  obtain ⟨id, script, named, read, stops⟩ := stop_discards started rfl
  cases script_storing plain _ _ named read
  let v : World := { files := storing text }
  have clicking := (starts Move started).tail (@Move.reply _ .tell rfl rfl v (.ok .nothing) ⟨_, rfl⟩)
  have stopped := clicking.tail (.stop _)
  have paused := (goingOn Move stopped).tail (.pause rfl)
  have held := paused.tail (@Move.reply _ (.page (.run (.click "#a"))) rfl rfl v (.ok (.value (.bool true))) trivial)
  have resumed := held.tail (.resume rfl)
  have opened := resumed.tail (.opened rfl)
  have letOn := opened.tail (@Move.reply _ (.gate 0) rfl rfl v (.ok .nothing) (.inr ⟨rfl, _, rfl⟩))
  have ended := letOn.tail (@Move.reply _ .tell rfl rfl v (.ok .nothing) ⟨_, rfl⟩)
  obtain ⟨_, _, discards⟩ := stops _ clicking
  obtain ⟨_, cutShort, _⟩ := stops _ (stopped.trans ended)
  have left : 1 < (Script.commands text).length := commands ▸ Nat.lt_succ_self 1
  exact ⟨_, v, _, _, _, _, _, _, started, clicking, rfl, ended, rfl, discards rfl _ ended, cutShort _ rfl left⟩

/-- A stop that comes before all commands have been begun cuts the replay short. Once the last one is in flight, and it
    is no step by hand, there is nothing left to cut: the replay completes. -/
theorem stopped_reported {p : Replayer} {v : World} {o : ReplayOptions} {observer : Option Nat} {run : Run}
    (started : p.start v o observer = (r, .ok run)) (running : r.status.state = .running) :
    ∃ id script, ScriptStore.idOfValue o.recordingId = .ok id ∧ p.store.read v.files id = .ok script ∧
      ∀ c d result, Relation.ReflTransGen Move (.ofStart r run) c → c.replayer.isActive = true →
        Relation.ReflTransGen Move { c with replayer := c.replayer.stop } d → d.demand = .finish result →
          (c.run.begun ≠ Script.commands script → d.IsCutShort result) ∧
          (c.run.begun = Script.commands script →
            (∀ command ∈ c.run.inFlight, command.statement.isExecutable = true) →
            ∀ report, result = .ok report → report.stopped = false ∧ d.replayer.status.state = .completed ∧
              report.executed = (Script.commands script).length) := by
  obtain ⟨id, script, named, read, sound⟩ := Sound.ofRunning started running
  refine ⟨id, script, named, read, ?_⟩
  intro c d result moves active later ends
  have stopped := moves.tail (.stop c)
  constructor
  · intro left
    have halted := (stop_halted active).moves later
    have before : c.run.begun.length < (Script.commands script).length := by
      by_contra all
      exact left ((sound.moves moves).begun_ofScript.eq_of_length_le (Nat.not_lt.mp all))
    have results : d.run.report.executed ≤ c.run.begun.length := by
      rw [← Report.commands_length]
      exact ((commands_prefix_begun d.run).trans halted.begun).length_le
    exact (sound.moves (stopped.trans later)).cutShort ends (Nat.lt_of_le_of_lt results before)
  · rintro begun _ report rfl
    have completes : Completes (Script.commands script) { c with replayer := c.replayer.stop } :=
      fun _ => .inr ⟨(stop_steers _).active.trans active, begun⟩
    exact (completes.moves (sound.moves stopped) later).returned (sound.moves (stopped.trans later)) ends

/-- Of two clicks the second one is not attempted if the stop comes during the first. -/
theorem stopped_reported_clicks : ∃ (p : Replayer) (v : World) (o : ReplayOptions) (r : Replayer) (run : Run)
    (c c' d d' : Course) (report report' : Report), p.start v o none = (r, .ok run) ∧
      Relation.ReflTransGen Move (.ofStart r run) c ∧ c.replayer.isActive = true ∧
      Relation.ReflTransGen Move { c with replayer := c.replayer.stop } d ∧ d.demand = .finish (.ok report) ∧
      d.IsCutShort (.ok report) ∧
      Relation.ReflTransGen Move (.ofStart r run) c' ∧ c'.replayer.isActive = true ∧
      Relation.ReflTransGen Move { c' with replayer := c'.replayer.stop } d' ∧ d'.demand = .finish (.ok report') ∧
      report'.stopped = false ∧ d'.replayer.status.state = .completed := by
  obtain ⟨text, plain, commands, summary, told, site⟩ := exists_clicks
  have started := start_storing plain { after := fun _ _ => .done } false commands told site
  obtain ⟨id, script, named, read, reports⟩ := stopped_reported started rfl
  cases script_storing plain _ _ named read
  let v : World := { files := storing text }
  have first := (starts Move started).tail (@Move.reply _ .tell rfl rfl v (.ok .nothing) ⟨_, rfl⟩)
  have stopping := (goingOn Move (first.tail (.stop _))).tail
    (@Move.reply _ (.page (.run (.click "#a"))) rfl rfl v (.ok (.value (.bool true))) trivial)
  have stopped := stopping.tail (@Move.reply _ .tell rfl rfl v (.ok .nothing) ⟨_, rfl⟩)
  have second := first.tail (@Move.reply _ (.page (.run (.click "#a"))) rfl rfl v (.ok (.value (.bool true))) trivial)
  have completing := (goingOn Move (second.tail (.stop _))).tail
    (@Move.reply _ (.page (.run (.click "#b"))) rfl rfl v (.ok (.value (.bool true))) trivial)
  have completed := completing.tail (@Move.reply _ .tell rfl rfl v (.ok .nothing) ⟨_, rfl⟩)
  have one : ∀ begun : List Script.Command, begun.length = 1 → begun ≠ Script.commands text := by
    rintro _ one rfl
    rw [commands] at one
    cases one
  obtain ⟨cutShort, _⟩ := reports _ _ _ first rfl stopped rfl
  obtain ⟨_, completes⟩ := reports _ _ _ second rfl completed rfl
  obtain ⟨unstopped, state, _⟩ := completes commands.symm (List.forall_mem_singleton.mpr rfl) _ rfl
  exact ⟨_, v, _, _, _, _, _, _, _, _, _, started, first, rfl, stopped, rfl, cutShort (one _ rfl), second, rfl, completed,
    rfl, unstopped, state⟩

/-- A stop during the click that comes last is too late to be reported, and the session is saved. -/
theorem not_stopped_at_last : ∃ (p : Replayer) (v : World) (o : ReplayOptions) (r : Replayer) (run : Run)
    (c d : Course) (report : Report), p.start v o none = (r, .ok run) ∧
      Relation.ReflTransGen Move (.ofStart r run) c ∧ c.replayer.isActive = true ∧
      c.run.inFlight.map (·.statement) = [.click "#a"] ∧
      Relation.ReflTransGen Move { c with replayer := c.replayer.stop } d ∧ d.demand = .finish (.ok report) ∧
      report.stopped = false ∧ report.success = true ∧ d.replayer.status.state = .completed ∧ d.saves = 1 := by
  obtain ⟨text, plain, commands, summary, told, site⟩ := exists_visit
  have started := start_storing plain { after := fun _ _ => .done } true commands told site
  let v : World := { files := storing text }
  have loading := (starts Move started).tail (@Move.reply _ .tell rfl rfl v (.ok .nothing) ⟨_, rfl⟩)
  have clicking := loading.tail (@Move.reply _ (.page (.load "https://e.com/")) rfl rfl v (.ok .nothing) trivial)
  have completing := (goingOn Move (clicking.tail (.stop _))).tail
    (@Move.reply _ (.page (.run (.click "#a"))) rfl rfl v (.ok (.value (.bool true))) trivial)
  have saving := completing.tail (@Move.reply _ .tell rfl rfl v (.ok .nothing) ⟨_, rfl⟩)
  have saved := saving.tail (@Move.reply _ (.saveSession "e.com") rfl rfl v (.ok .nothing) trivial)
  exact ⟨_, v, _, _, _, _, _, _, started, clicking, rfl, rfl, saved, rfl, rfl, rfl, rfl, rfl⟩

end BrowserFlow.Replayer.Course
