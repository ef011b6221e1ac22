import BrowserFlow.Proofs.Replay.Stage

/-!
The commands that a replay has begun: those with a result and the one in flight. A step goes on with the command in
flight, or it comes to a checkpoint, the only place where another one can begin.
-/

namespace BrowserFlow

/-- A command has been begun, and its end has not come. -/
def Phase.isInFlight : Phase → Bool
  | .handing | .byHand | .preparing _ | .acting | .settling _ => true
  | _ => false

/-- Nothing is left but to end the replay. -/
def Phase.isEnding : Phase → Bool
  | .closing _ | .completing | .saving => true
  | _ => false

namespace Run

def inFlight (run : Run) : List Script.Command := if run.phase.isInFlight then run.remaining.take 1 else []

/-- The commands that have a result, and the one in flight. -/
def begun (run : Run) : List Script.Command := run.report.commands ++ run.inFlight

/-- The replayer is active just if the replay has not come to its end. -/
def Agrees (t : Transition) : Prop := t.1.isActive = !t.2.1.phase.isEnding

/-- What a replay comes to at a checkpoint, where it has been let on already or finds the gate as it is. -/
inductive Checks (r : Replayer) (run : Run) (w : World) (passed : Bool) (left : List Script.Command) : Transition → Prop
  | through (none : left = []) : Checks r run w passed left (conclude r { run with remaining := left } w false)
  | held (next : left ≠ []) (waits : passed = false) (closed : r.gate.isOpen = false) :
      Checks r run w passed left (ask r { run with remaining := left } .blocked (.gate r.gate.openings))
  | stopped (next : left ≠ []) (passes : passed = true ∨ r.gate.isOpen = true) (requested : r.stopRequested = true) :
      Checks r run w passed left (conclude r { run with remaining := left } w true)
  | begins {t : Transition} {c : Script.Command} {rest : List Script.Command} (next : left = c :: rest)
      (passes : passed = true ∨ r.gate.isOpen = true) (unstopped : r.stopRequested = false)
      (begun : run.report.commands ++ [c] <+: t.2.1.begun) (agrees : r.isActive = true → Agrees t) :
      Checks r run w passed left t

/-- What one step of a replay can do. -/
inductive Turn (r : Replayer) (run : Run) (w : World) (reply : Reply) : Transition → Prop
  | goesOn {phase : Phase} {request : Request} (before : run.phase.isInFlight = true)
      (after : phase.isInFlight = true) : Turn r run w reply (ask r run phase request)
  | checks {t : Transition} {run' : Run} {passed : Bool} {left : List Script.Command}
      (going : run.phase.isEnding = false) (begun : run'.report.commands = run.begun)
      (results : run.report.results <+: run'.report.results)
      (whole : run'.report.commands ++ left = run.report.commands ++ run.remaining)
      (waited : passed = true ↔ run.phase = .blocked) (uncancelled : passed = true → isCancelled reply = false)
      (checks : Checks r run' w passed left t) : Turn r run w reply t
  | restores {domain : String} (phase : run.phase = .announcing) :
      Turn r run w reply (ask r run .restoring (.restoreSession domain))
  | cancelled (going : run.phase.isEnding = false) (cancels : isCancelled reply = true) :
      Turn r run w reply (cancel r run w)
  | ends {t : Transition} (ending : run.phase.isEnding = true) (replayer : t.1 = r)
      (report : t.2.1.report = run.report) (ended : t.2.1.phase.isEnding = true) : Turn r run w reply t

variable {r : Replayer} {run : Run} {w : World} {c : Script.Command} {rest : List Script.Command}

theorem begun_quiet (quiet : run.phase.isInFlight = false) : run.begun = run.report.commands := by
  simp [begun, inFlight, quiet]

theorem begun_inFlight (busy : run.phase.isInFlight = true) :
    run.begun = run.report.commands ++ run.remaining.take 1 := by
  simp [begun, inFlight, busy]

theorem commands_prefix_begun (run : Run) : run.report.commands <+: run.begun := List.prefix_append _ _

theorem commands_mono {report report' : Report} (results : report.results <+: report'.results) :
    report.commands <+: report'.commands := results.map _

theorem Begins.inFlight {wait : WaitStrategy} {speed : Value} {phase : Phase} {request : Request}
    (begins : Begins wait speed c phase request) : phase.isInFlight = true := by
  cases begins <;> rfl

theorem begun_conclude (stopped : Bool) : (conclude r run w stopped).2.1.begun = run.report.commands := by
  cases stopped <;> exact List.append_nil _

theorem not_ending_of_inFlight {phase : Phase} (busy : phase.isInFlight = true) : phase.isEnding = false := by
  cases phase <;> first | rfl | cases busy

theorem conclude_agrees (stopped : Bool) : Agrees (conclude r run w stopped) := by
  cases stopped <;> rfl

theorem proceed_agrees {passed : Bool} {left : List Script.Command} (active : r.isActive = true) :
    Agrees (proceed r run w passed left) := by
  induction left generalizing r run passed with
  | nil => exact conclude_agrees false
  | cons c rest ih =>
    have active' : Replayer.isActive { r with status := { r.status with currentLine := some c.line } } = true := active
    rw [proceed]
    split
    · exact active
    · split
      · exact conclude_agrees true
      · dsimp only
        split
        · split
          · rfl
          · exact ih active'
        · split
          · rename_i begun
            have busy := not_ending_of_inFlight (beginCommand_ok begun).inFlight
            rw [Agrees, ask, busy]
            exact active
          · exact ih active'

theorem proceed_checks (passed : Bool) (left : List Script.Command) :
    Checks r run w passed left (proceed r run w passed left) := by
  cases left with
  | nil => exact .through rfl
  | cons c rest =>
    -- a command that has its result at once has been begun too, whatever comes after it
    have noted (r' : Replayer) (run' : Run) (result : CommandResult) (same : result.command = c)
        (added : run'.report = run.report.add result) :
        run.report.commands ++ [c] <+: (proceed r' run' w false rest).2.1.begun := by
      have later := (commands_mono (results_proceed r' run' w false rest)).trans (commands_prefix_begun _)
      rw [added] at later
      simpa [Report.commands, Report.add, same] using later
    rw [proceed]
    split
    · rename_i held
      obtain ⟨waits, closed⟩ : passed = false ∧ r.gate.isOpen = false := by simpa using held
      exact .held (List.cons_ne_nil _ _) waits closed
    · rename_i held
      have passes : passed = true ∨ r.gate.isOpen = true := by
        by_contra neither
        exact held (by simpa using neither)
      split
      · rename_i requested
        exact .stopped (List.cons_ne_nil _ _) passes requested
      · rename_i unstopped
        have agrees := @proceed_agrees r run w passed (c :: rest)
        rw [proceed, if_neg held, if_neg unstopped] at agrees
        refine .begins rfl passes (Bool.eq_false_iff.mpr unstopped) ?_ agrees
        dsimp only
        split
        · split
          · exact List.prefix_refl _
          · exact noted _ (run.noteByHand c) _ rfl rfl
        · split
          · rename_i begun
            rw [begun_inFlight (beginCommand_ok begun).inFlight]
            exact List.prefix_refl _
          · rename_i fault _
            exact noted _ ({ run with commandStart := w.clock }.note w c (some fault.text)) _ rfl rfl

theorem prepare_inFlight {step : Except Fault (WaitStep Float)} {phase : Phase} {request : Request}
    (next : prepare r c step = .ok (some (phase, request))) : phase.isInFlight = true := by
  obtain ⟨_, _, _, same⟩ | ⟨_, _, same, begun⟩ := prepare_cases next
  · cases same
    rfl
  · cases same
    exact (@beginEffect_ok r.wait _ _ _ _ begun).inFlight

theorem settle_inFlight {step : Except Fault (WaitStep Float)} {phase : Phase} {request : Request}
    (next : settle step = .ok (some (phase, request))) : phase.isInFlight = true := by
  obtain ⟨_, _, rfl, _⟩ := settle_ok next
  rfl

section Turn

variable {reply : Reply}

theorem not_inFlight_of_ending {phase : Phase} (ending : phase.isEnding = true) : phase.isInFlight = false := by
  cases phase <;> first | rfl | cases ending

/-- Without a command in flight all that is left is still to come. -/
theorem turn_checkpoint (going : run.phase.isEnding = false) (quiet : run.begun = run.report.commands) {passed : Bool}
    (waited : passed = true ↔ run.phase = .blocked) (uncancelled : passed = true → isCancelled reply = false) :
    Turn r run w reply (proceed r run w passed run.remaining) :=
  .checks going quiet.symm (List.prefix_refl _) rfl waited uncancelled (proceed_checks passed run.remaining)

theorem not_blocked (busy : run.phase.isInFlight = true) : false = true ↔ run.phase = .blocked := by
  refine ⟨by rintro ⟨⟩, fun phase => ?_⟩
  rw [phase] at busy
  exact busy

section Busy

variable (busy : run.phase.isInFlight = true)

include busy

theorem turn_over (remaining : run.remaining = []) : Turn r run w reply (conclude r run w false) := by
  have through : Checks r run w false run.remaining (conclude r { run with remaining := run.remaining } w false) :=
    .through remaining
  have none : run.report.commands = run.begun := by simp [begun, inFlight, remaining]
  exact .checks (not_ending_of_inFlight busy) none (List.prefix_refl _) rfl (not_blocked busy) (by rintro ⟨⟩) through

/-- The command in flight has got its result. -/
theorem turn_noted (remaining : run.remaining = c :: rest) {run' : Run}
    {result : CommandResult} (same : result.command = c) (added : run'.report = run.report.add result) :
    Turn r run w reply (proceed r run' w false rest) := by
  have begun : run'.report.commands = run.begun := by
    simp [begun_inFlight busy, remaining, added, same, Report.commands, Report.add]
  have whole : run'.report.commands ++ rest = run.report.commands ++ run.remaining := by
    simp [begun, begun_inFlight busy, remaining]
  have results : run.report.results <+: run'.report.results := added ▸ List.prefix_append _ _
  exact .checks (not_ending_of_inFlight busy) begun results whole (not_blocked busy) (by rintro ⟨⟩)
    (proceed_checks false rest)

theorem turn_endCommand (error : Option String) : Turn r run w reply (endCommand r run w error) := by
  unfold endCommand
  split
  · rename_i remaining
    exact turn_noted busy remaining rfl rfl
  · rename_i remaining
    exact turn_over busy remaining

theorem turn_goOn {next : Except Fault (Option (Phase × Request))}
    (stays : ∀ phase request, next = .ok (some (phase, request)) → phase.isInFlight = true) :
    Turn r run w reply (goOn r run w next) := by
  unfold goOn
  split
  · exact .goesOn busy (stays _ _ rfl)
  · exact turn_endCommand busy none
  · exact turn_endCommand busy _

theorem turn_awaitHand : Turn r run w reply (awaitHand r run w) := by
  unfold awaitHand
  split
  · split
    · rename_i remaining
      exact turn_noted busy remaining rfl rfl
    · rename_i remaining
      exact turn_over busy remaining
  · exact .goesOn busy rfl

end Busy

theorem turn_begin (phase : run.phase = .announcing) : Turn r run w reply (begin r run w) := by
  have checkpoint : Turn r run w reply (proceed r run w false run.remaining) :=
    turn_checkpoint (congrArg Phase.isEnding phase) (begun_quiet (congrArg Phase.isInFlight phase)) (by simp [phase])
      (by rintro ⟨⟩)
  unfold begin
  split
  · split
    · exact .restores phase
    · exact checkpoint
  · exact checkpoint

theorem turn_conserve (ending : run.phase.isEnding = true) : Turn r run w reply (conserve r run) := by
  unfold conserve
  split
  · split
    · exact .ends ending rfl rfl rfl
    · exact .ends ending rfl rfl ending
  · exact .ends ending rfl rfl ending

theorem step_turn (r : Replayer) (run : Run) (w : World) (reply : Reply) : Turn r run w reply (step r run w reply) := by
  unfold step
  split
  · exact turn_begin ‹_›
  · rename_i phase
    exact turn_awaitHand (congrArg Phase.isInFlight phase)
  · rename_i phase
    exact .ends (congrArg Phase.isEnding phase) rfl rfl (congrArg Phase.isEnding phase)
  · rename_i phase
    exact .ends (congrArg Phase.isEnding phase) rfl rfl (congrArg Phase.isEnding phase)
  · rename_i phase
    exact turn_conserve (congrArg Phase.isEnding phase)
  · rename_i phase
    split
    · exact .ends (congrArg Phase.isEnding phase) rfl rfl (congrArg Phase.isEnding phase)
    · exact .ends (congrArg Phase.isEnding phase) rfl rfl (congrArg Phase.isEnding phase)
  · have going : run.phase.isEnding = false := by
      cases phase : run.phase with
      | closing fault => cases fault <;> simp_all
      | completing | saving => simp_all
      | _ => rfl
    split
    · exact .cancelled going ‹_›
    · rename_i uncancelled
      split
      · rename_i phase
        refine turn_checkpoint going (begun_quiet (congrArg Phase.isInFlight phase)) (by simp [phase]) fun _ => ?_
        exact Bool.eq_false_iff.mpr uncancelled
      · rename_i phase remaining
        exact turn_noted (congrArg Phase.isInFlight phase) remaining rfl rfl
      · rename_i phase remaining
        exact turn_goOn (congrArg Phase.isInFlight phase) fun _ _ next => prepare_inFlight next
      · rename_i phase remaining
        refine turn_goOn (congrArg Phase.isInFlight phase) fun _ _ next => ?_
        obtain ⟨_, _, next⟩ := bind_ok next
        obtain ⟨_, _, next⟩ := bind_ok next
        exact settle_inFlight next
      · rename_i phase
        exact turn_goOn (congrArg Phase.isInFlight phase) fun _ _ next => settle_inFlight next
      · -- the session has been restored, or there is no command that could be in flight
        rename_i others _ _ _ _
        refine turn_checkpoint going ?_ (by simpa using others) (by rintro ⟨⟩)
        cases remaining : run.remaining with
        | nil => simp [begun, inFlight, remaining]
        | cons c rest =>
          refine begun_quiet ?_
          cases phase : run.phase <;> simp_all [Phase.isInFlight]

theorem begun_keeps {run' : Run} (quiet : run'.phase.isInFlight = false)
    (known : run'.report.commands <+: run.begun) : run'.begun <+: run.begun := by
  rw [begun_quiet quiet]
  exact known

theorem begun_goesOn {phase : Phase} (before : run.phase.isInFlight = true) (after : phase.isInFlight = true) :
    Run.begun { run with phase } = run.begun := by
  rw [begun_inFlight before, begun_inFlight after]

/-- A command begins only at an open gate, or where the replay has waited and been let on. -/
theorem Turn.begins {t : Transition} (turn : Turn r run w reply t) : t.2.1.begun <+: run.begun ∨
    run.phase.isEnding = false ∧ r.stopRequested = false ∧
      (r.gate.isOpen = true ∨ run.phase = .blocked ∧ isCancelled reply = false) := by
  cases turn with
  | goesOn before after =>
    left
    rw [ask, begun_goesOn before after]
  | @checks _ run' _ _ going begun results whole waited uncancelled checks =>
    have known : run'.report.commands <+: run.begun := begun ▸ List.prefix_refl _
    cases checks with
    | through => exact .inl ((begun_conclude false).symm ▸ known)
    | held => exact .inl (begun_keeps rfl known)
    | stopped => exact .inl ((begun_conclude true).symm ▸ known)
    | begins next passes unstopped =>
      obtain passed | isOpen := passes
      · exact .inr ⟨going, unstopped, .inr ⟨waited.mp passed, uncancelled passed⟩⟩
      · exact .inr ⟨going, unstopped, .inl isOpen⟩
  | restores | cancelled => exact .inl (begun_keeps rfl (commands_prefix_begun run))
  | ends ending replayer report ended =>
    refine .inl (begun_keeps (not_inFlight_of_ending ended) ?_)
    rw [report]
    exact commands_prefix_begun run

theorem step_blocked (phase : run.phase = .blocked) (going : isCancelled reply = false) :
    step r run w reply = proceed r run w true run.remaining := by
  simp [step, phase, going]

/-- A replay that has been let on begins its next command. -/
theorem begins_of_blocked (phase : run.phase = .blocked) (going : isCancelled reply = false)
    (unstopped : r.stopRequested = false) (left : run.remaining ≠ []) :
    run.begun.length < (step r run w reply).2.1.begun.length := by
  rw [step_blocked phase going, begun_quiet (congrArg Phase.isInFlight phase)]
  generalize outcome : proceed r run w true run.remaining = t
  have checks : Checks r run w true run.remaining t := outcome ▸ proceed_checks true run.remaining
  cases checks with
  | through none => exact absurd none left
  | held next waits => cases waits
  | stopped next passes requested => cases unstopped.symm.trans requested
  | begins next passes unstopped begun => exact Nat.lt_of_lt_of_le (by simp) begun.length_le

/-- What a step does to a replay that has been asked to stop. -/
structure Halts (r : Replayer) (run : Run) (t : Transition) : Prop where
  requested : t.1.stopRequested = true
  gate : t.1.gate = r.gate
  results : run.report.results <+: t.2.1.report.results
  begun : t.2.1.begun <+: run.begun

theorem Turn.halts {t : Transition} (turn : Turn r run w reply t) (requested : r.stopRequested = true) :
    Halts r run t := by
  have begun : t.2.1.begun <+: run.begun := by
    obtain known | ⟨_, unstopped, _⟩ := turn.begins
    · exact known
    · cases unstopped.symm.trans requested
  cases turn with
  | goesOn | restores | cancelled => exact ⟨requested, rfl, List.prefix_refl _, begun⟩
  | checks _ _ results _ _ _ checks =>
    cases checks with
    | through => exact ⟨requested, rfl, results, begun⟩
    | held => exact ⟨requested, rfl, results, begun⟩
    | stopped => exact ⟨requested, rfl, results, begun⟩
    | begins _ _ unstopped => cases unstopped.symm.trans requested
  | ends _ replayer report => exact ⟨replayer ▸ requested, replayer ▸ rfl, report ▸ List.prefix_refl _, begun⟩

/-- Past its checkpoint nothing is left to a replay that has been asked to stop. Before it, the command in flight goes
    on, or the session is restored. -/
theorem Turn.leaves {t : Transition} (turn : Turn r run w reply t) (requested : r.stopRequested = true)
    (passes : r.gate.isOpen = true ∨ run.phase = .blocked) (going : run.phase.isEnding = false)
    (active : t.1.isActive = true) :
    (run.phase.isInFlight = true ∧ t.2.1.phase.isInFlight = true ∧ t.2.1 = { run with phase := t.2.1.phase }) ∨
      run.phase = .announcing ∧ t.2.1.phase = .restoring := by
  cases turn with
  | goesOn before after => exact .inl ⟨before, after, rfl⟩
  | checks going begun results whole waited uncancelled checks =>
    cases checks with
    | through | stopped => cases active
    | held next waits closed =>
      obtain isOpen | blocked := passes
      · cases closed.symm.trans isOpen
      · cases waits.symm.trans (waited.mpr blocked)
    | begins next passes unstopped => cases unstopped.symm.trans requested
  | restores phase => exact .inr ⟨phase, rfl⟩
  | cancelled => cases active
  | ends ending => cases going.symm.trans ending

/-- Where the gate is closed a replay goes on to its next checkpoint at most, unless it completes. -/
theorem Turn.held {t : Transition} (turn : Turn r run w reply t) (closed : r.gate.isOpen = false)
    (uncancelled : isCancelled reply = false) (unpassed : run.phase ≠ .blocked) (active : r.isActive = true) :
    t.1.isActive = true ∨ t.1.status.state = .completed := by
  have stays {passed : Bool} (waited : passed = true ↔ run.phase = .blocked)
      (passes : passed = true ∨ r.gate.isOpen = true) : False := by
    obtain passed | isOpen := passes
    · exact unpassed (waited.mp passed)
    · cases closed.symm.trans isOpen
  cases turn with
  | goesOn | restores => exact .inl active
  | checks _ _ _ _ waited _ checks =>
    cases checks with
    | through => exact .inr rfl
    | held => exact .inl active
    | stopped _ passes | begins _ passes => exact (stays waited passes).elim
  | cancelled _ cancels => cases uncancelled.symm.trans cancels
  | ends _ replayer => exact .inl (replayer ▸ active)

theorem Turn.kept {t : Transition} (turn : Turn r run w reply t) (ending : run.phase.isEnding = true) : t.1 = r := by
  cases turn with
  | goesOn before => cases (not_ending_of_inFlight before).symm.trans ending
  | checks going | cancelled going => cases going.symm.trans ending
  | restores phase =>
    rw [phase] at ending
    cases ending
  | ends _ replayer => exact replayer

/-- Where all commands have been begun a replay completes when the last one has its result. -/
theorem Turn.completes {t : Transition} (turn : Turn r run w reply t) (going : run.phase.isEnding = false)
    (uncancelled : isCancelled reply = false) (all : run.begun = run.report.commands ++ run.remaining)
    (active : r.isActive = true) :
    t.1.status.state = .completed ∨ t.1.isActive = true ∧ t.2.1.begun = run.begun := by
  cases turn with
  | goesOn before after =>
    refine .inr ⟨active, ?_⟩
    rw [ask, begun_goesOn before after]
  | @checks _ _ _ left _ begun results whole waited _ checks =>
    have none : left = [] := by simpa [begun, all] using whole
    cases checks with
    | through => exact .inl rfl
    | held next | stopped next => exact absurd none next
    | begins next =>
      rw [next] at none
      cases none
  | restores phase =>
    refine .inr ⟨active, ?_⟩
    rw [begun_quiet rfl, begun_quiet (congrArg Phase.isInFlight phase)]
    rfl
  | cancelled _ cancels => cases uncancelled.symm.trans cancels
  | ends ending => cases going.symm.trans ending

end Turn

section Stages

variable {cs : List Script.Command} {cancelled : Bool}

theorem Stage.isActive {request : Request} (stage : Stage cs cancelled r run (.ask request))
    (going : run.phase.isEnding = false) : r.isActive = true := by
  cases stage with
  | replaying active => exact active
  | stopping _ _ _ phase | cancelling _ _ phase | completing _ _ phase | saving _ _ phase =>
    rw [phase] at going
    cases going

theorem Stage.isActive_of_work {request : Request} (stage : Stage cs cancelled r run (.ask request))
    (work : request.isWork = true) : r.isActive = true := by
  cases stage with
  | replaying active => exact active
  | stopping | cancelling | completing | saving => cases work

/-- A replay that is active has the commands that it has attempted and those that are left. -/
theorem Stage.replays {demand : Demand Report} (stage : Stage cs cancelled r run demand) (active : r.isActive = true) :
    ∃ request, demand = .ask request ∧ cancelled = false ∧ run.report.Tallies cs false run.remaining ∧
      Asks run request := by
  cases stage with
  | replaying _ tallies asks => exact ⟨_, rfl, rfl, tallies, asks⟩
  | stopping idle | stopped idle | cancelling idle | cancelled idle =>
    rw [Replayer.isActive, idle] at active
    cases active
  | completing completed | saving completed | completed completed | unsaved completed =>
    rw [Replayer.isActive, completed] at active
    cases active

theorem Stage.ending {request : Request} (stage : Stage cs cancelled r run (.ask request))
    (ended : r.isActive = false) : run.phase.isEnding = true := by
  cases stage with
  | replaying active => cases ended.symm.trans active
  | stopping _ _ _ phase | cancelling _ _ phase | completing _ _ phase | saving _ _ phase =>
    exact congrArg Phase.isEnding phase

theorem Stage.ended_short {result : Except Fault Report} (stage : Stage cs cancelled r run (.finish result))
    (left : run.report.executed < cs.length) : r.status.state = .idle ∧ run.report.stopped = true := by
  have unfinished (tallies : run.report.Tallies cs false []) : False := by
    rw [← tallies.whole, List.append_nil, Report.commands_length] at left
    exact Nat.lt_irrefl _ left
  cases stage with
  | stopped idle tallies | cancelled idle tallies => exact ⟨idle, tallies.stopped⟩
  | completed _ tallies | unsaved _ tallies => exact (unfinished tallies).elim

theorem Asks.going {request : Request} (asks : Asks run request) : run.phase.isEnding = false := by
  cases asks with
  | announcing phase | restoring phase | blocked phase | handing phase | byHand phase | preparing phase | acting phase
  | settling phase => exact congrArg Phase.isEnding phase

theorem Asks.gate {request : Request} (asks : Asks run request) (phase : run.phase = .blocked) :
    ∃ openings, request = .gate openings := by
  cases asks <;> simp_all

theorem begun_prefix_attempted (run : Run) : run.begun <+: run.attempted := by
  refine (List.prefix_append_right_inj _).mpr ?_
  unfold inFlight
  split
  · rename_i busy
    have underWay : run.phase.isUnderWay = true := by
      cases phase : run.phase <;> simp_all [Phase.isInFlight, Phase.isUnderWay]
    rw [if_pos underWay]
  · exact List.nil_prefix

end Stages

end Run

end BrowserFlow
