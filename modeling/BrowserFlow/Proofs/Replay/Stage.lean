import BrowserFlow.Proofs.Replay.Progress
import Mathlib.Data.List.Basic

/-!
The stages of a replay, from the first command to the end: what it waits for in each of them, how far its report has
come by then and how its results account for what it has asked for. Whatever is answered, every step leads from a stage
to a stage.
-/

namespace BrowserFlow

def Request.isSave : Request → Bool
  | .saveSession _ => true
  | _ => false

theorem Request.not_save_of_work {request : Request} (work : request.isWork = true) : request.isSave = false := by
  cases request <;> first | rfl | cases work

namespace Phase

/-- A command has been begun and has no result, or the replay was cancelled before it had one. -/
def isUnderWay : Phase → Bool
  | .handing | .byHand | .preparing _ | .acting | .settling _ => true
  | .closing fault => fault.isSome
  | _ => false

/-- That command has been made to take effect. -/
def isEffective : Phase → Bool
  | .acting | .settling _ => true
  | _ => false

end Phase

def Demand.asked (phase : Phase) : Demand Report → List (Bool × Request)
  | .ask request => [(phase.isActing, request)]
  | .finish _ => []

namespace Report

/-- The commands that have a result. -/
def commands (report : Report) : List Script.Command := report.results.map (·.command)

theorem commands_length (report : Report) : report.commands.length = report.executed := List.length_map ..

theorem executed_eq (report : Report) : report.executed = report.succeeded + report.failed :=
  List.length_eq_length_filter_add _

theorem success_iff {report : Report} (goesOn : report.stopped = false) (fine : report.error = none) :
    report.success = true ↔ ∀ result ∈ report.results, result.success = true := by
  simp [success, failed, goesOn, fine]

/-- There is a result for each of the commands up to those that are left. -/
structure Tallies (cs : List Script.Command) (stopped : Bool) (report : Report) (left : List Script.Command) :
    Prop where
  total : report.total = cs.length
  fine : report.error = none
  stopped : report.stopped = stopped
  whole : report.commands ++ left = cs

theorem Tallies.add {cs left : List Script.Command} {stopped : Bool} {report : Report} {result : CommandResult}
    (tallies : report.Tallies cs stopped (result.command :: left)) : (report.add result).Tallies cs stopped left where
  total := tallies.total
  fine := tallies.fine
  stopped := tallies.stopped
  whole := by
    rw [← tallies.whole]
    simp [commands, Report.add]

end Report

namespace Run

/-- The commands with a result and the one under way. -/
def attempted (run : Run) : List Script.Command :=
  run.report.commands ++ if run.phase.isUnderWay then run.remaining.take 1 else []

/-- One result after the other, and what has been asked for on their account: a step by hand needs nothing, any other
    command has taken effect once, or a fault has kept it from that and is told by its result. -/
inductive Traced (wait : WaitStrategy) (speed : Value) : List CommandResult → List Request → Prop
  | start : Traced wait speed [] []
  | byHand {results : List CommandResult} {effects : List Request} {c : Script.Command}
      (earlier : Traced wait speed results effects) (manual : c.statement.isExecutable = false) :
      Traced wait speed (results ++ [⟨c, true, 0, none⟩]) effects
  | acted {results : List CommandResult} {effects : List Request} {c : Script.Command} {request : Request}
      (earlier : Traced wait speed results effects) (acts : c.statement.effect? speed = .ok (some request))
      (tenths : Int) (error : Option String) :
      Traced wait speed (results ++ [⟨c, error.isNone, tenths, error⟩]) (effects ++ [request])
  | hindered {results : List CommandResult} {effects : List Request} {c : Script.Command} {fault : Fault}
      (earlier : Traced wait speed results effects) (hindered : c.Hindered wait speed fault) (tenths : Int) :
      Traced wait speed (results ++ [⟨c, false, tenths, some fault.text⟩]) effects

/-- What has been asked for on account of the commands so far: of those with a result, and of the one under way if it
    has been made to take effect. -/
inductive Accounts (wait : WaitStrategy) (speed : Value) (run : Run) : List Request → Prop
  | even {effects : List Request} (quiet : run.phase.isEffective = false)
      (traced : Traced wait speed run.report.results effects) : Accounts wait speed run effects
  | ahead {effects : List Request} {c : Script.Command} {rest : List Script.Command} {request : Request}
      (effective : run.phase.isEffective = true ∨ run.phase = .closing (some .cancelled))
      (remaining : run.remaining = c :: rest) (acts : c.statement.effect? speed = .ok (some request))
      (traced : Traced wait speed run.report.results effects) : Accounts wait speed run (effects ++ [request])

/-- What a replay waits for in each of its phases until the last command has been attempted. -/
inductive Asks (run : Run) : Request → Prop
  | announcing (phase : run.phase = .announcing) (fresh : run.report.results = []) : Asks run .tell
  | restoring {domain : String} (phase : run.phase = .restoring) (fresh : run.report.results = []) :
      Asks run (.restoreSession domain)
  | blocked {openings : Nat} (phase : run.phase = .blocked) : Asks run (.gate openings)
  | handing {c : Script.Command} {rest : List Script.Command} (phase : run.phase = .handing)
      (remaining : run.remaining = c :: rest) (manual : c.statement.isExecutable = false) : Asks run .tell
  | byHand {openings : Nat} {c : Script.Command} {rest : List Script.Command} (phase : run.phase = .byHand)
      (remaining : run.remaining = c :: rest) (manual : c.statement.isExecutable = false) : Asks run (.gate openings)
  | preparing {waiting : Waiting Float} {wanted : WaitRequest Float} {c : Script.Command} {rest : List Script.Command}
      (phase : run.phase = .preparing waiting) (remaining : run.remaining = c :: rest)
      (executable : c.statement.isExecutable = true)
      (prepares : run.wait.Prepares c (.ok (some (waiting, wanted)))) : Asks run (request wanted)
  | acting {request : Request} (phase : run.phase = .acting) (work : request.isWork = true) : Asks run request
  | settling {waiting : Waiting Float} {wanted : WaitRequest Float} (phase : run.phase = .settling waiting) :
      Asks run (request wanted)

/-- Where a replay of the commands can be, and whether it has been cancelled. -/
inductive Stage (cs : List Script.Command) : Bool → Replayer → Run → Demand Report → Prop
  | replaying {r : Replayer} {run : Run} {request : Request} (active : r.isActive = true)
      (tallies : run.report.Tallies cs false run.remaining) (asks : Asks run request) :
      Stage cs false r run (.ask request)
  | stopping {r : Replayer} {run : Run} (idle : r.status.state = .idle)
      (tallies : run.report.Tallies cs true run.remaining) (requested : r.stopRequested = true)
      (phase : run.phase = .closing none) : Stage cs false r run (.ask .tell)
  | stopped {r : Replayer} {run : Run} (idle : r.status.state = .idle)
      (tallies : run.report.Tallies cs true run.remaining) (requested : r.stopRequested = true)
      (phase : run.phase = .closing none) : Stage cs false r run (.finish (.ok run.report))
  | cancelling {r : Replayer} {run : Run} (idle : r.status.state = .idle)
      (tallies : run.report.Tallies cs true run.remaining) (phase : run.phase = .closing (some .cancelled)) :
      Stage cs true r run (.ask .tell)
  | cancelled {r : Replayer} {run : Run} (idle : r.status.state = .idle)
      (tallies : run.report.Tallies cs true run.remaining) (phase : run.phase = .closing (some .cancelled)) :
      Stage cs true r run (.finish (.error .cancelled))
  | completing {r : Replayer} {run : Run} (completed : r.status.state = .completed)
      (tallies : run.report.Tallies cs false []) (phase : run.phase = .completing) : Stage cs false r run (.ask .tell)
  | saving {r : Replayer} {run : Run} {domain : String} (completed : r.status.state = .completed)
      (tallies : run.report.Tallies cs false []) (phase : run.phase = .saving) :
      Stage cs false r run (.ask (.saveSession domain))
  | completed {r : Replayer} {run : Run} (completed : r.status.state = .completed)
      (tallies : run.report.Tallies cs false []) (ended : run.phase.isUnderWay = false) :
      Stage cs false r run (.finish (.ok run.report))
  | unsaved {r : Replayer} {run : Run} (completed : r.status.state = .completed)
      (tallies : run.report.Tallies cs false []) (ended : run.phase.isUnderWay = false) :
      Stage cs true r run (.finish (.error .cancelled))

section Stages

variable {cs : List Script.Command} {cancelled : Bool} {r : Replayer} {run : Run} {demand : Demand Report}

theorem attempted_remaining (run : Run) : run.attempted <+: run.report.commands ++ run.remaining := by
  unfold attempted
  rw [List.prefix_append_right_inj]
  split
  · exact List.take_prefix _ _
  · exact List.nil_prefix

theorem remaining_of_attempted {c : Script.Command} (underWay : run.attempted = run.report.commands ++ [c]) :
    ∃ rest, run.remaining = c :: rest := by
  have taken := List.append_cancel_left underWay
  split at taken
  · cases remaining : run.remaining with
    | nil =>
      rw [remaining] at taken
      cases taken
    | cons d rest =>
      rw [remaining] at taken
      cases taken
      exact ⟨rest, rfl⟩
  · cases taken

theorem attempted_ended (ended : run.phase.isUnderWay = false) : run.attempted = run.report.commands := by
  simp [attempted, ended]

theorem Stage.tallies (stage : Stage cs cancelled r run demand) :
    ∃ stopped left, run.report.Tallies cs stopped left ∧ run.attempted <+: run.report.commands ++ left := by
  cases stage with
  | replaying _ tallies | stopping _ tallies | stopped _ tallies | cancelling _ tallies | cancelled _ tallies =>
    exact ⟨_, _, tallies, attempted_remaining run⟩
  | completing _ tallies phase | saving _ tallies phase =>
    exact ⟨_, _, tallies, by rw [attempted_ended (by rw [phase]; rfl)]; exact List.prefix_append _ _⟩
  | completed _ tallies ended | unsaved _ tallies ended =>
    exact ⟨_, _, tallies, by rw [attempted_ended ended]; exact List.prefix_append _ _⟩

theorem Stage.tallies_completed (stage : Stage cs cancelled r run demand) (completed : r.status.state = .completed) :
    run.report.Tallies cs false [] := by
  cases stage with
  | completing _ tallies | saving _ tallies | completed _ tallies | unsaved _ tallies => exact tallies
  | stopping idle | stopped idle | cancelling idle | cancelled idle => cases idle.symm.trans completed
  | replaying active =>
    rw [Replayer.isActive, completed] at active
    cases active

theorem Stage.returned {report : Report} (stage : Stage cs cancelled r run (.finish (.ok report))) :
    report = run.report ∧ cancelled = false ∧
      (r.status.state = .completed ∨ r.status.state = .idle ∧ report.stopped = true ∧ r.stopRequested = true) := by
  cases stage with
  | stopped idle tallies requested => exact ⟨rfl, rfl, .inr ⟨idle, tallies.stopped, requested⟩⟩
  | completed completed => exact ⟨rfl, rfl, .inl completed⟩

theorem Stage.raised {fault : Fault} (stage : Stage cs cancelled r run (.finish (.error fault))) :
    fault = .cancelled ∧ cancelled = true := by
  cases stage with
  | cancelled | unsaved => exact ⟨rfl, rfl⟩

theorem Stage.idle (stage : Stage cs true r run demand) (other : r.status.state ≠ .completed) :
    r.status.state = .idle ∧ (demand = .finish (.error .cancelled) ∨
      demand = .ask .tell ∧ run.phase = .closing (some .cancelled)) := by
  cases stage with
  | cancelling idle _ phase => exact ⟨idle, .inr ⟨rfl, phase⟩⟩
  | cancelled idle => exact ⟨idle, .inl rfl⟩
  | unsaved completed => exact absurd completed other

theorem attempted_next (tallies : run.report.Tallies cs false run.remaining) (underWay : run.phase.isUnderWay = true) :
    run.attempted = cs.take (run.report.executed + 1) := by
  rw [← tallies.whole, ← run.report.commands_length, List.take_length_add_append, attempted, if_pos underWay]

/-- As long as nobody has stopped or cancelled the replay, a command without a result is under way or waited for. -/
theorem Stage.next (stage : Stage cs false r run demand) (left : run.report.executed < cs.length)
    (unstopped : r.stopRequested = false) : (run.phase.isOpening = true ∧ run.report.results = []) ∨
      run.attempted = cs.take (run.report.executed + 1) ∨
      (r.isActive = true ∧ run.phase = .blocked ∧ ∃ openings, demand = .ask (.gate openings)) := by
  have unfinished (tallies : run.report.Tallies cs false []) : False := by
    have whole := tallies.whole
    rw [List.append_nil] at whole
    rw [← whole, Report.commands_length] at left
    exact Nat.lt_irrefl _ left
  cases stage with
  | stopping _ _ requested | stopped _ _ requested => cases unstopped.symm.trans requested
  | completing _ tallies | saving _ tallies | completed _ tallies => exact (unfinished tallies).elim
  | replaying active tallies asks =>
    cases asks with
    | announcing phase fresh | restoring phase fresh => exact .inl ⟨by rw [phase]; rfl, fresh⟩
    | blocked phase => exact .inr (.inr ⟨active, phase, _, rfl⟩)
    | handing phase | byHand phase | preparing phase | acting phase | settling phase =>
      exact .inr (.inl (attempted_next tallies (by rw [phase]; rfl)))

/-- The session is asked to be saved in one phase only. -/
theorem Stage.phase_of_save {request : Request} (stage : Stage cs cancelled r run (.ask request))
    (saves : request.isSave = true) : run.phase = .saving := by
  cases stage with
  | saving completed tallies phase => exact phase
  | stopping | cancelling | completing => cases saves
  | replaying active tallies asks =>
    cases asks with
    | preparing | settling => cases (Request.not_save_of_work (request_isWork _)).symm.trans saves
    | acting phase work => cases (Request.not_save_of_work work).symm.trans saves
    | _ => cases saves

theorem Stage.completed_of_saving (stage : Stage cs cancelled r run demand) (phase : run.phase = .saving) :
    r.status.state = .completed := by
  cases stage with
  | completing completed | saving completed | completed completed | unsaved completed => exact completed
  | replaying active tallies asks => cases asks <;> simp_all
  | stopping _ _ _ other | stopped _ _ _ other | cancelling _ _ other | cancelled _ _ other =>
    cases phase.symm.trans other

end Stages

/-- A step to a stage, if what had been asked for on account of the commands before it was `effects`. -/
structure Leads (cs : List Script.Command) (wait : WaitStrategy) (speed : Value) (cancelled : Bool)
    (effects : List Request) (t : Transition) : Prop where
  stage : Stage cs cancelled t.1 t.2.1 t.2.2
  kept : t.1.speed = speed ∧ t.2.1.wait = wait
  accounts : Accounts wait speed t.2.1 (effects ++ Run.effects (t.2.2.asked t.2.1.phase))

/-- A replay that goes on with the commands that are left. -/
structure Going (cs : List Script.Command) (wait : WaitStrategy) (speed : Value) (effects : List Request) (r : Replayer)
    (run : Run) (left : List Script.Command) : Prop where
  active : r.isActive = true
  kept : r.speed = speed ∧ run.wait = wait
  tallies : run.report.Tallies cs false left
  traced : Traced wait speed run.report.results effects

section Lead

variable {cs left rest : List Script.Command} {wait : WaitStrategy} {speed : Value} {cancelled : Bool}
  {effects effects' : List Request} {r : Replayer} {run : Run} {c : Script.Command} {phase : Phase} {request : Request}

theorem Leads.aside {t : Transition} (stage : Stage cs cancelled t.1 t.2.1 t.2.2)
    (kept : t.1.speed = speed ∧ t.2.1.wait = wait) (aside : Run.effects (t.2.2.asked t.2.1.phase) = [])
    (accounts : Accounts wait speed t.2.1 effects) : Leads cs wait speed cancelled effects t where
  stage := stage
  kept := kept
  accounts := by
    rw [aside, List.append_nil]
    exact accounts

theorem Leads.quiet {t : Transition} (stage : Stage cs cancelled t.1 t.2.1 t.2.2)
    (kept : t.1.speed = speed ∧ t.2.1.wait = wait) (aside : Run.effects (t.2.2.asked t.2.1.phase) = [])
    (quiet : t.2.1.phase.isEffective = false) (traced : Traced wait speed t.2.1.report.results effects) :
    Leads cs wait speed cancelled effects t :=
  .aside stage kept aside (.even quiet traced)

theorem leads_stopped (going : Going cs wait speed effects r run run.remaining) (requested : r.stopRequested = true)
    (w : World) : Leads cs wait speed false effects (conclude r run w true) := by
  let run' := { run with report := { run.report with stopped := true, completedAt := some w.now },
                         phase := .closing none }
  have tallies : run'.report.Tallies cs true run'.remaining :=
    ⟨going.tallies.total, going.tallies.fine, rfl, going.tallies.whole⟩
  have stage : Stage cs false (r.enter .idle (some "Replay stopped")) run' (.ask .tell) :=
    .stopping rfl tallies requested rfl
  exact .quiet stage going.kept rfl rfl going.traced

theorem leads_completed (going : Going cs wait speed effects r run []) (w : World) :
    Leads cs wait speed false effects (conclude r run w false) := by
  let run' := { run with report := { run.report with stopped := false, completedAt := some w.now },
                         phase := .completing }
  have tallies : run'.report.Tallies cs false [] :=
    ⟨going.tallies.total, going.tallies.fine, rfl, going.tallies.whole⟩
  have stage : Stage cs false (conclude r run w false).1 run' (.ask .tell) := .completing rfl tallies rfl
  exact .quiet stage going.kept rfl rfl going.traced

/-- A replay that is cancelled keeps the results so far. The command under way has none. -/
theorem leads_cancelled (tallies : run.report.Tallies cs false run.remaining)
    (accounts : Accounts run.wait r.speed run effects) (w : World) :
    Leads cs run.wait r.speed true effects (cancel r run w) := by
  let run' := { run with report := { run.report with stopped := true, completedAt := some w.now },
                         phase := .closing (some .cancelled) }
  have tallies' : run'.report.Tallies cs true run'.remaining := ⟨tallies.total, tallies.fine, rfl, tallies.whole⟩
  have stage : Stage cs true (r.enter .idle (some "Replay cancelled")) run' (.ask .tell) :=
    .cancelling rfl tallies' rfl
  refine .aside stage ⟨rfl, rfl⟩ rfl ?_
  cases accounts with
  | even _ traced => exact .even rfl traced
  | ahead _ remaining acts traced => exact .ahead (.inr rfl) remaining acts traced

theorem leads_begun (going : Going cs wait speed effects r run run.remaining) (remaining : run.remaining = c :: rest)
    (executable : c.statement.isExecutable = true) (begins : Begins wait speed c phase request) :
    Leads cs wait speed false effects (ask r run phase request) := by
  obtain ⟨active, ⟨rfl, rfl⟩, tallies, traced⟩ := going
  cases begins with
  | nothing byHand => cases executable.symm.trans byHand
  | preparing prepares =>
    exact .quiet (.replaying active tallies (.preparing rfl remaining executable prepares)) ⟨rfl, rfl⟩ rfl rfl traced
  | acting acts =>
    have begins : Begins run.wait r.speed c .acting request := .acting acts
    exact ⟨.replaying active tallies (.acting rfl begins.isWork), ⟨rfl, rfl⟩, .ahead (.inl rfl) remaining acts traced⟩

theorem Going.note (going : Going cs wait speed effects r run (c :: rest)) {w : World} {error : Option String}
    (traced : Traced wait speed (run.note w c error).report.results effects') :
    Going cs wait speed effects' r (run.note w c error) rest :=
  ⟨going.active, going.kept, going.tallies.add, traced⟩

theorem Going.noteByHand (going : Going cs wait speed effects r run (c :: rest))
    (manual : c.statement.isExecutable = false) : Going cs wait speed effects r (run.noteByHand c) rest :=
  ⟨going.active, going.kept, going.tallies.add, .byHand going.traced manual⟩

/-- Whatever comes of a command, the replay goes on with the next one. -/
theorem leads_proceed (going : Going cs wait speed effects r run left) (w : World) (passed : Bool) :
    Leads cs wait speed false effects (proceed r run w passed left) := by
  induction left generalizing r run passed with
  | nil =>
    have going : Going cs wait speed effects r { run with remaining := [] } [] :=
      ⟨going.active, going.kept, going.tallies, going.traced⟩
    exact leads_completed going w
  | cons c rest ih =>
    obtain ⟨active, ⟨rfl, rfl⟩, tallies, traced⟩ := going
    let r' : Replayer := { r with status := { r.status with currentLine := some c.line } }
    have going : Going cs run.wait r.speed effects r' run (c :: rest) := ⟨active, ⟨rfl, rfl⟩, tallies, traced⟩
    rw [proceed]
    split
    · exact .quiet (.replaying active tallies (.blocked rfl)) ⟨rfl, rfl⟩ rfl rfl traced
    · split
      · rename_i requested
        have going : Going cs run.wait r.speed effects r { run with remaining := c :: rest } (c :: rest) :=
          ⟨active, ⟨rfl, rfl⟩, tallies, traced⟩
        exact leads_stopped going requested w
      · dsimp only
        split
        · rename_i description statement
          have manual : c.statement.isExecutable = false := by rw [statement]; rfl
          split
          · exact .quiet (.replaying rfl tallies (.handing rfl rfl manual)) ⟨rfl, rfl⟩ rfl rfl traced
          · exact ih (going.noteByHand manual) false
        · rename_i executable
          have executable : c.statement.isExecutable = true := by
            cases statement : c.statement with
            | manualStep description => exact absurd statement (executable description)
            | _ => rfl
          -- what is left and the clock do not matter to how far the report has come
          have going (waits : Run) (same : waits.wait = run.wait) (report : waits.report = run.report) :
              Going cs run.wait r.speed effects r' waits (c :: rest) :=
            ⟨active, ⟨rfl, same⟩, report ▸ tallies, report ▸ traced⟩
          split
          · rename_i begun
            have going := going { run with commandStart := w.clock, remaining := c :: rest } rfl rfl
            exact leads_begun going rfl executable (beginCommand_ok begun)
          · rename_i failed
            have going := going { run with commandStart := w.clock } rfl rfl
            refine ih (going.note ?_) false
            exact .hindered traced (beginCommand_error failed) _

section Command

variable (remaining : run.remaining = c :: rest)

include remaining

/-- However a command ends, it gets its result. -/
theorem leads_endCommand (going : Going cs wait speed effects r run (c :: rest)) {w : World} {error : Option String}
    (traced : Traced wait speed (run.note w c error).report.results effects') :
    Leads cs wait speed false effects' (endCommand r run w error) := by
  simp only [endCommand, remaining]
  exact leads_proceed (going.note traced) w false

theorem leads_settling (going : Going cs wait speed effects r run (c :: rest))
    (acts : c.statement.effect? speed = .ok (some request)) (waiting : Waiting Float) (wanted : WaitRequest Float) :
    Leads cs wait speed false (effects ++ [request]) (ask r run (.settling waiting) (Run.request wanted)) := by
  obtain ⟨active, kept, tallies, traced⟩ := going
  have stage : Stage cs false r { run with phase := .settling waiting } (.ask (Run.request wanted)) :=
    .replaying active (remaining ▸ tallies) (.settling rfl)
  exact .aside stage kept rfl (.ahead (.inl rfl) remaining acts traced)

/-- Once a command has taken effect, it has its result or its wait asks for more. -/
theorem leads_effective (going : Going cs wait speed effects r run (c :: rest))
    (acts : c.statement.effect? speed = .ok (some request)) (w : World)
    {next : Except Fault (Option (Phase × Request))} (settles : ∀ phase wanted, next = .ok (some (phase, wanted)) →
      ∃ waiting request, phase = .settling waiting ∧ wanted = Run.request request) :
    Leads cs wait speed false (effects ++ [request]) (goOn r run w next) := by
  unfold goOn
  split
  · rename_i phase wanted
    obtain ⟨waiting, wanted, rfl, rfl⟩ := settles phase wanted rfl
    exact leads_settling remaining going acts waiting wanted
  · exact leads_endCommand remaining going (.acted going.traced acts _ _)
  · exact leads_endCommand remaining going (.acted going.traced acts _ _)

theorem leads_prepare (going : Going cs wait speed effects r run (c :: rest))
    (executable : c.statement.isExecutable = true) {step : Except Fault (WaitStep Float)}
    (prepares : wait.Prepares c step) (w : World) :
    Leads cs wait speed false effects (goOn r run w (prepare r c step)) := by
  obtain ⟨active, ⟨rfl, rfl⟩, tallies, traced⟩ := going
  unfold goOn
  split
  · rename_i goesOn
    obtain ⟨_, _, same, begins⟩ := prepare_ok prepares goesOn
    cases same
    exact leads_begun ⟨active, ⟨rfl, rfl⟩, remaining ▸ tallies, traced⟩ remaining executable begins
  · rename_i goesOn
    obtain ⟨_, _, same, _⟩ := prepare_ok prepares goesOn
    cases same
  · rename_i failed
    exact leads_endCommand remaining ⟨active, ⟨rfl, rfl⟩, tallies, traced⟩
      (.hindered traced (prepare_error prepares failed) _)

end Command

theorem leads_begin (going : Going cs wait speed effects r run run.remaining) (fresh : run.report.results = [])
    (w : World) : Leads cs wait speed false effects (begin r run w) := by
  unfold begin
  split
  · split
    · exact .quiet (.replaying going.active going.tallies (.restoring rfl fresh)) going.kept rfl rfl going.traced
    · exact leads_proceed going w false
  · exact leads_proceed going w false

theorem leads_awaitHand (going : Going cs wait speed effects r run run.remaining)
    (remaining : run.remaining = c :: rest) (manual : c.statement.isExecutable = false) (w : World) :
    Leads cs wait speed false effects (awaitHand r run w) := by
  unfold awaitHand
  split
  · simp only [remaining]
    rw [remaining] at going
    exact leads_proceed (going.noteByHand manual) w false
  · exact .quiet (.replaying going.active going.tallies (.byHand rfl remaining manual)) going.kept rfl rfl going.traced

theorem leads_conserve (completed : r.status.state = .completed) (tallies : run.report.Tallies cs false [])
    (ended : run.phase.isUnderWay = false) (accounts : Accounts run.wait r.speed run effects)
    (traced : Traced run.wait r.speed run.report.results effects) :
    Leads cs run.wait r.speed false effects (conserve r run) := by
  unfold conserve
  split
  · split
    · exact .quiet (.saving completed tallies rfl) ⟨rfl, rfl⟩ rfl rfl traced
    · exact .aside (.completed completed tallies ended) ⟨rfl, rfl⟩ rfl accounts
  · exact .aside (.completed completed tallies ended) ⟨rfl, rfl⟩ rfl accounts

theorem step_saving (phase : run.phase = .saving) (w : World) (reply : Reply) :
    step r run w reply = finish r run (if isCancelled reply then .error .cancelled else .ok run.report) := by
  simp only [step, phase]
  cases isCancelled reply <;> rfl

theorem Asks.step_cancelled (asks : Asks run request) (waits : request ≠ .tell) {reply : Reply}
    (cancels : isCancelled reply = true) (w : World) : step r run w reply = cancel r run w := by
  cases asks with
  | announcing | handing => exact absurd rfl waits
  | restoring phase | blocked phase | byHand phase | preparing phase | acting phase | settling phase =>
    simp [step, phase, cancels]

theorem Accounts.traced (accounts : Accounts wait speed run effects) (quiet : run.phase.isEffective = false)
    (going : run.phase ≠ .closing (some .cancelled)) : Traced wait speed run.report.results effects := by
  cases accounts with
  | even _ traced => exact traced
  | ahead effective =>
    obtain effective | cancelled := effective
    · cases quiet.symm.trans effective
    · exact absurd cancelled going

theorem Accounts.effective (accounts : Accounts wait speed run effects) (effective : run.phase.isEffective = true) :
    ∃ done c rest request, run.remaining = c :: rest ∧ c.statement.effect? speed = .ok (some request) ∧
      Traced wait speed run.report.results done ∧ effects = done ++ [request] := by
  cases accounts with
  | even quiet => cases quiet.symm.trans effective
  | ahead _ remaining acts traced => exact ⟨_, _, _, _, remaining, acts, traced, rfl⟩

/-- Whatever comes of a request of the replay under way: if it was not cancelled, it goes on or has attempted all
    commands or has been stopped. -/
theorem leads_asked (active : r.isActive = true) (tallies : run.report.Tallies cs false run.remaining)
    (asks : Asks run request) (accounts : Accounts run.wait r.speed run effects) {reply : Reply}
    (told : request = .tell → isCancelled reply = false) (w : World) :
    Leads cs run.wait r.speed (isCancelled reply) effects (step r run w reply) := by
  cases cancels : isCancelled reply with
  | true =>
    have waits : request ≠ .tell := by
      intro same
      cases cancels.symm.trans (told same)
    rw [asks.step_cancelled waits cancels]
    exact leads_cancelled tallies accounts w
  | false =>
    have going (phase : Phase) (same : run.phase = phase) (quiet : phase.isEffective = false)
        (other : phase ≠ .closing (some .cancelled)) : Going cs run.wait r.speed effects r run run.remaining := by
      subst same
      exact ⟨active, ⟨rfl, rfl⟩, tallies, accounts.traced quiet other⟩
    cases asks with
    | announcing phase fresh =>
      have begun : step r run w reply = begin r run w := by simp [step, phase]
      rw [begun]
      exact leads_begin (going _ phase rfl (by simp)) fresh w
    | restoring phase =>
      have goesOn : step r run w reply = proceed r run w false run.remaining := by simp [step, phase, cancels]
      rw [goesOn]
      exact leads_proceed (going _ phase rfl (by simp)) w false
    | blocked phase =>
      have goesOn : step r run w reply = proceed r run w true run.remaining := by simp [step, phase, cancels]
      rw [goesOn]
      exact leads_proceed (going _ phase rfl (by simp)) w true
    | handing phase remaining manual =>
      have awaits : step r run w reply = awaitHand r run w := by simp [step, phase]
      rw [awaits]
      exact leads_awaitHand (going _ phase rfl (by simp)) remaining manual w
    | @byHand _ c rest phase remaining manual =>
      have goesOn : step r run w reply = proceed r (run.noteByHand c) w false rest := by
        simp [step, phase, cancels, remaining]
      rw [goesOn]
      exact leads_proceed ((remaining ▸ going _ phase rfl (by simp)).noteByHand manual) w false
    | @preparing waiting _ c rest phase remaining executable prepares =>
      have goesOn : step r run w reply = goOn r run w (prepare r c (run.wait.next w.clock waiting reply)) := by
        simp [step, phase, cancels, remaining]
      rw [goesOn]
      exact leads_prepare remaining (remaining ▸ going _ phase rfl (by simp)) executable (prepares.next w.clock reply) w
    | acting phase =>
      obtain ⟨done, c, rest, effect, remaining, acts, traced, rfl⟩ := accounts.effective (by rw [phase]; rfl)
      have goesOn : step r run w reply = goOn r run w (do
          c.statement.checkAnswer (← reply)
          settle (run.wait.after w.clock c.statement c.line)) := by
        simp [step, phase, cancels, remaining]
      rw [goesOn]
      have going : Going cs run.wait r.speed done r run (c :: rest) := ⟨active, ⟨rfl, rfl⟩, remaining ▸ tallies, traced⟩
      refine leads_effective remaining going acts w fun phase wanted next => ?_
      obtain ⟨_, _, next⟩ := bind_ok next
      obtain ⟨_, _, next⟩ := bind_ok next
      exact settle_ok next
    | @settling waiting _ phase =>
      obtain ⟨done, c, rest, effect, remaining, acts, traced, rfl⟩ := accounts.effective (by rw [phase]; rfl)
      have goesOn : step r run w reply = goOn r run w (settle (run.wait.next w.clock waiting reply)) := by
        simp [step, phase, cancels]
      rw [goesOn]
      have going : Going cs run.wait r.speed done r run (c :: rest) := ⟨active, ⟨rfl, rfl⟩, remaining ▸ tallies, traced⟩
      exact leads_effective remaining going acts w fun _ _ next => settle_ok next

/-- Every step of a replay leads from a stage to a stage, whatever the reply; nobody is cancelled while he is told of
    something. -/
theorem Stage.leads (stage : Stage cs cancelled r run (.ask request)) (accounts : Accounts run.wait r.speed run effects)
    {reply : Reply} (told : request = .tell → isCancelled reply = false) (w : World) :
    Leads cs run.wait r.speed (cancelled || isCancelled reply) effects (step r run w reply) := by
  cases stage with
  | replaying active tallies asks => exact leads_asked active tallies asks accounts told w
  | stopping idle tallies requested phase =>
    have ends : step r run w reply = finish r run (.ok run.report) := by simp [step, phase]
    rw [ends, told rfl]
    exact .aside (.stopped idle tallies requested phase) ⟨rfl, rfl⟩ rfl accounts
  | cancelling idle tallies phase =>
    have ends : step r run w reply = finish r run (.error .cancelled) := by simp [step, phase]
    rw [ends]
    exact .aside (.cancelled idle tallies phase) ⟨rfl, rfl⟩ rfl accounts
  | completing completed tallies phase =>
    have conserves : step r run w reply = conserve r run := by simp [step, phase]
    rw [conserves, told rfl]
    have traced := accounts.traced (by rw [phase]; rfl) (by simp [phase])
    exact leads_conserve completed tallies (by rw [phase]; rfl) accounts traced
  | saving completed tallies phase =>
    have ended : run.phase.isUnderWay = false := by rw [phase]; rfl
    rw [step_saving phase w reply]
    cases isCancelled reply with
    | true => exact .aside (.unsaved completed tallies ended) ⟨rfl, rfl⟩ rfl accounts
    | false => exact .aside (.completed completed tallies ended) ⟨rfl, rfl⟩ rfl accounts

end Lead

end Run

end BrowserFlow
