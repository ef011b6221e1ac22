import BrowserFlow.Proofs.Replay.Begun
import BrowserFlow.Proofs.Replay.Course

/-!
Pauses of a replay. A pause in time shuts the gate before the next command, so that none begins until the replay is
resumed. A pause is late if the replay has been let on at the gate already or is about to be: then the next command
begins all the same.
-/

namespace BrowserFlow.Replayer.Course

/-- Too late to hold the replay before its next command: it has been let on there, or the observer is being told of a
    resume, which opens the gate after that. -/
def IsLate (c : Course) : Prop :=
  0 < c.opening ∨ c.run.phase = .blocked ∧ ∃ openings, c.demand = .ask (.gate openings) ∧
    c.replayer.gate.lets openings = true

/-- One step of a course, in which the replay is not paused unless the course allows it. -/
structure PausesIf (allowed : Course → Prop) (c c' : Course) : Prop where
  move : Move c c'
  pauses : c'.replayer.status.state = .paused → c.replayer.status.state = .paused ∨ allowed c

/-- A step of a course that is left to itself. -/
inductive Runs : Course → Course → Prop
  | opened {c : Course} {n : Nat} (told : c.opening = n + 1) :
      Runs c { c with replayer := c.replayer.openGate, opening := n }
  | reply {c : Course} {request : Request} (waits : c.demand = .ask request) (settled : c.opening = 0) (w : World)
      {reply : Reply} (fits : request.MayGet c.replayer.gate reply) (going : Run.isCancelled reply = false) :
      Runs c (c.after (c.run.step c.replayer w reply))

/-- The gate is closed, and who waits at it before a command has not been let on. -/
structure IsShut (c : Course) : Prop where
  settled : c.opening = 0
  closed : c.replayer.gate.isOpen = false
  waits : c.run.phase = .blocked → ∀ openings, c.demand = .ask (.gate openings) →
    c.replayer.gate.lets openings = false

open Run (begun_quiet begins_of_blocked)

variable {cs : List Script.Command} {wait : WaitStrategy} {speed : Value} {c c' : Course} {r q : Replayer}

theorem Runs.move (runs : Runs c c') : Move c c' := by
  cases runs with
  | opened told => exact .opened told
  | reply waits settled w fits going =>
    have move := Move.reply waits settled w fits
    rw [going, Bool.or_false] at move
    exact move

theorem starts (steps : Course → Course → Prop) {p : Replayer} {v : World} {o : ReplayOptions} {observer : Option Nat}
    {run : Run} (_ : p.start v o observer = (r, .ok run)) :
    Relation.ReflTransGen steps (.ofStart r run) (.ofStart r run) := .refl

theorem runs_moves (runs : Relation.ReflTransGen Runs c c') : Relation.ReflTransGen Move c c' :=
  Relation.ReflTransGen.mono (fun _ _ => Runs.move) _ _ runs

theorem pausesIf_moves {allowed : Course → Prop} (moves : Relation.ReflTransGen (PausesIf allowed) c c') :
    Relation.ReflTransGen Move c c' :=
  Relation.ReflTransGen.mono (fun _ _ => PausesIf.move) _ _ moves

/-- A pause while a command is in flight is in time, unless the observer is being told of a resume. -/
theorem timely_of_inFlight (settled : c.opening = 0) (busy : c.run.phase.isInFlight = true) : ¬ c.IsLate := by
  rintro (opening | ⟨blocked, _⟩)
  · omega
  · rw [blocked] at busy
    cases busy

/-- A pause in time shuts the gate. -/
theorem shut_of_pause (passes : c.replayer.pause = .ok q) (timely : ¬ c.IsLate) : IsShut { c with replayer := q } := by
  obtain ⟨_, rfl⟩ := pause_ok passes
  refine ⟨?_, rfl, fun blocked openings asks => ?_⟩
  · exact Nat.eq_zero_of_not_pos fun opening => timely (.inl opening)
  · exact Bool.eq_false_iff.mpr fun lets => timely (.inr ⟨blocked, openings, asks, lets⟩)

/-- At a shut gate there is no getting on. -/
theorem IsShut.not_passed (shut : c.IsShut) (sound : Sound cs wait speed c) {request : Request}
    (waits : c.demand = .ask request) {reply : Reply} (fits : request.MayGet c.replayer.gate reply)
    (phase : c.run.phase = .blocked) :
    Run.isCancelled reply = true := by
  have active := (waits ▸ sound.stage).isActive (congrArg Phase.isEnding phase)
  obtain ⟨_, same, _, _, asks⟩ := sound.stage.replays active
  cases waits.symm.trans same
  obtain ⟨openings, rfl⟩ := asks.gate phase
  obtain rfl | ⟨lets, _⟩ := fits
  · rfl
  · cases (shut.waits phase openings waits).symm.trans lets

theorem IsShut.step (shut : c.IsShut) (w : World) (reply : Reply) :
    IsShut (c.after (c.run.step c.replayer w reply)) := by
  have passes := @Run.step_passes c.replayer c.run w reply
  refine ⟨shut.settled, ?_, fun _ openings asks => ?_⟩
  · cases passes with
    | leaves gate => exact (congrArg Gate.isOpen gate).trans shut.closed
    | closes gate => exact congrArg Gate.isOpen gate
  · cases passes with
    | leaves gate state now =>
      obtain ⟨rfl, _⟩ := now openings asks
      have same : (c.after (c.run.step c.replayer w reply)).replayer.gate = c.replayer.gate := gate
      rw [same]
      exact decide_eq_false (Nat.lt_irrefl _)
    | closes gate state phase tells => cases tells.symm.trans asks

theorem stop_active (active : r.isActive = true) : r.stop = { r with stopRequested := true }.openGate := if_pos active

theorem isActive_of_paused (paused : r.status.state = .paused) : r.isActive = true := by
  rw [isActive, paused]
  rfl

theorem paused_of_stop (paused : r.stop.status.state = .paused) : r.status.state = .paused := by
  unfold Replayer.stop at paused
  split at paused
  · exact paused
  · exact paused

/-- Unless it is to stop, a replay that is paused finds the gate shut. -/
def Heeds (c : Course) : Prop :=
  c.replayer.status.state = .paused → c.opening = 0 ∧ (c.replayer.stopRequested = true ∨ c.IsShut)

/-- A replay becomes paused in no other way than by a pause, which shuts the gate if it is in time. -/
theorem Heeds.move (heeds : c.Heeds) (move : PausesIf (fun c => ¬ c.IsLate) c c') : c'.Heeds := by
  obtain ⟨move, timely⟩ := move
  intro paused
  cases move with
  | pause passes =>
    obtain before | timely := timely paused
    · cases before.symm.trans (pause_ok passes).1
    · have shut := shut_of_pause passes timely
      exact ⟨shut.settled, .inr shut⟩
  | resume passes =>
    obtain ⟨_, rfl⟩ := resume_ok passes
    cases paused
  | opened told =>
    obtain ⟨settled, _⟩ := heeds paused
    omega
  | stop =>
    have paused := paused_of_stop paused
    refine ⟨(heeds paused).1, .inl ?_⟩
    exact congrArg stopRequested (stop_active (isActive_of_paused paused))
  | @reply request waits settled w reply fits =>
    have passes := @Run.step_passes c.replayer c.run w reply
    refine ⟨settled, ?_⟩
    cases passes with
    | leaves gate state =>
      obtain same | ended := state
      · obtain ⟨_, requested | shut⟩ := heeds (same.symm.trans paused)
        · exact .inl ((Run.step_turn c.replayer c.run w reply).halts requested).requested
        · exact .inr ⟨settled, (shut.step w reply).closed, (shut.step w reply).waits⟩
      · cases ended.symm.trans (isActive_of_paused paused)
    | closes gate state => cases state.symm.trans paused

theorem Heeds.moves (heeds : c.Heeds) (moves : Relation.ReflTransGen (PausesIf fun c => ¬ c.IsLate) c c') :
    c'.Heeds := by
  induction moves with
  | refl => exact heeds
  | tail _ move ih => exact ih.move move

/-- A command begins while the replay runs. -/
theorem Heeds.running (heeds : c.Heeds) (sound : Sound cs wait speed c) (move : Move c c')
    (begins : c.run.begun.length < c'.run.begun.length) : c.replayer.status.state = .running := by
  cases move with
  | pause | resume | opened | stop => exact absurd begins (Nat.lt_irrefl _)
  | @reply request waits settled w reply fits =>
    have turn := Run.step_turn c.replayer c.run w reply
    obtain known | ⟨going, unstopped, passes⟩ := turn.begins
    · exact absurd known.length_le (Nat.not_le.mpr begins)
    have active := (waits ▸ sound.stage).isActive going
    cases state : c.replayer.status.state with
    | running => rfl
    | paused =>
      obtain ⟨_, requested | shut⟩ := heeds state
      · cases unstopped.symm.trans requested
      · obtain isOpen | ⟨blocked, going⟩ := passes
        · cases shut.closed.symm.trans isOpen
        · cases going.symm.trans (shut.not_passed sound waits fits blocked)
    | manualStep =>
      -- nobody but a stop opens the gate before the step by hand ends
      obtain ⟨_, held, opens, _⟩ := sound.gated.byHand state
      obtain isOpen | ⟨blocked, _⟩ := passes
      · cases unstopped.symm.trans (opens isOpen)
      · obtain handing | byHand := held
        · cases blocked.symm.trans handing
        · cases blocked.symm.trans byHand
    | idle | completed | error =>
      rw [isActive, state] at active
      cases active

/-- The course when the observer has been told of all resumes. -/
def settled (c : Course) : Course :=
  if c.opening = 0 then c else { c with replayer := c.replayer.openGate, opening := 0 }

theorem opened_opened (g : Gate) : g.opened.opened = g.opened := if_pos (isOpen_opened g)

theorem runs_settled (c : Course) : Relation.ReflTransGen Runs c c.settled := by
  obtain ⟨r, run, demand, asked, n, cancelled⟩ := c
  induction n generalizing r with
  | zero => exact .refl
  | succ n ih =>
    refine .head (.opened rfl) ?_
    have later := ih r.openGate
    cases n with
    | zero => exact later
    | succ n =>
      have same : r.openGate.openGate = r.openGate := by simp [openGate, opened_opened]
      simp only [settled, Nat.succ_ne_zero, if_false, same] at later ⊢
      exact later

/-- Once the observer has been told of all resumes, a replay that waits before a command is let on in spite of a pause
    that was late. -/
theorem Sound.lets_settled (sound : Sound cs wait speed c.settled) {openings : Nat}
    (asks : c.demand = .ask (.gate openings)) (late : c.IsLate) :
    c.settled.replayer.gate.lets openings = true := by
  obtain none | opening := Nat.eq_zero_or_pos c.opening
  · obtain opening | ⟨_, _, same, lets⟩ := late
    · omega
    · cases asks.symm.trans same
      rw [settled, if_pos none]
      exact lets
  · have told : c.settled = { c with replayer := c.replayer.openGate, opening := 0 } := if_neg (Nat.ne_of_gt opening)
    rw [told] at sound ⊢
    obtain ⟨early, last⟩ := sound.gated.waiting openings asks
    refine decide_eq_true (Nat.lt_of_le_of_ne early fun same => ?_)
    cases (isOpen_opened c.replayer.gate).symm.trans (last same)

/-- After a pause that is late the next command begins while the replay is paused. -/
theorem Sound.begins_paused (sound : Sound cs wait speed c) (unstopped : c.replayer.stopRequested = false)
    (left : c.run.begun ≠ cs) (phase : c.run.phase = .blocked) (late : c.IsLate) (passes : c.replayer.pause = .ok q) :
    ∃ d d', Relation.ReflTransGen Runs { c with replayer := q } d ∧ Runs d d' ∧ d.run = c.run ∧
      d.replayer.status.state = .paused ∧ d.run.begun.length < d'.run.begun.length := by
  obtain ⟨running, rfl⟩ := pause_ok passes
  have active : c.replayer.isActive = true := congrArg ReplayState.isActive running
  obtain ⟨_, asks, _, tallies, waits⟩ := sound.stage.replays active
  obtain ⟨openings, rfl⟩ := waits.gate phase
  have remaining : c.run.remaining ≠ [] := by
    intro none
    rw [begun_quiet (congrArg Phase.isInFlight phase), ← tallies.whole, none, List.append_nil] at left
    exact left rfl
  let c₁ : Course := { c with replayer := c.replayer.closeGate.enter .paused (some "Replay paused") }
  have settles : Relation.ReflTransGen Runs c₁ c₁.settled := runs_settled c₁
  have sound : Sound cs wait speed c₁.settled := (sound.move (.pause passes)).moves (runs_moves settles)
  have lets : c₁.settled.replayer.gate.lets openings = true := sound.lets_settled asks late
  have kept : c₁.settled.run = c.run ∧ c₁.settled.demand = c.demand ∧ c₁.settled.opening = 0 ∧
      c₁.settled.replayer.status.state = .paused ∧ c₁.settled.replayer.stopRequested = false := by
    unfold settled
    split
    · exact ⟨rfl, rfl, ‹_›, rfl, unstopped⟩
    · exact ⟨rfl, rfl, rfl, rfl, unstopped⟩
  obtain ⟨same, demand, opening, paused, unstopped⟩ := kept
  have reply : Runs c₁.settled _ := .reply (demand.trans asks) opening {} (.inr ⟨lets, .nothing, rfl⟩) rfl
  refine ⟨c₁.settled, _, settles, reply, same, paused, ?_⟩
  exact begins_of_blocked (same ▸ phase) rfl unstopped (same ▸ remaining)

end BrowserFlow.Replayer.Course
