import BrowserFlow.Proofs.Replay.Stage
import BrowserFlow.Proofs.Replay.Start

/-!
The gate of a replay. It is closed by a pause and for a step by hand only, so that a replay that waits before its next
command has been paused or is about to go on.
-/

namespace BrowserFlow

/-- What may come of a request. At the gate one gets through when it has been opened; the faults of an observer stay
    with it; anything else may give or raise whatever it likes. Where there is something to wait for, the replay may be
    cancelled. -/
def Request.MayGet (gate : Gate) : Request → Reply → Prop
  | .gate openings, reply => reply = .error .cancelled ∨ gate.lets openings = true ∧ ∃ answer, reply = .ok answer
  | .tell, reply => ∃ answer, reply = .ok answer
  | .page _, _ | .sleep _, _ | .restoreSession _, _ | .saveSession _, _ => True

/-- While the observer is told of some resumes, each of which is still to open the gate: one waits at it for no more
    than its next opening, it is closed while the replay runs only if it is about to be opened, and during a step by
    hand nobody but a stop has opened it. -/
structure Replayer.Gated (opening : Nat) (r : Replayer) (phase : Phase) (demand : Demand Report) : Prop where
  running : r.status.state = .running → r.gate.isOpen = false → 0 < opening
  waiting : ∀ openings, demand = .ask (.gate openings) →
    openings ≤ r.gate.openings ∧ (openings = r.gate.openings → r.gate.isOpen = false)
  byHand : r.status.state = .manualStep → opening = 0 ∧ (phase = .handing ∨ phase = .byHand) ∧
    (r.gate.isOpen = true → r.stopRequested = true) ∧
    ∀ openings, demand = .ask (.gate openings) → r.gate.isOpen = false → openings = r.gate.openings

namespace Replayer

theorem pause_ok {r q : Replayer} (passes : r.pause = .ok q) :
    r.status.state = .running ∧ q = r.closeGate.enter .paused (some "Replay paused") := by
  unfold Replayer.pause at passes
  split at passes
  · rename_i running
    cases passes
    exact ⟨eq_of_beq running, rfl⟩
  · cases passes

theorem resume_ok {r q : Replayer} (passes : r.resume = .ok q) :
    r.isActive = true ∧ q = r.enter .running (some "Replay resumed") := by
  unfold Replayer.resume at passes
  split at passes
  · rename_i paused
    cases passes
    exact ⟨by rw [isActive, paused]; rfl, rfl⟩
  · rename_i byHand
    cases passes
    exact ⟨by rw [isActive, byHand]; rfl, rfl⟩
  · cases passes

section Steered

variable {r r' : Replayer} {opening : Nat} {phase : Phase} {demand : Demand Report}
  (gated : Gated opening r phase demand)

include gated

theorem Gated.pause (passes : r.pause = .ok r') : Gated opening r' phase demand := by
  obtain ⟨_, rfl⟩ := pause_ok passes
  exact ⟨by rintro ⟨⟩, fun openings asks => ⟨(gated.waiting openings asks).1, fun _ => rfl⟩, by rintro ⟨⟩⟩

theorem Gated.resume (passes : r.resume = .ok r') : Gated (opening + 1) r' phase demand := by
  obtain ⟨_, rfl⟩ := resume_ok passes
  exact ⟨fun _ _ => Nat.succ_pos _, gated.waiting, by rintro ⟨⟩⟩

/-- Whoever waits at the gate is let on once it has been opened. -/
theorem Gated.waiting_opened (openings : Nat) (asks : demand = .ask (.gate openings)) :
    openings ≤ r.gate.opened.openings ∧ (openings = r.gate.opened.openings → r.gate.opened.isOpen = false) := by
  obtain ⟨early, last⟩ := gated.waiting openings asks
  unfold Gate.opened
  split
  · exact ⟨early, last⟩
  · exact ⟨Nat.le_succ_of_le early, fun same => absurd same (by dsimp only; omega)⟩

theorem Gated.openGate (others : r.status.state ≠ .manualStep) (n : Nat) : Gated n r.openGate phase demand where
  running := fun _ closed => by cases (isOpen_opened r.gate).symm.trans closed
  waiting := gated.waiting_opened
  byHand := fun manual => absurd manual others

theorem Gated.stop : Gated opening r.stop phase demand := by
  unfold Replayer.stop
  split
  · refine ⟨fun _ closed => ?_, gated.waiting_opened, fun manual => ?_⟩
    · cases (isOpen_opened r.gate).symm.trans closed
    · obtain ⟨settled, held, _, _⟩ := gated.byHand manual
      exact ⟨settled, held, fun _ => rfl, fun _ _ closed => by cases (isOpen_opened r.gate).symm.trans closed⟩
  · exact gated

end Steered

end Replayer

namespace Run

/-- What a step of a replay does to the gate: it leaves it as it is and waits at it only if it is closed, or it closes
    it for a step by hand. -/
inductive Passes (r : Replayer) : Transition → Prop
  | leaves {t : Transition} (gate : t.1.gate = r.gate)
      (state : t.1.status.state = r.status.state ∨ t.1.isActive = false)
      (waits : ∀ openings, t.2.2 = .ask (.gate openings) → openings = r.gate.openings ∧ r.gate.isOpen = false) :
      Passes r t
  | closes {t : Transition} (gate : t.1.gate = r.gate.closed) (state : t.1.status.state = .manualStep)
      (phase : t.2.1.phase = .handing) (tells : t.2.2 = .ask .tell) : Passes r t

section Pass

variable {r : Replayer} {run : Run} {w : World} {c : Script.Command} {phase : Phase} {request : Request}

theorem prepare_isWork {step : Except Fault (WaitStep Float)} (next : prepare r c step = .ok (some (phase, request))) :
    request.isWork = true := by
  obtain ⟨_, wanted, _, same⟩ | ⟨_, _, same, begun⟩ := prepare_cases next
  · cases same
    exact request_isWork wanted
  · cases same
    exact (@beginEffect_ok r.wait _ _ _ _ begun).isWork

theorem settle_isWork {step : Except Fault (WaitStep Float)} (next : settle step = .ok (some (phase, request))) :
    request.isWork = true := by
  obtain ⟨_, wanted, _, rfl⟩ := settle_ok next
  exact request_isWork wanted

theorem Passes.tell {run' : Run} {phase : Phase} {r' : Replayer} (gate : r'.gate = r.gate)
    (state : r'.status.state = r.status.state ∨ r'.isActive = false) : Passes r (ask r' run' phase .tell) :=
  .leaves gate state fun _ asks => by cases asks

theorem Passes.work {run' : Run} {r' : Replayer} (gate : r'.gate = r.gate)
    (state : r'.status.state = r.status.state) (work : request.isWork = true) : Passes r (ask r' run' phase request) :=
  .leaves gate (.inl state) fun _ asks => by
    cases asks
    cases work

theorem Passes.finish (run' : Run) (result : Except Fault Report) : Passes r (Run.finish r run' result) :=
  .leaves rfl (.inl rfl) fun _ asks => by cases asks

theorem conclude_passes (stopped : Bool) : Passes r (conclude r run w stopped) := by
  unfold conclude
  split
  · exact .tell rfl (.inr rfl)
  · exact .tell rfl (.inr rfl)

theorem proceed_passes (passed : Bool) (left : List Script.Command) : Passes r (proceed r run w passed left) := by
  induction left generalizing r run passed with
  | nil => exact conclude_passes false
  | cons c rest ih =>
    let r' : Replayer := { r with status := { r.status with currentLine := some c.line } }
    have later (run' : Run) : Passes r (proceed r' run' w false rest) := by
      cases @ih r' run' false with
      | leaves gate state waits => exact .leaves gate state waits
      | closes gate state phase tells => exact .closes gate state phase tells
    rw [proceed]
    split
    · rename_i held
      refine .leaves rfl (.inl rfl) fun openings asks => ?_
      cases asks
      exact ⟨rfl, by simp_all⟩
    · split
      · exact conclude_passes true
      · dsimp only
        split
        · split
          · exact .closes rfl rfl rfl rfl
          · exact later _
        · split
          · rename_i begun
            exact .work rfl rfl (beginCommand_ok begun).isWork
          · exact later _

theorem endCommand_passes (error : Option String) : Passes r (endCommand r run w error) := by
  unfold endCommand
  split
  · exact proceed_passes false _
  · exact conclude_passes false

theorem goOn_passes {next : Except Fault (Option (Phase × Request))}
    (work : ∀ phase request, next = .ok (some (phase, request)) → request.isWork = true) :
    Passes r (goOn r run w next) := by
  unfold goOn
  split
  · exact .work rfl rfl (work _ _ rfl)
  · exact endCommand_passes none
  · exact endCommand_passes _

theorem begin_passes : Passes r (begin r run w) := by
  unfold begin
  split
  · split
    · exact .leaves rfl (.inl rfl) fun _ asks => by cases asks
    · exact proceed_passes false _
  · exact proceed_passes false _

theorem conserve_passes : Passes r (conserve r run) := by
  unfold conserve
  split
  · split
    · exact .leaves rfl (.inl rfl) fun _ asks => by cases asks
    · exact .finish _ _
  · exact .finish _ _

theorem awaitHand_passes : Passes r (awaitHand r run w) := by
  unfold awaitHand
  split
  · split
    · exact proceed_passes false _
    · exact conclude_passes false
  · rename_i closed
    refine .leaves rfl (.inl rfl) fun openings asks => ?_
    cases asks
    exact ⟨rfl, Bool.eq_false_iff.mpr closed⟩

theorem step_passes (reply : Reply) : Passes r (step r run w reply) := by
  unfold step
  split
  · exact begin_passes
  · exact awaitHand_passes
  · exact .finish _ _
  · exact .finish _ _
  · exact conserve_passes
  · split
    · exact .finish _ _
    · exact .finish _ _
  · split
    · exact .tell rfl (.inr rfl)
    · split
      · exact proceed_passes true _
      · exact proceed_passes false _
      · exact goOn_passes fun _ _ next => prepare_isWork next
      · refine goOn_passes fun _ _ next => ?_
        obtain ⟨_, _, next⟩ := bind_ok next
        obtain ⟨_, _, next⟩ := bind_ok next
        exact settle_isWork next
      · exact goOn_passes fun _ _ next => settle_isWork next
      · exact proceed_passes false _

/-- With the gate open a replay that has been asked to stop does not attempt any more. -/
theorem proceed_stops (isOpen : r.gate.isOpen = true) (requested : r.stopRequested = true) (passed : Bool)
    (left : List Script.Command) : ∃ run' stopped, proceed r run w passed left = conclude r run' w stopped := by
  cases left with
  | nil => exact ⟨_, _, rfl⟩
  | cons c rest =>
    refine ⟨{ run with remaining := c :: rest }, true, ?_⟩
    rw [proceed, if_neg (by simp [isOpen]), if_pos requested]

end Pass

end Run

namespace Replayer

variable {cs : List Script.Command} {cancelled : Bool} {r : Replayer} {run : Run} {request : Request} {w : World}

/-- Where a replay has ended the gate does not matter. -/
theorem gated_tell {opening : Nat} {phase : Phase} (ended : r.isActive = false) :
    Gated opening r phase (.ask .tell) where
  running := fun running => by
    rw [isActive, running] at ended
    cases ended
  waiting := by rintro _ ⟨⟩
  byHand := fun manual => by
    rw [isActive, manual] at ended
    cases ended

theorem gated_conclude {opening : Nat} (stopped : Bool) {t : Run.Transition} (ends : t = Run.conclude r run w stopped) :
    Gated opening t.1 t.2.1.phase t.2.2 := by
  subst ends
  unfold Run.conclude
  split
  · exact gated_tell rfl
  · exact gated_tell rfl

theorem gate_of_byHand (stage : Run.Stage cs cancelled r run (.ask request)) (phase : run.phase = .byHand) :
    ∃ openings, request = .gate openings := by
  cases stage with
  | replaying active tallies asks => cases asks <;> simp_all
  | _ => simp_all

/-- During a step by hand nothing but its end or a stop comes next. -/
theorem Gated.step_byHand (gated : Gated 0 r run.phase (.ask request)) (manual : r.status.state = .manualStep)
    (held : run.phase = .byHand → ∃ openings, request = .gate openings) {reply : Reply}
    (fits : request.MayGet r.gate reply) :
    Gated 0 (run.step r w reply).1 (run.step r w reply).2.1.phase (run.step r w reply).2.2 := by
  obtain ⟨_, phases, opens, last⟩ := gated.byHand manual
  rcases phases with phase | phase
  · have awaits : run.step r w reply = Run.awaitHand r run w := by simp [Run.step, phase]
    rw [awaits, Run.awaitHand]
    split
    · rename_i isOpen
      split
      · obtain ⟨run', stopped, ends⟩ := Run.proceed_stops isOpen (opens isOpen) false _
        exact gated_conclude stopped ends
      · exact gated_conclude false rfl
    · rename_i closed
      have closed : r.gate.isOpen = false := Bool.eq_false_iff.mpr closed
      refine ⟨fun running => ?_, fun openings asks => ?_, fun _ => ⟨rfl, .inr rfl, ?_, fun openings asks _ => ?_⟩⟩
      · cases manual.symm.trans running
      · cases asks
        exact ⟨Nat.le_refl _, fun _ => closed⟩
      · intro isOpen
        cases closed.symm.trans isOpen
      · cases asks
        rfl
  · obtain ⟨openings, same⟩ := held phase
    subst same
    rcases fits with cancels | ⟨lets, answer, answered⟩
    · subst cancels
      have cancelled : run.step r w (.error .cancelled) = Run.cancel r run w := by
        simp [Run.step, phase, Run.isCancelled]
      rw [cancelled]
      exact gated_tell rfl
    · subst answered
      have isOpen : r.gate.isOpen = true := by
        refine Bool.not_eq_false _ ▸ fun closed => ?_
        have same := last openings rfl closed
        simp [Gate.lets, same] at lets
      have goesOn : ∃ run' left, run.step r w (.ok answer) = Run.proceed r run' w false left := by
        cases remaining : run.remaining with
        | nil => exact ⟨run, [], by simp [Run.step, phase, Run.isCancelled, remaining]⟩
        | cons c rest => exact ⟨run.noteByHand c, rest, by simp [Run.step, phase, Run.isCancelled, remaining]⟩
      obtain ⟨run', left, goesOn⟩ := goesOn
      obtain ⟨_, stopped, ends⟩ := Run.proceed_stops isOpen (opens isOpen) false left
      exact gated_conclude stopped (goesOn.trans ends)

theorem Gated.step (gated : Gated 0 r run.phase (.ask request)) (stage : Run.Stage cs cancelled r run (.ask request))
    (w : World) {reply : Reply} (fits : request.MayGet r.gate reply) :
    Gated 0 (run.step r w reply).1 (run.step r w reply).2.1.phase (run.step r w reply).2.2 := by
  by_cases manual : r.status.state = .manualStep
  · exact gated.step_byHand manual (gate_of_byHand stage) fits
  · cases @Run.step_passes r run w reply with
    | leaves gate state waits =>
      refine ⟨fun running closed => ?_, fun openings asks => ?_, fun manual' => ?_⟩
      · rcases state with same | ended
        · exact gated.running (same.symm.trans running) (gate ▸ closed)
        · rw [isActive, running] at ended
          cases ended
      · obtain ⟨rfl, closed⟩ := waits openings asks
        rw [gate]
        exact ⟨Nat.le_refl _, fun _ => closed⟩
      · rcases state with same | ended
        · exact absurd (same.symm.trans manual') manual
        · rw [isActive, manual'] at ended
          cases ended
    | closes gate state phase tells =>
      refine ⟨fun running => ?_, fun openings asks => ?_, fun _ => ⟨rfl, .inl phase, ?_, fun openings asks => ?_⟩⟩
      · cases state.symm.trans running
      · cases tells.symm.trans asks
      · rw [gate]
        rintro ⟨⟩
      · cases tells.symm.trans asks

end Replayer

end BrowserFlow
