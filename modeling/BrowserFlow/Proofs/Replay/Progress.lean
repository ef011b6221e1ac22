import BrowserFlow.Proofs.Replay.Attempt
import Mathlib.Data.List.Infix

/-!
The progress of a replay. Results only get more, a fault in a command becomes its result at once, and the opening is
left after the start has been told and the session restored.
-/

namespace BrowserFlow

/-- No command has been reached. -/
def Phase.isOpening : Phase → Bool
  | .announcing | .restoring => true
  | _ => false

namespace Run

theorem results_conclude (r : Replayer) (run : Run) (w : World) (stopped : Bool) :
    (conclude r run w stopped).2.1.report.results = run.report.results := by
  unfold conclude
  split <;> rfl

theorem results_proceed (r : Replayer) (run : Run) (w : World) (passed : Bool) (left : List Script.Command) :
    run.report.results <+: (proceed r run w passed left).2.1.report.results := by
  induction left generalizing r run passed with
  | nil =>
    rw [proceed, results_conclude]
  | cons c rest ih =>
    have later (r' : Replayer) (run' : Run) (result : CommandResult) (added : run'.report = run.report.add result) :
        run.report.results <+: (proceed r' run' w false rest).2.1.report.results := by
      refine List.IsPrefix.trans ?_ (ih r' run' false)
      rw [added]
      exact List.prefix_append _ _
    rw [proceed]
    split
    · exact List.prefix_refl _
    · split
      · rw [results_conclude]
      · dsimp only
        split
        · split
          · exact List.prefix_refl _
          · exact later _ (run.noteByHand c) _ rfl
        · split
          · exact List.prefix_refl _
          · rename_i fault _
            exact later _ ({ run with commandStart := w.clock }.note w c (some fault.text)) _ rfl

variable {r : Replayer} {run : Run} {w : World} {reply : Reply} {c : Script.Command} {fault : Fault}

/-- What a command waits for, or what it does, comes to a fault: before it takes effect, while it does or after that. -/
inductive Fails (r : Replayer) (run : Run) (w : World) (reply : Reply) (c : Script.Command) (fault : Fault) : Prop
  | before {waiting : Waiting Float} (phase : run.phase = .preparing waiting)
      (fails : prepare r c (run.wait.next w.clock waiting reply) = .error fault)
  | effect (phase : run.phase = .acting) (fails : (reply >>= c.statement.checkAnswer) = .error fault)
  | after (phase : run.phase = .acting) (fits : (reply >>= c.statement.checkAnswer) = .ok ())
      (fails : run.wait.after w.clock c.statement c.line = .error fault)
  | settling {waiting : Waiting Float} (phase : run.phase = .settling waiting)
      (fails : run.wait.next w.clock waiting reply = .error fault)

/-- The command gets its result in the same step, and the fault is told in it. -/
theorem Fails.result {rest : List Script.Command} (fails : Fails r run w reply c fault)
    (remaining : run.remaining = c :: rest) (going : isCancelled reply = false) : ∃ tenths,
      run.report.results ++ [⟨c, false, tenths, some fault.text⟩] <+: (step r run w reply).2.1.report.results := by
  suffices ends : step r run w reply = goOn r run w (.error fault) by
    have noted : goOn r run w (.error fault) = proceed r (run.note w c (some fault.text)) w false rest := by
      simp only [goOn, endCommand, remaining]
    rw [ends, noted]
    exact ⟨_, results_proceed r (run.note w c (some fault.text)) w false rest⟩
  cases fails with
  | before phase fails => simp [step, phase, remaining, going, fails]
  | @settling waiting phase fails =>
    have ends : settle (run.wait.next w.clock waiting reply) = .error fault := by
      rw [fails]
      rfl
    simp [step, phase, going, ends]
  | effect phase fails =>
    cases reply with
    | error other =>
      cases fails
      simp [step, phase, remaining, going, Bind.bind, Except.bind]
    | ok answer =>
      have fails : c.statement.checkAnswer answer = .error fault := fails
      simp [step, phase, remaining, going, Bind.bind, Except.bind, fails]
  | after phase fits fails =>
    cases reply with
    | error other => cases fits
    | ok answer =>
      have fits : c.statement.checkAnswer answer = .ok () := fits
      simp [step, phase, remaining, going, Bind.bind, Except.bind, fits, settle, fails]

section Opening

theorem opened_conclude (r : Replayer) (run : Run) (w : World) (stopped : Bool) :
    (conclude r run w stopped).2.1.phase.isOpening = false := by
  unfold conclude
  split <;> rfl

theorem Begins.opened {wait : WaitStrategy} {speed : Value} {phase : Phase} {request : Request}
    (begins : Begins wait speed c phase request) : phase.isOpening = false := by
  cases begins <;> rfl

theorem opened_proceed (r : Replayer) (run : Run) (w : World) (passed : Bool) (left : List Script.Command) :
    (proceed r run w passed left).2.1.phase.isOpening = false := by
  induction left generalizing r run passed with
  | nil => exact opened_conclude _ _ _ _
  | cons c rest ih =>
    rw [proceed]
    split
    · rfl
    · split
      · exact opened_conclude _ _ _ _
      · dsimp only
        split
        · split
          · rfl
          · exact ih _ _ _
        · split
          · rename_i begun
            exact (beginCommand_ok begun).opened
          · exact ih _ _ _

theorem opened_goOn {next : Except Fault (Option (Phase × Request))}
    (opened : ∀ phase request, next = .ok (some (phase, request)) → phase.isOpening = false) :
    (goOn r run w next).2.1.phase.isOpening = false := by
  have ends (error : Option String) : (endCommand r run w error).2.1.phase.isOpening = false := by
    unfold endCommand
    split
    · exact opened_proceed _ _ _ _ _
    · exact opened_conclude _ _ _ _
  unfold goOn
  split
  · exact opened _ _ rfl
  · exact ends none
  · exact ends _

theorem opened_prepare {step : Except Fault (WaitStep Float)} {phase : Phase} {request : Request}
    (next : prepare r c step = .ok (some (phase, request))) : phase.isOpening = false := by
  obtain ⟨_, _, _, same⟩ | ⟨_, _, same, begun⟩ := prepare_cases next
  · cases same
    rfl
  · cases same
    exact (@beginEffect_ok r.wait _ _ _ _ begun).opened

theorem opened_settle {step : Except Fault (WaitStep Float)} {phase : Phase} {request : Request}
    (next : settle step = .ok (some (phase, request))) : phase.isOpening = false := by
  obtain ⟨_, _, rfl, _⟩ := settle_ok next
  rfl

theorem begin_opened (r : Replayer) (run : Run) (w : World) :
    (begin r run w).2.1.phase = .restoring ∨ (begin r run w).2.1.phase.isOpening = false := by
  unfold begin
  split
  · split
    · exact .inl rfl
    · exact .inr (opened_proceed _ _ _ _ _)
  · exact .inr (opened_proceed _ _ _ _ _)

/-- Once the start has been told, no step leads back to the opening. -/
theorem opened_step (begun : run.phase ≠ .announcing) : (step r run w reply).2.1.phase.isOpening = false := by
  unfold step
  split
  · exact absurd ‹_› begun
  · unfold awaitHand
    split
    · split
      · exact opened_proceed _ _ _ _ _
      · exact opened_conclude _ _ _ _
    · rfl
  -- a replay that ends keeps its last phase
  · exact congrArg Phase.isOpening ‹_›
  · exact congrArg Phase.isOpening ‹_›
  · unfold conserve
    split
    · split
      · rfl
      · exact congrArg Phase.isOpening ‹_›
    · exact congrArg Phase.isOpening ‹_›
  · split
    · exact congrArg Phase.isOpening ‹_›
    · exact congrArg Phase.isOpening ‹_›
  · split
    · rfl
    · split
      · exact opened_proceed _ _ _ _ _
      · exact opened_proceed _ _ _ _ _
      · exact opened_goOn fun _ _ next => opened_prepare next
      · refine opened_goOn fun _ _ next => ?_
        obtain ⟨_, _, next⟩ := bind_ok next
        obtain ⟨_, _, next⟩ := bind_ok next
        exact opened_settle next
      · exact opened_goOn fun _ _ next => opened_settle next
      · exact opened_proceed _ _ _ _ _

end Opening

end Run

end BrowserFlow
