import BrowserFlow.Proofs.Result
import BrowserFlow.Replay.Run

/-!
All that a replay asks for when nobody interferes and the page does what it is asked: around the effect of each command
what its strategy waits for, and nothing else.
-/

namespace BrowserFlow

/-- The page does what it is asked, and nobody cancels the replay. -/
def Request.Succeeds : Request → Reply → Prop
  | .page (.run (.click _)), reply | .page (.run (.fill ..)), reply | .page (.run (.select ..)), reply =>
    ∃ answer, reply = .ok answer ∧ answer.content.isPresent = true
  | .page (.run (.find _)), reply => ∃ answer, reply = .ok answer ∧ answer.content = .bool true
  | .page (.run .ready), reply => ∃ answer, reply = .ok answer ∧ answer.content = .str "complete"
  | .page _, reply | .sleep _, reply | .gate _, reply => ∃ answer, reply = .ok answer
  | .tell, _ => True
  | .restoreSession _, reply | .saveSession _, reply => reply ≠ .error .cancelled

def Request.page? : Request → Option PageRequest
  | .page request => some request
  | _ => none

/-- A question of a poll; it changes nothing. -/
def PageRequest.isQuestion : PageRequest → Bool
  | .run (.find _) | .run .ready => true
  | _ => false

/-- What a command asks for to take effect, if it can. -/
def Script.Statement.issued? (speed : Value) (s : Script.Statement) : Option Request :=
  match s.effect? speed with
  | .ok request => request
  | .error _ => none

namespace WaitStrategy

def asksBefore (w : WaitStrategy) (s : Script.Statement) : List Request :=
  match w with
  | fixed _ => []
  | polling _ => (Polling.questionBefore? s).toList.map fun script => .page (.run script)
  | own _ => []

def asksAfter (w : WaitStrategy) (s : Script.Statement) : List Request :=
  match w with
  | fixed d =>
    match (d.after s : Except Fault (WaitStep Float)) with
    | .ok (some (_, wanted)) => [Run.request wanted]
    | _ => []
  | polling _ => (Polling.questionAfter? s).toList.map fun script => .page (.run script)
  | own _ => []

/-- A fixed delay, or a poll with a deadline. -/
def Usable : WaitStrategy → Prop
  | fixed _ => True
  | polling p => ∃ length, Value.thousandth p.timeoutMs = .ok length
  | own _ => False

theorem next_asking {w : WaitStrategy} {p : Polling} (strategy : w = polling p) (clock deadline : Float)
    {script : PageScript} {reply : Reply} (question : ∃ s, Polling.questionBefore? s = some script ∨
      Polling.questionAfter? s = some script) (succeeds : (Request.page (.run script)).Succeeds reply) :
    w.next clock (.asking script deadline) reply = .ok none := by
  have satisfied : ∃ answer, reply = .ok answer ∧ Polling.isSatisfied script answer.content = true := by
    obtain ⟨s, before | after⟩ := question
    · cases s <;> cases before
      all_goals
        obtain ⟨answer, rfl, content⟩ := succeeds
        exact ⟨answer, rfl, by rw [content]; rfl⟩
    · cases s <;> cases after
      obtain ⟨answer, rfl, content⟩ := succeeds
      exact ⟨answer, rfl, by rw [content]; rfl⟩
  obtain ⟨answer, rfl, satisfied⟩ := satisfied
  subst strategy
  simp [next, Polling.answered, satisfied]

/-- Before a command a strategy asks for nothing, or for one thing that is given at once. -/
theorem before_cases {w : WaitStrategy} (usable : w.Usable) (clock : Float) (s : Script.Statement) (line : Nat) :
    (w.asksBefore s = [] ∧ w.before clock s line = .ok none) ∨ ∃ waiting wanted, w.asksBefore s = [Run.request wanted] ∧
      w.before clock s line = .ok (some (waiting, wanted)) ∧ ∀ clock reply, (Run.request wanted).Succeeds reply →
        w.next clock waiting reply = .ok none := by
  cases w with
  | fixed d => exact .inl ⟨rfl, rfl⟩
  | polling p =>
    obtain ⟨length, timeout⟩ := usable
    cases question : Polling.questionBefore? s with
    | none => exact .inl ⟨by simp [asksBefore, question], by simp [before, question, Polling.begin]⟩
    | some script =>
      refine .inr ⟨.asking script (clock + length), .run script, by simp [asksBefore, question, Run.request], ?_, ?_⟩
      · simp only [before, question, Polling.begin, Clock.ofMillis, timeout]
        rfl
      · exact fun clock reply succeeds => next_asking rfl clock _ ⟨s, .inl question⟩ succeeds
  | own o => cases usable

/-- After a command as well; a strategy that cannot tell how long to wait does not wait. -/
theorem after_cases {w : WaitStrategy} (usable : w.Usable) (clock : Float) (s : Script.Statement) (line : Nat) :
    (w.asksAfter s = [] ∧ ((∃ fault, w.after clock s line = .error fault) ∨ w.after clock s line = .ok none)) ∨
    ∃ waiting wanted, w.asksAfter s = [Run.request wanted] ∧
      w.after clock s line = .ok (some (waiting, wanted)) ∧ ∀ clock reply, (Run.request wanted).Succeeds reply →
        w.next clock waiting reply = .ok none := by
  cases w with
  | fixed d =>
    cases delay : (d.after s : Except Fault (WaitStep Float)) with
    | error fault => exact .inl ⟨by simp [asksAfter, delay], .inl ⟨fault, delay⟩⟩
    | ok step =>
      cases step with
      | none => exact .inl ⟨by simp [asksAfter, delay], .inr delay⟩
      | some step => exact .inr ⟨step.1, step.2, by simp [asksAfter, delay], delay, fun clock reply _ => rfl⟩
  | polling p =>
    obtain ⟨length, timeout⟩ := usable
    cases question : Polling.questionAfter? s with
    | none => exact .inl ⟨by simp [asksAfter, question], .inr (by simp [after, question, Polling.begin])⟩
    | some script =>
      refine .inr ⟨.asking script (clock + length), .run script, by simp [asksAfter, question, Run.request], ?_, ?_⟩
      · simp only [after, question, Polling.begin, Clock.ofMillis, timeout]
        rfl
      · exact fun clock reply succeeds => next_asking rfl clock _ ⟨s, .inr question⟩ succeeds
  | own o => cases usable

theorem asksBefore_page {w : WaitStrategy} {s : Script.Statement} {p : PageRequest} (asked : .page p ∈ w.asksBefore s) :
    p.isQuestion = true ∧ ∃ poll, w = .polling poll := by
  cases w with
  | fixed d | own o => cases asked
  | polling poll =>
    refine ⟨?_, poll, rfl⟩
    obtain ⟨script, question, same⟩ := List.mem_map.mp asked
    cases same
    cases s <;> cases Option.mem_toList.mp question <;> rfl

theorem asksAfter_page {w : WaitStrategy} {s : Script.Statement} {p : PageRequest} (asked : .page p ∈ w.asksAfter s) :
    p.isQuestion = true ∧ ∃ poll, w = .polling poll := by
  cases w with
  | fixed d =>
    unfold asksAfter at asked
    dsimp only at asked
    split at asked
    · rename_i waiting wanted delay
      obtain ⟨length, _, slept⟩ := bind_ok delay
      obtain ⟨_, _, slept⟩ := Option.bind_eq_some_iff.mp (Except.ok.inj slept)
      split at slept
      · cases slept
        cases List.mem_singleton.mp asked
      · cases slept
    · cases asked
  | own o => cases asked
  | polling poll =>
    refine ⟨?_, poll, rfl⟩
    obtain ⟨script, question, same⟩ := List.mem_map.mp asked
    cases same
    cases s <;> cases Option.mem_toList.mp question
    rfl

end WaitStrategy

def Phase.isActing : Phase → Bool
  | .acting => true
  | _ => false

namespace Run

/-- However long everything takes, a replay asks for exactly these things, and then it ends with its report. What is
    asked for while a command takes effect is marked. -/
inductive Issues : Transition → List (Bool × Request) → Prop
  | finish (r : Replayer) (run : Run) (report : Report) : Issues (r, run, .finish (.ok report)) []
  | ask {r : Replayer} {run : Run} {request : Request} {requests : List (Bool × Request)}
      (next : ∀ w reply, request.Succeeds reply → Issues (step r run w reply) requests) :
      Issues (r, run, .ask request) ((run.phase.isActing, request) :: requests)

def requests (wait : WaitStrategy) (speed : Value) (s : Script.Statement) : List (Bool × Request) :=
  match s.effect? speed with
  | .ok (some effect) =>
    (wait.asksBefore s).map (false, ·) ++ (true, effect) :: (wait.asksAfter s).map (false, ·)
  | _ => []

def opening (r : Replayer) (run : Run) : List (Bool × Request) :=
  if run.restoresSession && r.hasSession then run.domain.toList.map fun domain => (false, .restoreSession domain) else []

def closing (r : Replayer) (run : Run) : List (Bool × Request) :=
  (false, .tell) :: if r.hasSession then run.domain.toList.map fun domain => (false, .saveSession domain) else []

theorem not_cancelled {reply : Reply} (other : reply ≠ .error .cancelled) : isCancelled reply = false := by
  unfold isCancelled
  split
  · exact absurd rfl other
  · rfl

theorem issues_conserve (r : Replayer) (run : Run) : Issues (conserve r run)
    (if r.hasSession then run.domain.toList.map fun domain => (false, .saveSession domain) else []) := by
  unfold conserve
  cases run.domain with
  | none =>
    rw [Option.toList_none, List.map_nil, ite_self]
    exact .finish _ _ _
  | some domain =>
    dsimp only
    split
    · refine .ask fun w reply succeeds => ?_
      have other := not_cancelled succeeds
      simp only [step, other]
      exact .finish _ _ _
    · exact .finish _ _ _

theorem issues_conclude (r : Replayer) (run : Run) (w : World) : Issues (conclude r run w false) (closing r run) := by
  unfold conclude
  exact .ask fun w reply _ => issues_conserve _ _

theorem answered_page {request : PageRequest} {reply : Reply} (succeeds : (Request.page request).Succeeds reply) :
    ∃ answer, reply = .ok answer := by
  unfold Request.Succeeds at succeeds
  split at succeeds
  all_goals first | exact succeeds | exact ⟨_, succeeds.choose_spec.1⟩ | contradiction

theorem answered_wanted {wanted : WaitRequest Float} {reply : Reply} (succeeds : (request wanted).Succeeds reply) :
    ∃ answer, reply = .ok answer := by
  cases wanted with
  | run | call => exact answered_page succeeds
  | sleep length => exact succeeds

theorem step_preparing {r : Replayer} {run : Run} {w : World} {answer : Answer} {waiting : Waiting Float}
    {c : Script.Command} {rest : List Script.Command} (phase : run.phase = .preparing waiting)
    (remaining : run.remaining = c :: rest) : step r run w (.ok answer) =
      goOn r run w (prepare r c (run.wait.next w.clock waiting (.ok answer))) := by
  simp [step, phase, remaining, isCancelled]

theorem step_acting {r : Replayer} {run : Run} {w : World} {answer : Answer} {c : Script.Command}
    {rest : List Script.Command} (phase : run.phase = .acting) (remaining : run.remaining = c :: rest)
    (fits : c.statement.checkAnswer answer = .ok ()) : step r run w (.ok answer) =
      goOn r run w (settle (run.wait.after w.clock c.statement c.line)) := by
  simp only [step, phase, remaining, isCancelled]
  simp [Bind.bind, Except.bind, fits]

theorem step_settling {r : Replayer} {run : Run} {w : World} {answer : Answer} {waiting : Waiting Float}
    (phase : run.phase = .settling waiting) : step r run w (.ok answer) =
      goOn r run w (settle (run.wait.next w.clock waiting (.ok answer))) := by
  simp [step, phase, isCancelled]

theorem effect_succeeds {s : Script.Statement} {speed : Value} {effect : Request}
    (acts : s.effect? speed = .ok (some effect)) {reply : Reply} (succeeds : effect.Succeeds reply) :
    ∃ answer, reply = .ok answer ∧ s.checkAnswer answer = .ok () := by
  cases s with
  | click selector =>
    cases acts
    obtain ⟨answer, rfl, filled⟩ := succeeds
    exact ⟨answer, rfl, if_pos filled⟩
  | fill selector value =>
    cases acts
    obtain ⟨answer, rfl, filled⟩ := succeeds
    exact ⟨answer, rfl, if_pos filled⟩
  | select selector value =>
    cases acts
    obtain ⟨answer, rfl, filled⟩ := succeeds
    exact ⟨answer, rfl, if_pos filled⟩
  | navigate url =>
    cases acts
    obtain ⟨answer, rfl⟩ := answered_page succeeds
    exact ⟨answer, rfl, rfl⟩
  | keyPress key =>
    cases acts
    obtain ⟨answer, rfl⟩ := answered_page succeeds
    exact ⟨answer, rfl, rfl⟩
  | scroll x y =>
    obtain ⟨_, _, acts⟩ := bind_ok acts
    obtain ⟨_, _, acts⟩ := bind_ok acts
    cases acts
    obtain ⟨answer, rfl⟩ := answered_page succeeds
    exact ⟨answer, rfl, rfl⟩
  | wait ms =>
    obtain ⟨_, _, acts⟩ := bind_ok acts
    obtain ⟨_, _, acts⟩ := bind_ok acts
    obtain ⟨_, _, acts⟩ := bind_ok acts
    cases acts
    obtain ⟨answer, rfl⟩ := succeeds
    exact ⟨answer, rfl, rfl⟩
  | manualStep description => cases acts

section Command

variable {r : Replayer} {run : Run} {c : Script.Command} {rest : List Script.Command}
  {requests : List (Bool × Request)} (remaining : run.remaining = c :: rest) (usable : run.wait.Usable)
  (next : ∀ run' w', run'.wait = run.wait → run'.domain = run.domain → Issues (proceed r run' w' false rest) requests)

include remaining next

theorem issues_endCommand (w : World) (error : Option String) : Issues (endCommand r run w error) requests := by
  simp only [endCommand, remaining]
  exact next _ _ rfl rfl

include usable

theorem issues_settle (w : World) : Issues (goOn r run w (settle (run.wait.after w.clock c.statement c.line)))
    ((run.wait.asksAfter c.statement).map (false, ·) ++ requests) := by
  rcases WaitStrategy.after_cases usable w.clock c.statement c.line with
    ⟨none, ⟨fault, failed⟩ | ended⟩ | ⟨waiting, wanted, asks, begun, ended⟩
  · rw [none, failed]
    exact issues_endCommand remaining next w _
  · rw [none, ended]
    exact issues_endCommand remaining next w _
  · rw [asks, begun]
    refine .ask fun w' reply succeeds => ?_
    obtain ⟨answer, rfl⟩ := answered_wanted succeeds
    rw [step_settling rfl]
    dsimp only
    rw [ended w'.clock _ succeeds]
    exact @issues_endCommand r { run with phase := .settling waiting } c rest requests remaining next w' none

theorem issues_effect {effect : Request} (acts : c.statement.effect? r.speed = .ok (some effect)) :
    Issues (ask r run .acting effect)
      ((true, effect) :: ((run.wait.asksAfter c.statement).map (false, ·) ++ requests)) := by
  refine .ask fun w reply succeeds => ?_
  obtain ⟨answer, rfl, fits⟩ := effect_succeeds acts succeeds
  rw [@step_acting r { run with phase := .acting } w answer c rest rfl remaining fits]
  exact @issues_settle r { run with phase := .acting } c rest requests remaining usable next w

theorem issues_command {effect : Request} (acts : c.statement.effect? r.speed = .ok (some effect)) (w : World) :
    ∃ phase request, beginCommand r run w c = .ok (phase, request) ∧
      Issues (ask r run phase request) (Run.requests run.wait r.speed c.statement ++ requests) := by
  have begun : beginEffect r c = .ok (.acting, effect) := by
    rw [beginEffect, acts]
    rfl
  have whole : Run.requests run.wait r.speed c.statement ++ requests =
      (run.wait.asksBefore c.statement).map (false, ·) ++
        (true, effect) :: ((run.wait.asksAfter c.statement).map (false, ·) ++ requests) := by
    simp [Run.requests, acts]
  rw [whole]
  rcases WaitStrategy.before_cases usable w.clock c.statement c.line with ⟨none, ended⟩ | ⟨waiting, wanted, asks, started, ended⟩
  · refine ⟨.acting, effect, ?_, ?_⟩
    · rw [beginCommand, ended]
      exact begun
    · rw [none]
      exact issues_effect remaining usable next acts
  · refine ⟨.preparing waiting, request wanted, ?_, ?_⟩
    · rw [beginCommand, started]
      rfl
    · rw [asks]
      refine .ask fun w' reply succeeds => ?_
      obtain ⟨answer, rfl⟩ := answered_wanted succeeds
      rw [@step_preparing r { run with phase := .preparing waiting } w' answer waiting c rest rfl remaining]
      dsimp only
      rw [ended w'.clock _ succeeds, prepare]
      simp only [Bind.bind, Except.bind, begun]
      exact @issues_effect r { run with phase := .preparing waiting } c rest requests remaining usable next effect acts

end Command

/-- Nobody holds up or stops the replay, not even a step by hand. -/
structure Unattended (r : Replayer) : Prop where
  isOpen : r.gate.isOpen = true
  goesOn : r.stopRequested = false
  skips : r.pausesOnManualStep = false

def Effective (speed : Value) (cs : List Script.Command) : Prop :=
  ∀ c ∈ cs, c.statement.isExecutable = true → ∃ effect, c.statement.effect? speed = .ok (some effect)

theorem issues_proceed {r : Replayer} {run : Run} {cs : List Script.Command} (unattended : Unattended r)
    (usable : run.wait.Usable) (effective : Effective r.speed cs) (w : World) : Issues (proceed r run w false cs)
      (cs.flatMap (fun c => requests run.wait r.speed c.statement) ++ closing r run) := by
  induction cs generalizing r run w with
  | nil =>
    rw [proceed]
    exact issues_conclude _ _ _
  | cons c cs ih =>
    have later : Effective r.speed cs := fun d member => effective d (List.mem_cons_of_mem _ member)
    let r' : Replayer := { r with status := { r.status with currentLine := some c.line } }
    have same : Unattended r' := ⟨unattended.isOpen, unattended.goesOn, unattended.skips⟩
    have next (run' : Run) (w' : World) (wait : run'.wait = run.wait) (domain : run'.domain = run.domain) :
        Issues (proceed r' run' w' false cs)
          (cs.flatMap (fun c => requests run.wait r.speed c.statement) ++ closing r run) := by
      have rest := @ih r' run' same (by rw [wait]; exact usable) later w'
      simpa [wait, closing, domain, r'] using rest
    have passes : ¬ (!false && !r.gate.isOpen) = true := by simp [unattended.isOpen]
    have goesOn : ¬ r.stopRequested = true := by simp [unattended.goesOn]
    rw [List.flatMap_cons, List.append_assoc, proceed, if_neg passes, if_neg goesOn]
    dsimp only
    split
    · rename_i description byHand
      have none : requests run.wait r.speed c.statement = [] := by rw [byHand]; rfl
      have skips : ¬ r.pausesOnManualStep = true := by simp [unattended.skips]
      rw [none, if_neg skips]
      exact next _ w rfl rfl
    · rename_i other
      have executable : c.statement.isExecutable = true := by
        cases statement : c.statement with
        | manualStep description => exact absurd statement (other description)
        | _ => rfl
      obtain ⟨effect, acts⟩ := effective c (by simp) executable
      obtain ⟨phase, request, begun, issues⟩ :=
        @issues_command r' { run with commandStart := w.clock, remaining := c :: cs } c cs _ rfl usable next effect acts w
      have begun : beginCommand r' { run with commandStart := w.clock } w c = .ok (phase, request) := begun
      rw [begun]
      exact issues

def allRequests (r : Replayer) (run : Run) : List (Bool × Request) :=
  opening r run ++ run.remaining.flatMap (fun c => requests run.wait r.speed c.statement) ++ closing r run

theorem issues_begin {r : Replayer} {run : Run} (unattended : Unattended r) (usable : run.wait.Usable)
    (effective : Effective r.speed run.remaining) (w : World) : Issues (begin r run w) (allRequests r run) := by
  have commands (run' : Run) (w' : World) (wait : run'.wait = run.wait) (domain : run'.domain = run.domain) :
      Issues (proceed r run' w' false run.remaining)
        (run.remaining.flatMap (fun c => requests run.wait r.speed c.statement) ++ closing r run) := by
    have rest := @issues_proceed r run' _ unattended (by rw [wait]; exact usable) effective w'
    simpa [wait, closing, domain] using rest
  unfold begin allRequests opening
  cases site : run.domain with
  | none =>
    rw [Option.toList_none, List.map_nil, ite_self]
    exact commands run w rfl rfl
  | some domain =>
    dsimp only
    split
    · refine .ask fun w' reply succeeds => ?_
      have other := not_cancelled succeeds
      have begun : step r { run with phase := .restoring } w' reply =
          proceed r { run with phase := .restoring } w' false run.remaining := by
        simp [step, other]
      have rest := commands { run with phase := .restoring } w' rfl rfl
      rw [site] at *
      rw [begun]
      exact rest
    · exact commands run w rfl rfl

theorem issues_announcing {r : Replayer} {run : Run} (phase : run.phase = .announcing) (unattended : Unattended r)
    (usable : run.wait.Usable) (effective : Effective r.speed run.remaining) :
    Issues (r, run, .ask .tell) ((false, .tell) :: allRequests r run) := by
  have asked := @Issues.ask r run .tell (allRequests r run) fun w reply _ => by
    have begun : step r run w reply = begin r run w := by simp [step, phase]
    rw [begun]
    exact issues_begin unattended usable effective w
  rwa [phase] at asked

def effects (requests : List (Bool × Request)) : List Request :=
  requests.filterMap fun (acting, request) => if acting then some request else none

def pageRequests (requests : List (Bool × Request)) : List PageRequest :=
  requests.filterMap fun (_, request) => request.page?

theorem effects_acting (request : Request) (requests : List (Bool × Request)) :
    effects ((true, request) :: requests) = request :: effects requests := rfl

theorem effects_waiting (request : Request) (requests : List (Bool × Request)) :
    effects ((false, request) :: requests) = effects requests := rfl

theorem pageRequests_cons (acting : Bool) (request : Request) (requests : List (Bool × Request)) :
    pageRequests ((acting, request) :: requests) =
      match request.page? with
      | none => pageRequests requests
      | some p => p :: pageRequests requests := by
  rw [pageRequests, List.filterMap_cons]
  dsimp only
  cases request.page? <;> rfl

theorem effects_append (first second : List (Bool × Request)) :
    effects (first ++ second) = effects first ++ effects second := List.filterMap_append

theorem effects_aside (asked : List Request) : effects (asked.map (false, ·)) = [] := by
  induction asked with
  | nil => rfl
  | cons request asked ih => exact ih

theorem opening_cases (r : Replayer) (run : Run) :
    opening r run = [] ∨ ∃ domain, opening r run = [(false, .restoreSession domain)] := by
  unfold opening
  split
  · cases run.domain with
    | none => exact .inl rfl
    | some domain => exact .inr ⟨domain, rfl⟩
  · exact .inl rfl

theorem closing_cases (r : Replayer) (run : Run) :
    closing r run = [(false, .tell)] ∨ ∃ domain, closing r run = [(false, .tell), (false, .saveSession domain)] := by
  unfold closing
  split
  · cases run.domain with
    | none => exact .inl rfl
    | some domain => exact .inr ⟨domain, rfl⟩
  · exact .inl rfl

theorem effects_requests (wait : WaitStrategy) (speed : Value) (s : Script.Statement) :
    effects (Run.requests wait speed s) = (s.issued? speed).toList := by
  unfold Run.requests Script.Statement.issued?
  split
  · rename_i effect acts
    rw [effects_append, effects_aside, acts, List.nil_append]
    exact congrArg (effect :: ·) (effects_aside _)
  · rename_i other
    split
    · rename_i request acts
      cases request with
      | none => rfl
      | some effect => exact absurd acts (other effect)
    · rfl

theorem effects_commands (wait : WaitStrategy) (speed : Value) (cs : List Script.Command) :
    effects (cs.flatMap fun c => Run.requests wait speed c.statement) =
      (cs.map (·.statement)).filterMap (·.issued? speed) := by
  induction cs with
  | nil => rfl
  | cons c cs ih =>
    rw [List.flatMap_cons, effects_append, effects_requests, ih, List.map_cons, List.filterMap_cons]
    cases c.statement.issued? speed <;> rfl

theorem effects_allRequests (r : Replayer) (run : Run) : effects (allRequests r run) =
    (run.remaining.map (·.statement)).filterMap (·.issued? r.speed) := by
  have opened : effects (opening r run) = [] := by
    rcases opening_cases r run with none | ⟨domain, some⟩
    · rw [none]
      rfl
    · rw [some]
      rfl
  have closed : effects (closing r run) = [] := by
    rcases closing_cases r run with none | ⟨domain, some⟩
    · rw [none]
      rfl
    · rw [some]
      rfl
  rw [allRequests, effects_append, effects_append, opened, closed, List.nil_append, List.append_nil, effects_commands]

theorem questions_requests {wait : WaitStrategy} {speed : Value} {s : Script.Statement} {p : PageRequest}
    (asked : (false, .page p) ∈ Run.requests wait speed s) : p.isQuestion = true ∧ ∃ poll, wait = .polling poll := by
  unfold Run.requests at asked
  split at asked
  · rcases List.mem_append.mp asked with asked | asked
    · obtain ⟨request, before, same⟩ := List.mem_map.mp asked
      cases same
      exact WaitStrategy.asksBefore_page before
    · rcases List.mem_cons.mp asked with same | asked
      · cases same
      · obtain ⟨request, after, same⟩ := List.mem_map.mp asked
        cases same
        exact WaitStrategy.asksAfter_page after
  · cases asked

/-- Besides the effects the page is only asked the questions of a poll. -/
theorem questions_allRequests {r : Replayer} {run : Run} {p : PageRequest}
    (asked : (false, .page p) ∈ allRequests r run) : p.isQuestion = true ∧ ∃ poll, run.wait = .polling poll := by
  rcases List.mem_append.mp asked with asked | asked
  · rcases List.mem_append.mp asked with asked | asked
    · rcases opening_cases r run with none | ⟨domain, some⟩
      · simp [none] at asked
      · simp [some] at asked
    · obtain ⟨c, _, asked⟩ := List.mem_flatMap.mp asked
      exact questions_requests asked
  · rcases closing_cases r run with none | ⟨domain, some⟩
    · simp [none] at asked
    · simp [some] at asked

theorem pageRequests_effects {requests : List (Bool × Request)} (silent : ∀ p, (false, .page p) ∉ requests) :
    pageRequests requests = (effects requests).filterMap Request.page? := by
  induction requests with
  | nil => rfl
  | cons marked requests ih =>
    have later := ih fun p member => silent p (List.mem_cons_of_mem _ member)
    obtain ⟨acting, request⟩ := marked
    have other : acting = false → request.page? = none := by
      rintro rfl
      cases request with
      | page p => exact absurd List.mem_cons_self (silent p)
      | _ => rfl
    cases acting with
    | true =>
      rw [pageRequests_cons, later, effects_acting, List.filterMap_cons]
      cases request.page? <;> rfl
    | false => rw [pageRequests_cons, later, effects_waiting, other rfl]

end Run

end BrowserFlow
