import BrowserFlow.Proofs.Replay.Requests

/-!
What attempting a command comes to. It takes effect, or something keeps it from that: the wait before it or what it
says itself.
-/

namespace BrowserFlow

/-- The page or a sleep; nothing of the replay's own. -/
def Request.isWork : Request → Bool
  | .page _ | .sleep _ => true
  | _ => false

/-- What the wait before a command can come to, whatever is answered meanwhile. -/
inductive WaitStrategy.Prepares (wait : WaitStrategy) (c : Script.Command) : Except Fault (WaitStep Float) → Prop
  | begin (clock : Float) : Prepares wait c (wait.before clock c.statement c.line)
  | next {waiting : Waiting Float} {wanted : WaitRequest Float}
      (earlier : Prepares wait c (.ok (some (waiting, wanted)))) (clock : Float) (reply : Reply) : Prepares wait c (wait.next clock waiting reply)

namespace Script

/-- Only a step by hand has no effect; all others are those of the page, or sleeps. -/
theorem Statement.effect?_cases {s : Statement} {speed : Value} {effect : Option Request}
    (acts : s.effect? speed = .ok effect) :
    (effect = none ∧ s.isExecutable = false) ∨ ∃ request, effect = some request ∧ request.isWork = true := by
  cases s with
  | manualStep description =>
    cases acts
    exact .inl ⟨rfl, rfl⟩
  | scroll x y =>
    obtain ⟨_, _, acts⟩ := bind_ok acts
    obtain ⟨_, _, acts⟩ := bind_ok acts
    cases acts
    exact .inr ⟨_, rfl, rfl⟩
  | wait ms =>
    obtain ⟨_, _, acts⟩ := bind_ok acts
    obtain ⟨_, _, acts⟩ := bind_ok acts
    obtain ⟨_, _, acts⟩ := bind_ok acts
    cases acts
    exact .inr ⟨_, rfl, rfl⟩
  | _ =>
    cases acts
    exact .inr ⟨_, rfl, rfl⟩

/-- A fault keeps a command from taking effect. -/
def Command.Hindered (wait : WaitStrategy) (speed : Value) (c : Command) (fault : Fault) : Prop :=
  wait.Prepares c (.error fault) ∨ c.statement.effect? speed = .error fault

end Script

namespace Run

/-- What can be asked for once a command has been begun, until it takes effect. -/
inductive Begins (wait : WaitStrategy) (speed : Value) (c : Script.Command) : Phase → Request → Prop
  | preparing {waiting : Waiting Float} {wanted : WaitRequest Float}
      (prepares : wait.Prepares c (.ok (some (waiting, wanted)))) :
      Begins wait speed c (.preparing waiting) (request wanted)
  | acting {request : Request} (acts : c.statement.effect? speed = .ok (some request)) :
      Begins wait speed c .acting request
  | nothing (byHand : c.statement.isExecutable = false) : Begins wait speed c .acting (.sleep 0.0)

variable {wait : WaitStrategy} {r : Replayer} {c : Script.Command} {phase : Phase} {request : Request} {fault : Fault}

theorem request_isWork (wanted : WaitRequest Float) : (Run.request wanted).isWork = true := by
  cases wanted <;> rfl

theorem Begins.isWork {speed : Value} (begins : Begins wait speed c phase request) : request.isWork = true := by
  cases begins with
  | preparing => exact request_isWork _
  | nothing => rfl
  | acting acts =>
    obtain ⟨none, _⟩ | ⟨_, same, work⟩ := Script.Statement.effect?_cases acts
    · cases none
    · cases same
      exact work

theorem beginEffect_ok (begun : beginEffect r c = .ok (phase, request)) : Begins wait r.speed c phase request := by
  obtain ⟨effect, acts, begun⟩ := bind_ok begun
  cases effect with
  | some effect =>
    cases begun
    exact .acting acts
  | none =>
    cases begun
    obtain ⟨_, byHand⟩ | ⟨_, same, _⟩ := Script.Statement.effect?_cases acts
    · exact .nothing byHand
    · cases same

theorem beginEffect_error (failed : beginEffect r c = .error fault) : c.Hindered wait r.speed fault := by
  obtain failed | ⟨effect, _, failed⟩ := bind_error failed
  · exact .inr failed
  · cases effect <;> cases failed

variable {step : Except Fault (WaitStep Float)}

/-- While a command waits, its wait asks for more or it begins to take effect. -/
theorem prepare_cases {next : Option (Phase × Request)} (goesOn : prepare r c step = .ok next) :
    (∃ waiting wanted, step = .ok (some (waiting, wanted)) ∧ next = some (.preparing waiting, Run.request wanted)) ∨
    ∃ phase request, next = some (phase, request) ∧ beginEffect r c = .ok (phase, request) := by
  obtain ⟨asks, waits, goesOn⟩ := bind_ok goesOn
  cases asks with
  | none =>
    obtain ⟨begun, acts, same⟩ := bind_ok goesOn
    cases same
    exact .inr ⟨_, _, rfl, acts⟩
  | some asks =>
    cases goesOn
    exact .inl ⟨_, _, waits, rfl⟩

section Preparing

variable (prepares : wait.Prepares c step)

include prepares

theorem prepare_ok {next : Option (Phase × Request)} (goesOn : prepare r c step = .ok next) :
    ∃ phase request, next = some (phase, request) ∧ Begins wait r.speed c phase request := by
  obtain ⟨_, _, rfl, rfl⟩ | ⟨_, _, rfl, begun⟩ := prepare_cases goesOn
  · exact ⟨_, _, rfl, .preparing prepares⟩
  · exact ⟨_, _, rfl, beginEffect_ok begun⟩

theorem prepare_error (failed : prepare r c step = .error fault) : c.Hindered wait r.speed fault := by
  obtain failed | ⟨step, _, failed⟩ := bind_error failed
  · exact .inl (failed ▸ prepares)
  · cases step with
    | some step => cases failed
    | none =>
      obtain failed | ⟨_, _, failed⟩ := bind_error failed
      · exact beginEffect_error failed
      · cases failed

end Preparing

theorem beginCommand_ok {run : Run} {w : World} (begun : beginCommand r run w c = .ok (phase, request)) :
    Begins run.wait r.speed c phase request := by
  obtain ⟨step, waits, begun⟩ := bind_ok begun
  cases step with
  | none => exact beginEffect_ok begun
  | some step =>
    cases begun
    exact .preparing (waits ▸ .begin w.clock)

theorem beginCommand_error {run : Run} {w : World} (failed : beginCommand r run w c = .error fault) :
    c.Hindered run.wait r.speed fault := by
  obtain failed | ⟨step, _, failed⟩ := bind_error failed
  · exact .inl (failed ▸ .begin w.clock)
  · cases step with
    | some step => cases failed
    | none => exact beginEffect_error failed

/-- Once a command has taken effect, only its wait can ask for more. -/
theorem settle_ok (next : settle step = .ok (some (phase, request))) :
    ∃ waiting wanted, phase = .settling waiting ∧ request = Run.request wanted := by
  obtain ⟨step, _, next⟩ := bind_ok next
  cases step with
  | none => cases next
  | some step =>
    cases next
    exact ⟨_, _, rfl, rfl⟩

end Run

end BrowserFlow
