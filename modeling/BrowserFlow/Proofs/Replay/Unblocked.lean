import BrowserFlow.Proofs.Replay.Stop

/-!
Stops that are not blocked. As long as no pause in time follows, a replay that has been asked to stop is let on wherever
it waits at the gate, and its next checkpoint is its last. A pause in time holds it there, stop or no stop.
-/

namespace BrowserFlow.Replayer.Course

/-- The replay has been asked to stop, and nothing is in its way while it is active. -/
structure IsFree (c : Course) : Prop where
  requested : c.replayer.stopRequested = true
  passes : c.replayer.isActive = true → c.replayer.gate.isOpen = true ∨ c.IsLate

/-- Who waits at the gate is let on, and at the next checkpoint the replay is no longer active. -/
structure Unblocked (c : Course) : Prop where
  lets : c.opening = 0 → ∀ openings, c.demand = .ask (.gate openings) → c.replayer.gate.lets openings = true
  /-- before that the observer is told, the command in flight goes on or the session is restored -/
  leaves : ∀ d, Runs c d → d.replayer.isActive = true → d.run = c.run ∨
    (c.run.phase.isInFlight = true ∧ d.run.phase.isInFlight = true ∧ d.run = { c.run with phase := d.run.phase }) ∨
    (c.run.phase = .announcing ∧ d.run.phase = .restoring)

/-- It goes on with the command in flight, if there is one, but is held before the next one for good. -/
structure IsStuck (c : Course) : Prop where
  goesOn : c.replayer.isActive = true ∨ c.replayer.status.state = .completed
  closed : c.replayer.gate.isOpen = false
  held : c.run.phase = .blocked → ∀ d, ¬ Runs c d

variable {cs : List Script.Command} {wait : WaitStrategy} {speed : Value} {c d : Course} {r q : Replayer}

theorem stop_isOpen (active : r.isActive = true) : r.stop.gate.isOpen = true := by
  rw [stop_active active]
  exact isOpen_opened r.gate

theorem stop_free (active : c.replayer.isActive = true) : IsFree { c with replayer := c.replayer.stop } :=
  ⟨congrArg stopRequested (stop_active active), fun _ => .inl (stop_isOpen active)⟩

/-- As long as nobody pauses it, the gate stays open. -/
theorem isOpen_move (requested : c.replayer.stopRequested = true) (isOpen : c.replayer.gate.isOpen = true)
    (move : PausesIf (fun _ => False) c d) : d.replayer.stopRequested = true ∧ d.replayer.gate.isOpen = true := by
  obtain ⟨move, unpaused⟩ := move
  cases move with
  | pause passes =>
    obtain ⟨running, rfl⟩ := pause_ok passes
    obtain paused | no := unpaused rfl
    · cases running.symm.trans paused
    · exact no.elim
  | resume passes =>
    obtain ⟨_, rfl⟩ := resume_ok passes
    exact ⟨requested, isOpen⟩
  | opened => exact ⟨requested, isOpen_opened _⟩
  | stop =>
    refine ⟨(stop_steers _).requested requested, ?_⟩
    unfold Replayer.stop
    split
    · exact isOpen_opened _
    · exact isOpen
  | @reply request waits settled w reply fits =>
    have halts := (Run.step_turn c.replayer c.run w reply).halts requested
    exact ⟨halts.requested, (congrArg Gate.isOpen halts.gate).trans isOpen⟩

/-- A replay that has ended does not become active again. -/
theorem Sound.active_of_step (sound : Sound cs wait speed c) {request : Request} (waits : c.demand = .ask request)
    {w : World} {reply : Reply} (active : (c.run.step c.replayer w reply).1.isActive = true) :
    c.replayer.isActive = true := by
  have stage := sound.stage
  rw [waits] at stage
  cases ended : c.replayer.isActive with
  | true => rfl
  | false =>
    rw [(Run.step_turn c.replayer c.run w reply).kept (stage.ending ended), ended] at active
    cases active

theorem IsFree.move (free : c.IsFree) (sound : Sound cs wait speed c) (move : PausesIf IsLate c d) : d.IsFree := by
  obtain ⟨move, late⟩ := move
  cases move with
  | pause passes =>
    refine ⟨(pause_steers passes).requested free.requested, fun _ => .inr ?_⟩
    obtain ⟨running, rfl⟩ := pause_ok passes
    obtain paused | late := late rfl
    · cases running.symm.trans paused
    · exact late
  | resume passes => exact ⟨(resume_steers passes).requested free.requested, fun _ => .inr (.inl (Nat.succ_pos _))⟩
  | opened => exact ⟨free.requested, fun _ => .inl (isOpen_opened _)⟩
  | stop =>
    refine ⟨(stop_steers _).requested free.requested, fun active => .inl (stop_isOpen ?_)⟩
    exact (stop_steers _).active.symm.trans active
  | @reply request waits settled w reply fits =>
    have turn := Run.step_turn c.replayer c.run w reply
    have halts := turn.halts free.requested
    refine ⟨halts.requested, fun active => .inl ?_⟩
    have before := sound.active_of_step waits active
    obtain isOpen | opening | ⟨blocked, _⟩ := free.passes before
    · exact (congrArg Gate.isOpen halts.gate).trans isOpen
    · omega
    · obtain ⟨_, _, _, _, asks⟩ := sound.stage.replays before
      obtain ⟨busy, _⟩ | ⟨announcing, _⟩ := turn.leaves free.requested (.inr blocked) asks.going active
      · rw [blocked] at busy
        cases busy
      · cases blocked.symm.trans announcing

theorem IsFree.moves (free : c.IsFree) (sound : Sound cs wait speed c)
    (moves : Relation.ReflTransGen (PausesIf IsLate) c d) : d.IsFree := by
  induction moves with
  | refl => exact free
  | tail moves move ih => exact ih.move (sound.moves (pausesIf_moves moves)) move

theorem IsFree.unblocked (free : c.IsFree) (sound : Sound cs wait speed c) (active : c.replayer.isActive = true) :
    c.Unblocked := by
  obtain ⟨_, _, _, _, asks⟩ := sound.stage.replays active
  constructor
  · intro settled openings waits
    obtain isOpen | opening | ⟨_, _, same, lets⟩ := free.passes active
    · obtain ⟨early, last⟩ := sound.gated.waiting openings waits
      refine decide_eq_true (Nat.lt_of_le_of_ne early fun same => ?_)
      cases isOpen.symm.trans (last same)
    · omega
    · cases waits.symm.trans same
      exact lets
  · intro d runs later
    cases runs with
    | opened => exact .inl rfl
    | @reply request waits settled w reply fits going =>
      have turn := Run.step_turn c.replayer c.run w reply
      obtain isOpen | opening | ⟨blocked, _⟩ := free.passes active
      · exact .inr (turn.leaves free.requested (.inl isOpen) asks.going later)
      · omega
      · exact .inr (turn.leaves free.requested (.inr blocked) asks.going later)

/-- The gate is shut and nobody opens it. -/
theorem IsShut.run (shut : c.IsShut) (sound : Sound cs wait speed c) (runs : Runs c d)
    (goesOn : c.replayer.isActive = true ∨ c.replayer.status.state = .completed) :
    d.IsShut ∧ (d.replayer.isActive = true ∨ d.replayer.status.state = .completed) := by
  cases runs with
  | opened told =>
    have settled := shut.settled
    omega
  | @reply request waits settled w reply fits going =>
    have stage := sound.stage
    rw [waits] at stage
    refine ⟨shut.step w reply, ?_⟩
    have turn := Run.step_turn c.replayer c.run w reply
    obtain active | completed := goesOn
    · refine turn.held shut.closed going (fun blocked => ?_) active
      cases going.symm.trans (shut.not_passed sound waits fits blocked)
    · have ending := stage.ending (congrArg ReplayState.isActive completed)
      exact .inr ((congrArg (·.status.state) (turn.kept ending)).trans completed)

theorem IsShut.stuck (shut : c.IsShut) (sound : Sound cs wait speed c)
    (goesOn : c.replayer.isActive = true ∨ c.replayer.status.state = .completed)
    (runs : Relation.ReflTransGen Runs c d) : d.IsStuck := by
  have later : d.IsShut ∧ (d.replayer.isActive = true ∨ d.replayer.status.state = .completed) := by
    induction runs with
    | refl => exact ⟨shut, goesOn⟩
    | tail before step ih => exact ih.1.run (sound.moves (runs_moves before)) step ih.2
  obtain ⟨shut, goesOn⟩ := later
  refine ⟨goesOn, shut.closed, fun blocked e step => ?_⟩
  cases step with
  | opened told =>
    have settled := shut.settled
    omega
  | reply waits settled w fits going =>
    cases going.symm.trans (shut.not_passed (sound.moves (runs_moves runs)) waits fits blocked)

/-- A stop opens the gate, which stays open as long as nobody pauses the replay. Also if every pause is late the replay
    is let on, and ends at its next checkpoint. A pause in time holds it there in spite of the stop. -/
theorem stop_unblocked {p : Replayer} {v : World} {o : ReplayOptions} {observer : Option Nat} {run : Run}
    (started : p.start v o observer = (r, .ok run)) (running : r.status.state = .running)
    (moves : Relation.ReflTransGen Move (.ofStart r run) c) (active : c.replayer.isActive = true) :
    (∀ d, Relation.ReflTransGen (PausesIf fun _ => False) { c with replayer := c.replayer.stop } d →
      d.replayer.gate.isOpen = true) ∧
    (∀ d, Relation.ReflTransGen (PausesIf IsLate) { c with replayer := c.replayer.stop } d →
      d.replayer.isActive = true → d.Unblocked) ∧
    ∀ d q, Relation.ReflTransGen Move { c with replayer := c.replayer.stop } d → d.replayer.pause = .ok q →
      ¬ d.IsLate → ∀ e, Relation.ReflTransGen Runs { d with replayer := q } e → e.IsStuck := by
  obtain ⟨id, script, named, read, sound⟩ := Sound.ofRunning started running
  have stopped : Sound _ _ _ { c with replayer := c.replayer.stop } := sound.moves (moves.tail (.stop c))
  refine ⟨?_, ?_, ?_⟩
  · intro d later
    have kept : d.replayer.stopRequested = true ∧ d.replayer.gate.isOpen = true := by
      induction later with
      | refl => exact ⟨congrArg stopRequested (stop_active active), stop_isOpen active⟩
      | tail _ move ih => exact isOpen_move ih.1 ih.2 move
    exact kept.2
  · intro d later active'
    have free := (stop_free active).moves stopped later
    exact free.unblocked (stopped.moves (pausesIf_moves later)) active'
  · intro d q later passes timely e runs
    have paused := (stopped.moves later).move (.pause passes)
    refine (shut_of_pause passes timely).stuck paused (.inl ?_) runs
    rw [(pause_ok passes).2]
    rfl

/-- A replay that is stopped while it is paused before its second click ends there, also if it is paused again once it
    has been let on. One that is paused during the first click is stuck in spite of a stop before that. -/
theorem stop_unblocked_clicks : ∃ (p : Replayer) (v : World) (o : ReplayOptions) (r q : Replayer) (run : Run)
    (c c' d d' : Course), p.start v o none = (r, .ok run) ∧
      Relation.ReflTransGen Move (.ofStart r run) c ∧ c.replayer.status.state = .paused ∧
      Relation.ReflTransGen (PausesIf IsLate) { c with replayer := c.replayer.stop } d ∧
      d.replayer.status.state = .paused ∧ d.Unblocked ∧
      Relation.ReflTransGen Move (.ofStart r run) c' ∧ c'.replayer.isActive = true ∧ c'.replayer.stop.pause = .ok q ∧
      Relation.ReflTransGen Runs { c' with replayer := q } d' ∧ d'.run.phase = .blocked ∧ d'.IsStuck := by
  obtain ⟨text, plain, commands, summary, told, site⟩ := exists_clicks
  have started := start_storing plain { after := fun _ _ => .done } false commands told site
  let v : World := { files := storing text }
  have clicking := (starts Move started).tail (@Move.reply _ .tell rfl rfl v (.ok .nothing) ⟨_, rfl⟩)
  have held := (clicking.tail (.pause rfl)).tail
    (@Move.reply _ (.page (.run (.click "#a"))) rfl rfl v (.ok (.value (.bool true))) trivial)
  have resumed := (goingOn (PausesIf IsLate) (held.tail (.stop _))).tail ⟨.resume rfl, nofun⟩
  have opened := resumed.tail ⟨.opened rfl, nofun⟩
  have late := opened.tail ⟨.pause rfl, fun _ => .inr (.inr ⟨rfl, 0, rfl, rfl⟩)⟩
  have blocked := (goingOn Runs ((clicking.tail (.stop _)).tail (.pause rfl))).tail
    (@Runs.reply _ (.page (.run (.click "#a"))) rfl rfl v (.ok (.value (.bool true))) trivial rfl)
  obtain ⟨_, unblocked, _⟩ := stop_unblocked started rfl held rfl
  obtain ⟨_, _, stuck⟩ := stop_unblocked started rfl clicking rfl
  exact ⟨_, v, _, _, _, _, _, _, _, _, started, held, rfl, late, rfl, unblocked _ late rfl, clicking, rfl, rfl, blocked,
    rfl, stuck _ _ .refl rfl (timely_of_inFlight rfl rfl) _ blocked⟩

end BrowserFlow.Replayer.Course
