import BrowserFlow.Proofs.Replay.Begun
import BrowserFlow.Proofs.Replay.Readable

/-!
Tasks that share a replayer. Any of them may start a replay at any time and is then answered, failed and cancelled as
it comes; anybody may steer whatever replay is under way. No more than one of them replays, and a start that is refused
leaves everything as it is.
-/

namespace BrowserFlow

def Demand.pageCalls : Demand Report → List PageRequest
  | .ask (.page request) => [request]
  | _ => []

namespace Run

variable {r : Replayer} {run : Run}

/-- A step of the replay under way leaves the active states on both sides or on none. -/
theorem step_agrees (active : r.isActive = true) (going : run.phase.isEnding = false) (w : World) (reply : Reply) :
    Agrees (step r run w reply) := by
  have turn := step_turn r run w reply
  generalize step r run w reply = t at turn
  cases turn with
  | goesOn _ after =>
    rw [Agrees, ask, not_ending_of_inFlight after]
    exact active
  | checks _ _ _ _ _ _ checks =>
    cases checks with
    | through => exact conclude_agrees false
    | held => exact active
    | stopped => exact conclude_agrees true
    | begins _ _ _ _ agrees => exact agrees active
  | restores => exact active
  | cancelled => rfl
  | ends ending => cases ending.symm.trans going

/-- A replay that has come to its end does not touch the replayer any more, nor its page. -/
theorem step_ended (r : Replayer) {run : Run} (ending : run.phase.isEnding = true) (w : World) (reply : Reply) :
    (step r run w reply).1 = r ∧ (step r run w reply).2.1.phase.isEnding = true ∧
      (step r run w reply).2.2.pageCalls = [] := by
  cases phase : run.phase with
  | closing fault =>
    have step : ∃ result, step r run w reply = finish r run result := by
      cases fault with
      | none => exact ⟨.ok run.report, by simp only [step, phase]⟩
      | some fault => exact ⟨.error fault, by simp only [step, phase]⟩
    obtain ⟨result, step⟩ := step
    rw [step]
    exact ⟨rfl, ending, rfl⟩
  | completing =>
    have step : step r run w reply = conserve r run := by simp [step, phase]
    rw [step]
    unfold conserve
    split
    · split
      · exact ⟨rfl, rfl, rfl⟩
      · exact ⟨rfl, ending, rfl⟩
    · exact ⟨rfl, ending, rfl⟩
  | saving =>
    simp only [step, phase]
    split
    · exact ⟨rfl, ending, rfl⟩
    · exact ⟨rfl, ending, rfl⟩
  | _ =>
    rw [phase] at ending
    cases ending

end Run

theorem WaitStrategy.withSpeed_foreign {wait : WaitStrategy} {speed : Option Value} {fault : Fault}
    (refused : wait.withSpeed speed = .error fault) (e : FlowError) : fault ≠ .flow e := by
  rintro rfl
  unfold withSpeed at refused
  split at refused
  · rename_i d v
    cases positive : v.isAtMostZero with
    | ok b =>
      simp only [FixedDelay.validate, positive, Bind.bind, Except.bind] at refused
      cases b <;> cases refused
    | error other =>
      simp only [FixedDelay.validate, positive, Bind.bind, Except.bind, Except.map] at refused
      cases refused
      unfold Value.isAtMostZero at positive
      split at positive
      · cases positive
      · split at positive <;> cases positive
  · cases refused

namespace Replayer

/-- A start that goes on has found no replay under way, and it goes on with one or to its end. -/
theorem start_ok {r r' : Replayer} {w : World} {o : ReplayOptions} {observer : Option Nat} {run : Run}
    (starts : r.start w o observer = (r', .ok run)) : r.isActive = false ∧ r'.isActive = !run.phase.isEnding := by
  unfold start at starts
  split at starts
  · cases starts
  · rename_i inactive
    refine ⟨Bool.eq_false_iff.mpr inactive, ?_⟩
    dsimp only at starts
    split at starts
    · cases starts
      rfl
    · cases starts
    · split at starts
      · cases starts
      · cases starts
        rfl

/-- A fault that a start raises by itself is none of the program's own errors. -/
theorem start_foreign {r : Replayer} {w : World} {o : ReplayOptions} {observer : Option Nat} {fault : Fault}
    (inactive : r.isActive = false) (fails : (r.start w o observer).2 = .error fault) (e : FlowError) :
    fault ≠ .flow e := by
  rintro rfl
  unfold start at fails
  rw [if_neg (by simp [inactive])] at fails
  dsimp only at fails
  split at fails
  · cases fails
  · rename_i foreign _
    cases fails
    exact foreign _ rfl
  · split at fails
    · rename_i prepared
      cases fails
      rcases bind_error prepared with lost | ⟨summary, told, prepared⟩
      · rcases Script.summary_cases _ _ "" with ⟨_, told, _⟩ | ⟨fails, _⟩
        · cases told.symm.trans lost
        · cases fails.symm.trans lost
      · rcases bind_error prepared with site | ⟨_, _, prepared⟩
        · obtain ⟨_, other⟩ := Host.ofUrl_error site
          cases other
        · rcases bind_error prepared with refused | ⟨_, _, prepared⟩
          · exact WaitStrategy.withSpeed_foreign refused e rfl
          · cases prepared
    · cases fails

/-- A start is refused just if a replay is under way, and then it changes nothing. -/
theorem start_refused (r : Replayer) (w : World) (o : ReplayOptions) (observer : Option Nat) :
    (r.isActive = true → r.start w o observer =
      (r, .error (.flow (.alreadyReplaying "Already replaying" (.str r.status.state.word))))) ∧
    ∀ fault, (r.start w o observer).2 = .error fault → fault.isFlow .alreadyReplaying = true → r.isActive = true := by
  refine ⟨fun active => if_pos active, fun fault fails refused => ?_⟩
  by_contra inactive
  have inactive := Bool.eq_false_iff.mpr inactive
  cases fault with
  | flow e => exact start_foreign inactive fails e rfl
  | _ => cases refused

/-- A replay that a task has started. -/
structure Task where
  run : Run
  demand : Demand Report

/-- A replayer with the replays that tasks have started on it so far, and the calls that these have made on their pages,
    each with the number of its replay. -/
structure Shared where
  replayer : Replayer
  tasks : List Task := []
  calls : List (Nat × PageRequest) := []
  /-- resumes of which the observer is being told; the gate is opened after that -/
  opening : Nat := 0

namespace Shared

/-- The replayer after a step of one of the replays. -/
def after (s : Shared) (i : Nat) (t : Run.Transition) : Shared :=
  { s with replayer := t.1, tasks := s.tasks.set i ⟨t.2.1, t.2.2⟩, calls := s.calls ++ t.2.2.pageCalls.map (i, ·) }

inductive Move : Shared → Shared → Prop
  | start {s : Shared} (w : World) (o : ReplayOptions) (observer : Option Nat) {r : Replayer} {run : Run}
      (starts : s.replayer.start w o observer = (r, .ok run)) :
      Move s { s with replayer := r, tasks := s.tasks ++ [⟨run, .ask .tell⟩] }
  | fails {s : Shared} (w : World) (o : ReplayOptions) (observer : Option Nat) {r : Replayer} {fault : Fault}
      (fails : s.replayer.start w o observer = (r, .error fault)) : Move s { s with replayer := r }
  | pause {s : Shared} {r : Replayer} (passes : s.replayer.pause = .ok r) : Move s { s with replayer := r }
  | resume {s : Shared} {r : Replayer} (passes : s.replayer.resume = .ok r) :
      Move s { s with replayer := r, opening := s.opening + 1 }
  | opened {s : Shared} {n : Nat} (told : s.opening = n + 1) :
      Move s { s with replayer := s.replayer.openGate, opening := n }
  | stop (s : Shared) : Move s { s with replayer := s.replayer.stop }
  | reply {s : Shared} {i : Nat} {task : Task} (there : s.tasks[i]? = some task) {request : Request}
      (waits : task.demand = .ask request) (settled : s.opening = 0) (w : World) {reply : Reply}
      (fits : request.MayGet s.replayer.gate reply) : Move s (s.after i (task.run.step s.replayer w reply))

/-- The replay has entered the running state and not left the active states. -/
def IsActive (s : Shared) (i : Nat) : Prop := ∃ task, s.tasks[i]? = some task ∧ task.run.phase.isEnding = false

/-- What holds of all replays on one replayer together. -/
structure Exclusive (s : Shared) : Prop where
  /-- one of them is active at most -/
  single : ∀ i j, s.IsActive i → s.IsActive j → i = j
  /-- and one is if the replayer is -/
  active : s.replayer.isActive = true ↔ ∃ i, s.IsActive i
  /-- the calls of an earlier replay come before those of a later one -/
  ordered : (s.calls.map (·.1)).Pairwise (· ≤ ·)
  /-- and those of the active replay come last -/
  latest : ∀ call ∈ s.calls, call.1 < s.tasks.length ∧ ∀ i, s.IsActive i → call.1 ≤ i

theorem Exclusive.steered {s : Shared} (exclusive : Exclusive s) {r : Replayer} (steers : Steers s.replayer r)
    (opening : Nat) : Exclusive { s with replayer := r, opening } where
  single := exclusive.single
  active := steers.active ▸ exclusive.active
  ordered := exclusive.ordered
  latest := exclusive.latest

theorem isActive_append {s : Shared} {task : Task} {r : Replayer} {i : Nat} :
    IsActive { s with replayer := r, tasks := s.tasks ++ [task] } i ↔
      s.IsActive i ∨ i = s.tasks.length ∧ task.run.phase.isEnding = false := by
  unfold IsActive
  constructor
  · rintro ⟨other, found, going⟩
    by_cases earlier : i < s.tasks.length
    · rw [List.getElem?_append_left earlier] at found
      exact .inl ⟨other, found, going⟩
    · have last : i = s.tasks.length := by
        obtain ⟨bound, _⟩ := List.getElem?_eq_some_iff.mp found
        simp only [List.length_append, List.length_singleton] at bound
        omega
      subst last
      simp only [List.getElem?_concat_length, Option.some.injEq] at found
      subst found
      exact .inr ⟨rfl, going⟩
  · rintro (⟨other, found, going⟩ | ⟨rfl, going⟩)
    · obtain ⟨bound, _⟩ := List.getElem?_eq_some_iff.mp found
      exact ⟨other, (List.getElem?_append_left bound).trans found, going⟩
    · exact ⟨task, by simp, going⟩

theorem isActive_after {s : Shared} {task : Task} {t : Run.Transition} {i j : Nat} (there : s.tasks[i]? = some task) :
    IsActive (s.after i t) j ↔ j = i ∧ t.2.1.phase.isEnding = false ∨ j ≠ i ∧ s.IsActive j := by
  obtain ⟨bound, _⟩ := List.getElem?_eq_some_iff.mp there
  by_cases same : j = i
  · subst same
    simp [IsActive, after, bound]
  · simp [IsActive, after, same, List.getElem?_set_ne (Ne.symm same)]

theorem Exclusive.start {s : Shared} (exclusive : Exclusive s) {w : World} {o : ReplayOptions} {observer : Option Nat}
    {r : Replayer} {run : Run} (starts : s.replayer.start w o observer = (r, .ok run)) :
    Exclusive { s with replayer := r, tasks := s.tasks ++ [⟨run, .ask .tell⟩] } := by
  obtain ⟨inactive, active⟩ := start_ok starts
  have none : ∀ i, ¬s.IsActive i := fun i there => by
    cases inactive.symm.trans (exclusive.active.mpr ⟨i, there⟩)
  refine ⟨?_, ?_, exclusive.ordered, ?_⟩
  · intro i j first second
    obtain other | ⟨rfl, _⟩ := isActive_append.mp first
    · exact absurd other (none i)
    · obtain other | ⟨rfl, _⟩ := isActive_append.mp second
      · exact absurd other (none j)
      · rfl
  · rw [active, Bool.not_eq_true']
    constructor
    · exact fun going => ⟨_, isActive_append.mpr (.inr ⟨rfl, going⟩)⟩
    · rintro ⟨i, there⟩
      obtain other | ⟨_, going⟩ := isActive_append.mp there
      · exact absurd other (none i)
      · exact going
  · intro call member
    obtain ⟨bound, _⟩ := exclusive.latest call member
    refine ⟨Nat.lt_of_lt_of_le bound (by simp), fun i there => ?_⟩
    obtain other | ⟨rfl, _⟩ := isActive_append.mp there
    · exact absurd other (none i)
    · exact Nat.le_of_lt bound

section Step

variable {s : Shared} (exclusive : Exclusive s) {i : Nat} {task : Task} (there : s.tasks[i]? = some task) {t : Run.Transition}

include exclusive there

/-- A step of a replay that has come to its end. -/
theorem Exclusive.step_ended (ended : task.run.phase.isEnding = true) (kept : t.1 = s.replayer)
    (ending : t.2.1.phase.isEnding = true) (quiet : t.2.2.pageCalls = []) : Exclusive (s.after i t) := by
  have same (j : Nat) : IsActive (s.after i t) j ↔ s.IsActive j := by
    rw [isActive_after there]
    constructor
    · rintro (⟨_, going⟩ | ⟨_, active⟩)
      · cases ending.symm.trans going
      · exact active
    · rintro ⟨other, found, going⟩
      refine .inr ⟨?_, other, found, going⟩
      rintro rfl
      cases there.symm.trans found
      cases ended.symm.trans going
  have calls : (s.after i t).calls = s.calls := by simp [after, quiet]
  refine ⟨fun j k first second => exclusive.single j k ((same j).mp first) ((same k).mp second), ?_, ?_, ?_⟩
  · simp only [same]
    exact (congrArg (isActive · = true) kept).to_iff.trans exclusive.active
  · rw [calls]
    exact exclusive.ordered
  · rw [calls]
    intro call member
    obtain ⟨bound, last⟩ := exclusive.latest call member
    exact ⟨by simpa [after] using bound, fun j active => last j ((same j).mp active)⟩

/-- A step of the replay that is active. -/
theorem Exclusive.step_active (going : task.run.phase.isEnding = false) (agrees : Run.Agrees t) :
    Exclusive (s.after i t) := by
  have here : s.IsActive i := ⟨task, there, going⟩
  obtain ⟨bound, _⟩ := List.getElem?_eq_some_iff.mp there
  have alone (j : Nat) : IsActive (s.after i t) j ↔ j = i ∧ t.2.1.phase.isEnding = false := by
    rw [isActive_after there]
    constructor
    · rintro (last | ⟨other, active⟩)
      · exact last
      · exact absurd (exclusive.single j i active here) other
    · exact .inl
  have earlier : ∀ call ∈ s.calls, call.1 ≤ i := fun call member => (exclusive.latest call member).2 i here
  refine ⟨?_, ?_, ?_, ?_⟩
  · intro j k first second
    rw [((alone j).mp first).1, ((alone k).mp second).1]
  · have active : (s.after i t).replayer.isActive = !t.2.1.phase.isEnding := agrees
    rw [active, Bool.not_eq_true']
    constructor
    · exact fun going => ⟨i, (alone i).mpr ⟨rfl, going⟩⟩
    · rintro ⟨j, there⟩
      exact ((alone j).mp there).2
  · have calls : (s.after i t).calls.map (·.1) = s.calls.map (·.1) ++ t.2.2.pageCalls.map fun _ => i := by
      simp [after, Function.comp_def]
    rw [calls, List.pairwise_append]
    refine ⟨exclusive.ordered, ?_, ?_⟩
    · rw [List.map_const']
      exact List.pairwise_replicate.mpr (.inr (Nat.le_refl i))
    · intro first before second new
      obtain ⟨call, member, rfl⟩ := List.mem_map.mp before
      obtain ⟨_, _, rfl⟩ := List.mem_map.mp new
      exact earlier call member
  · intro call member
    have owner : call.1 < s.tasks.length ∧ call.1 ≤ i := by
      rcases List.mem_append.mp member with before | new
      · exact ⟨(exclusive.latest call before).1, earlier call before⟩
      · obtain ⟨_, _, rfl⟩ := List.mem_map.mp new
        exact ⟨bound, Nat.le_refl i⟩
    refine ⟨by simpa [after] using owner.1, fun j active => ?_⟩
    rw [((alone j).mp active).1]
    exact owner.2

end Step

theorem Exclusive.move {s s' : Shared} (exclusive : Exclusive s) (move : Move s s') : Exclusive s' := by
  cases move with
  | start w o observer starts => exact exclusive.start starts
  | @fails w o observer r fault fails =>
    cases active : s.replayer.isActive with
    | true =>
      have same := (start_refused s.replayer w o observer).1 active
      cases fails.symm.trans same
      exact exclusive
    | false =>
      have idle := start_idle active (congrArg Prod.snd fails)
      rw [fails] at idle
      have inactive : r.isActive = false := congrArg ReplayState.isActive idle.2
      refine ⟨exclusive.single, ?_, exclusive.ordered, exclusive.latest⟩
      exact (iff_of_eq (congrArg (· = true) (inactive.trans active.symm))).trans exclusive.active
  | pause passes => exact exclusive.steered (pause_steers passes) _
  | resume passes => exact exclusive.steered (resume_steers passes) _
  | opened told => exact exclusive.steered (openGate_steers _) _
  | stop => exact exclusive.steered (stop_steers _) _
  | @reply i task there request waits settled w reply fits =>
    cases phase : task.run.phase.isEnding with
    | true =>
      obtain ⟨kept, ending, quiet⟩ := Run.step_ended s.replayer phase w reply
      exact exclusive.step_ended there phase kept ending quiet
    | false =>
      have active : s.replayer.isActive = true := exclusive.active.mpr ⟨i, task, there, phase⟩
      exact exclusive.step_active there phase (Run.step_agrees active phase w reply)

theorem Exclusive.moves {s s' : Shared} (exclusive : Exclusive s) (moves : Relation.ReflTransGen Move s s') :
    Exclusive s' := by
  induction moves with
  | refl => exact exclusive
  | tail _ move ih => exact ih.move move

theorem Exclusive.ofReplayer {r : Replayer} (inactive : r.isActive = false) : Exclusive { replayer := r } where
  single := by rintro i j ⟨_, found, _⟩; cases found
  active := by
    refine ⟨fun active => ?_, ?_⟩
    · cases inactive.symm.trans active
    · rintro ⟨i, _, found, _⟩
      cases found
  ordered := .nil
  latest := by rintro _ ⟨⟩

/-- One replay at a time. Whoever starts replays on a replayer that has none under way, and whatever comes of them: one
    of them is active at most, and as long as it is, every further start is refused; the calls that two replays make on
    their pages do not interleave; a start is refused only on that account, and it leaves the replayer as it is. -/
theorem one_at_a_time {r : Replayer} (inactive : r.isActive = false) {s : Shared}
    (moves : Relation.ReflTransGen Move { replayer := r } s) : Exclusive s ∧
    ∀ (w : World) (o : ReplayOptions) (observer : Option Nat),
      (s.replayer.isActive = true → ∃ e, s.replayer.start w o observer = (s.replayer, .error (.flow e)) ∧
        e.kind = .alreadyReplaying) ∧
      ∀ r fault, s.replayer.start w o observer = (r, .error fault) → fault.isFlow .alreadyReplaying = true →
        r = s.replayer ∧ ∃ i, s.IsActive i := by
  have exclusive := (Exclusive.ofReplayer inactive).moves moves
  refine ⟨exclusive, fun w o observer => ?_⟩
  obtain ⟨refuses, refused⟩ := start_refused s.replayer w o observer
  refine ⟨fun active => ⟨_, refuses active, rfl⟩, fun r fault fails kind => ?_⟩
  have active := refused fault (congrArg Prod.snd fails) kind
  refine ⟨?_, exclusive.active.mp active⟩
  exact congrArg Prod.fst (fails.symm.trans (refuses active))

/-- While two clicks are replayed a second start is refused. Once the replay has been cancelled, which its caller has
    still to be told, another one starts. -/
theorem one_at_a_time_clicks : ∃ (r : Replayer) (s s' : Shared) (w : World) (o : ReplayOptions),
    r.isActive = false ∧ Relation.ReflTransGen Move { replayer := r } s ∧
    Relation.ReflTransGen Move { replayer := r } s' ∧
    s.calls = [(0, .run (.click "#a"))] ∧ (∀ i, s.IsActive i → i = 0) ∧
    (∃ e, s.replayer.start w o none = (s.replayer, .error (.flow e)) ∧ e.kind = .alreadyReplaying) ∧
    (∀ i, ¬s'.IsActive i) ∧ ∃ run, (s'.replayer.start w o none).2 = .ok run := by
  obtain ⟨text, plain, commands, summary, told, site⟩ := exists_clicks
  let wait : OwnWait := { after := fun _ _ => .done }
  have started := start_storing plain wait false commands told site
  let w : World := { files := storing text }
  let o : ReplayOptions := { recordingId := .str "x" }
  have clicking := (Relation.ReflTransGen.single (Move.start (s := { replayer := ofRecordings wait false }) w o none
    started)).tail (@Move.reply _ 0 _ rfl .tell rfl rfl w (.ok .nothing) ⟨_, rfl⟩)
  have cancelled := clicking.tail
    (@Move.reply _ 0 _ rfl (.page (.run (.click "#a"))) rfl rfl w (.error .cancelled) trivial)
  have inactive : (ofRecordings wait false).isActive = false := rfl
  obtain ⟨busy, refuses⟩ := one_at_a_time inactive clicking
  obtain ⟨ended, _⟩ := one_at_a_time inactive cancelled
  have again (r : Replayer) (inactive : r.isActive = false) (store : r.store = (ofRecordings wait false).store)
      (strategy : r.wait = .own wait) : ∃ run, (r.start w o none).2 = .ok run := by
    have read : r.store.read w.files "x" = .ok text := store ▸ read_storing plain wait false
    have accepted : r.wait.withSpeed (o.speed.bind Value.present?) = .ok (.own wait) := by
      rw [strategy]
      rfl
    exact ⟨_, congrArg Prod.snd (start_eq inactive rfl read told none site accepted)⟩
  refine ⟨_, _, _, w, o, inactive, clicking, cancelled, rfl, fun i active => busy.single i 0 active ⟨_, rfl, rfl⟩,
    (refuses w o none).1 rfl, fun i active => ?_, again _ rfl rfl rfl⟩
  cases ended.active.mpr ⟨i, active⟩

end Shared

end Replayer

end BrowserFlow
