import BrowserFlow.Proofs.Mode.Course
import BrowserFlow.Proofs.Replay.Unblocked
import BrowserFlow.Proofs.Script.Foreign
import BrowserFlow.Proofs.Store.Fault

/-!
Stopping a mode in the middle of its commands. A current recording is finished first. Of what comes up then, only the
program's own errors are held back: any other fault leaves the mode as it is, with its page and with a replay that
nobody has asked to stop.
-/

namespace BrowserFlow

/-- An id is made of letters, digits and dashes. -/
theorem Recorder.Consistent.id_clear {r : Recorder} {w : World} (consistent : r.Consistent w) {x : Recording}
    (current : r.current? = some x) : Char.ofNat 0 ∉ x.id.toList := by
  obtain ⟨id, _, found⟩ := Option.bind_eq_some_iff.mp current
  obtain ⟨n, _, same⟩ := consistent.known x (List.mem_of_find?_eq_some found)
  intro inside
  rw [same] at inside
  rcases w.ids.plain n _ inside with letter | dash
  · exact absurd letter (by decide)
  · exact absurd dash (by decide)

namespace Mode

/-- The mode is shut down, and a replay under way has been asked to stop and does not wait at the gate. -/
structure IsShut (before after : Mode) : Prop where
  isRunning : after.isRunning = false
  hasPage : after.hasPage = false
  replayer : after.replayer = before.replayer.map Replayer.stop
  asked : ∀ p ∈ before.replayer, p.isActive = true → p.stop.stopRequested = true ∧ p.stop.gate.isOpen = true

/-- The mode runs on with its page, its replay and its recording. -/
structure IsLeft (before after : Mode) : Prop where
  isRunning : after.isRunning = true
  hasPage : after.hasPage = true
  replayer : after.replayer = before.replayer
  recording : after.current.isRecording = true

section Shutdown

variable {m m' : Mode} {finished : Except Fault Unit}

theorem stop_shuts (stopped : m.stop finished = .ok m') : IsShut m m' := by
  have shut : m' = { m with replayer := m.replayer.map Replayer.stop, isRunning := false, hasPage := false } := by
    unfold stop at stopped
    split at stopped
    · exact (Except.ok.inj stopped).symm
    · exact (Except.ok.inj stopped).symm
    · cases stopped
  rw [shut]
  exact ⟨rfl, rfl, rfl, fun p _ active =>
    ⟨congrArg Replayer.stopRequested (Replayer.Course.stop_active active), Replayer.Course.stop_isOpen active⟩⟩

theorem stop_fails {fault : Fault} (failed : m.stop finished = .error fault) :
    finished = .error fault ∧ ∀ e, fault ≠ .flow e := by
  unfold stop at failed
  split at failed
  · cases failed
  · cases failed
  · rename_i foreign
    cases failed
    exact ⟨rfl, foreign⟩

theorem stop_ok_iff (m : Mode) (finished : Except Fault Unit) :
    (∃ m', m.stop finished = .ok m') ↔ ∀ fault, finished = .error fault → ∃ e, fault = .flow e := by
  constructor
  · rintro ⟨m', stopped⟩ fault rfl
    cases fault with
    | flow e => exact ⟨e, rfl⟩
    | _ => cases stopped
  · intro caught
    cases finished with
    | ok done => exact ⟨_, rfl⟩
    | error fault =>
      obtain ⟨e, rfl⟩ := caught fault rfl
      exact ⟨_, rfl⟩

end Shutdown

namespace Course

/-- After a transition of the recorder that no command has made. -/
def moved (c : Course) (t : Recorder.Transition) : Course :=
  { c with mode := { c.mode with recorder := some t.1 }, world := t.2.1 }

/-- The recorder finishes the recording, step by step, while commands and the page go on. The page gives up a listener
    without fail, whatever else it answers, and nobody cancels the stop. -/
inductive Finishes : Course → Recorder.Step → Except Fault Unit → Course → Prop
  | finish (c : Course) (result : Except Fault Recorder.Outcome) :
      Finishes c (.finish result) (result.map fun _ => ()) c
  | ask {c between last : Course} {request : PageRequest} {pending : Recorder.Pending} {reply : Reply}
      {result : Except Fault Unit} (others : Relation.ReflTransGen Move c between)
      (removed : ∀ name, request = .removeLoadListener name → ∃ answer, reply = .ok answer)
      (uncancelled : reply ≠ .error .cancelled)
      (next : Finishes (between.moved (between.mode.current.step between.world pending reply))
        (between.mode.current.step between.world pending reply).2.2 result last) :
      Finishes c (.ask request pending) result last

/-- The mode is stopped, and has then come to where `last` is. -/
inductive Closes (c : Course) : Except Fault Mode → Course → Prop
  | idle (none : c.mode.stopRecording? c.world = none) : Closes c (c.mode.stop (.ok ())) c
  | recording {t : Recorder.Transition} {result : Except Fault Unit} {last : Course}
      (some : c.mode.stopRecording? c.world = some t) (finishes : Finishes (c.moved t) t.2.2 result last) :
      Closes c (last.mode.stop result) last

/-- What keeps the current recording from being stored, if anything does. -/
def storing (c : Course) : Except Fault Unit :=
  match c.mode.current.current? with
  | none => .ok ()
  | some x => do
    let script ← Script.ofRecording x
    (c.world.onFiles (c.mode.current.store.write x.id script)).1

/-- The current recording has a script, and no name that it is written to has a null character. -/
def Storable (c : Course) : Prop :=
  ∀ x ∈ c.mode.current.current?, ∃ script, Script.ofRecording x = .ok script ∧
    (c.world.onFiles (c.mode.current.store.write x.id script)).1 ≠ .error .nulInPath

section Closing

variable {c last : Course} {result : Except Fault Unit} {outcome : Except Fault Mode}

theorem Finishes.of_finish {given : Except Fault Recorder.Outcome}
    (finishes : Finishes c (.finish given) result last) : result = given.map (fun _ => ()) ∧ last = c := by
  cases finishes
  exact ⟨rfl, rfl⟩

/-- Once the script is written, nothing that happens meanwhile keeps the recording from being finished. -/
theorem Finishes.of_listening {id name : String}
    (finishes : Finishes c (.ask (.removeLoadListener name) (.stopListen id)) result last) : result = .ok () := by
  cases finishes with
  | ask others removed uncancelled next =>
    obtain ⟨answer, rfl⟩ := removed name rfl
    cases next with
    | @ask _ _ _ _ _ reply _ others removed uncancelled next =>
      cases reply with
      | ok answer => exact next.of_finish.1
      | error fault =>
        cases fault with
        | cancelled => exact absurd rfl uncancelled
        | _ => exact next.of_finish.1

theorem finishes_listening (c : Course) (id name : String) : ∃ last,
    Finishes c (.ask (.removeLoadListener name) (.stopListen id)) (.ok ()) last ∧ last.world = c.world := by
  have answered (name : String) (_ : PageRequest.run .uninstall = .removeLoadListener name) :
      ∃ answer, (.ok .nothing : Reply) = .ok answer := ⟨.nothing, rfl⟩
  let listening := c.moved (c.mode.current.step c.world (.stopListen id) (.ok .nothing))
  have uninstalled : Finishes listening (.ask (.run .uninstall) (.stopUninstall id)) (.ok ())
      (listening.moved (listening.mode.current.step listening.world (.stopUninstall id) (.ok .nothing))) :=
    @Finishes.ask _ _ _ _ _ (.ok .nothing) _ .refl answered nofun (.finish _ _)
  exact ⟨_, @Finishes.ask _ _ _ _ _ (.ok .nothing) _ .refl (fun _ _ => ⟨.nothing, rfl⟩) nofun uninstalled, rfl⟩

theorem isRecording_iff {r : Recorder} {w : World} (consistent : r.Consistent w) :
    r.isRecording = true ↔ ∃ x, r.current? = some x := by
  rw [Recorder.isRecording, bne_iff_ne, ne_eq, consistent.idle_iff, ← ne_eq, Option.ne_none_iff_exists']

theorem stopRecording?_eq (recorder : c.mode.recorder = some c.mode.current)
    (consistent : c.mode.current.Consistent c.world) :
    c.mode.stopRecording? c.world = c.mode.current.current?.map fun _ => c.mode.current.stop c.world := by
  unfold stopRecording?
  rw [recorder]
  dsimp only
  cases current : c.mode.current.current? with
  | none =>
    refine if_neg fun active => ?_
    obtain ⟨x, there⟩ := (isRecording_iff consistent).mp active
    cases current.symm.trans there
  | some x => exact if_pos ((isRecording_iff consistent).mpr ⟨x, current⟩)

theorem storing_eq {x : Recording} (current : c.mode.current.current? = some x) : c.storing = (do
    let script ← Script.ofRecording x
    (c.world.onFiles (c.mode.current.store.write x.id script)).1) := by
  rw [storing, current]

/-- The script is written before the recorder asks the page for anything, and what is written stays. -/
theorem stop_eq (consistent : c.mode.current.Consistent c.world) {x : Recording}
    (current : c.mode.current.current? = some x) : ∃ after,
      c.mode.current.stop c.world = (c.mode.current.touch x c.world.now, after, match c.storing with
        | .ok _ => .ask (.removeLoadListener Recorder.loadListener) (.stopListen x.id)
        | .error fault => .finish (.error fault)) ∧
      ∀ script, Script.ofRecording x = .ok script →
        after = (c.world.onFiles (c.mode.current.store.write x.id script)).2 := by
  have active : c.mode.current.state ≠ .idle := by
    rw [ne_eq, consistent.idle_iff, current]
    nofun
  rw [Recorder.stop_eq active current, storing_eq current]
  cases rendered : Script.ofRecording x with
  | error fault => exact ⟨c.world, rfl, fun _ => nofun⟩
  | ok script =>
    refine ⟨(c.world.onFiles (c.mode.current.store.write x.id script)).2, ?_, fun _ same => by cases same; rfl⟩
    have stored : (Except.ok script >>= fun script =>
        (c.world.onFiles (c.mode.current.store.write x.id script)).1) =
      (c.world.onFiles (c.mode.current.store.write x.id script)).1 := rfl
    rw [stored]
    dsimp only
    cases written : (c.world.onFiles (c.mode.current.store.write x.id script)).1 with
    | error fault => rfl
    | ok done => exact if_pos (consistent.page.mpr active)

/-- However it is stopped: the mode hears what kept the recording from being stored, and nothing happens meanwhile if
    anything did. -/
theorem Closes.heard (recorder : c.mode.recorder = some c.mode.current)
    (consistent : c.mode.current.Consistent c.world) (closes : Closes c outcome last) :
    outcome = last.mode.stop c.storing ∧
      ∀ fault, c.storing = .error fault → last = c.moved (c.mode.current.stop c.world) := by
  cases closes with
  | idle none =>
    rw [stopRecording?_eq recorder consistent, Option.map_eq_none_iff] at none
    have stored : c.storing = .ok () := by rw [storing, none]
    rw [stored]
    exact ⟨rfl, fun _ => nofun⟩
  | recording some finishes =>
    rw [stopRecording?_eq recorder consistent] at some
    obtain ⟨x, current, rfl⟩ := Option.map_eq_some_iff.mp some
    obtain ⟨after, same, _⟩ := stop_eq consistent current
    rw [same] at finishes ⊢
    cases stored : c.storing with
    | ok done =>
      rw [stored] at finishes
      rw [finishes.of_listening]
      exact ⟨rfl, fun _ => nofun⟩
    | error fault =>
      rw [stored] at finishes
      obtain ⟨rfl, rfl⟩ := finishes.of_finish
      exact ⟨rfl, fun _ _ => rfl⟩

theorem exists_closes (recorder : c.mode.recorder = some c.mode.current)
    (consistent : c.mode.current.Consistent c.world) : ∃ outcome last, Closes c outcome last ∧
      ∀ t, c.mode.stopRecording? c.world = some t → last.world = t.2.1 := by
  have stopped := stopRecording?_eq recorder consistent
  cases current : c.mode.current.current? with
  | none =>
    rw [current] at stopped
    refine ⟨_, _, .idle stopped, fun t other => ?_⟩
    cases stopped.symm.trans other
  | some x =>
    obtain ⟨after, same, _⟩ := stop_eq consistent current
    rw [current, same, Option.map_some] at stopped
    cases stored : c.storing with
    | ok done =>
      rw [stored] at stopped
      obtain ⟨last, finishes, world⟩ := finishes_listening
        (c.moved (c.mode.current.touch x c.world.now, after, .finish (.ok .done))) x.id Recorder.loadListener
      refine ⟨_, last, .recording stopped finishes, fun t again => ?_⟩
      cases stopped.symm.trans again
      exact world
    | error fault =>
      rw [stored] at stopped
      refine ⟨_, _, .recording stopped (.finish _ _), fun t again => ?_⟩
      cases stopped.symm.trans again
      rfl

theorem write_caught (consistent : c.mode.current.Consistent c.world) {x : Recording}
    (current : c.mode.current.current? = some x) {script : String} {fault : Fault}
    (failed : (c.world.onFiles (c.mode.current.store.write x.id script)).1 = .error fault) :
    (∃ e, fault = .flow e) ∨ fault = .nulInPath ∧ ¬ c.mode.current.store.IsClear :=
  ScriptStore.write_fails (consistent.id_clear current) script _ _ _ (Prod.ext failed rfl)

/-- What is no error of the program's own comes from the script, or from a null character in a name. -/
theorem storable_iff (consistent : c.mode.current.Consistent c.world) :
    c.Storable ↔ ∀ fault, c.storing = .error fault → ∃ e, fault = .flow e := by
  unfold Storable
  cases current : c.mode.current.current? with
  | none =>
    rw [storing, current]
    exact ⟨fun _ _ => nofun, fun _ _ => nofun⟩
  | some x =>
    rw [storing_eq current]
    cases rendered : Script.ofRecording x with
    | error fault =>
      constructor
      · intro storable
        obtain ⟨script, made, _⟩ := storable x rfl
        cases rendered.symm.trans made
      · intro caught
        obtain ⟨e, rfl⟩ := caught fault rfl
        exact absurd rendered (Script.ofRecording_foreign x e)
    | ok script =>
      constructor
      · intro storable fault failed
        obtain ⟨_, made, unbroken⟩ := storable x rfl
        cases rendered.symm.trans made
        rcases write_caught consistent current failed with own | ⟨rfl, _⟩
        · exact own
        · exact absurd failed unbroken
      · intro caught y same
        cases same
        refine ⟨script, rendered, fun failed => ?_⟩
        obtain ⟨e, same⟩ := caught .nulInPath failed
        cases same

theorem storable_of_clear (consistent : c.mode.current.Consistent c.world) (clear : c.mode.current.store.IsClear) :
    c.Storable ↔ ∀ x ∈ c.mode.current.current?, ∃ script, Script.ofRecording x = .ok script := by
  constructor
  · intro storable x current
    obtain ⟨script, rendered, _⟩ := storable x current
    exact ⟨script, rendered⟩
  · intro rendered x current
    obtain ⟨script, made⟩ := rendered x current
    refine ⟨script, made, fun failed => ?_⟩
    rcases write_caught consistent current failed with ⟨e, own⟩ | ⟨_, unclear⟩
    · cases own
    · exact unclear clear

/-- A script that the store takes is in its file before the stop waits for anything. -/
theorem persisted (recorder : c.mode.recorder = some c.mode.current) (consistent : c.mode.current.Consistent c.world)
    {x : Recording} (current : c.mode.current.current? = some x) {script : String}
    (rendered : Script.ofRecording x = .ok script)
    (written : (c.world.onFiles (c.mode.current.store.write x.id script)).1 = .ok ()) :
    ∃ t path, c.mode.stopRecording? c.world = some t ∧ c.mode.current.store.path x.id = .ok path ∧
      t.2.1.files.find path = .ok (some (.file (Utf8.encode script.toList))) := by
  obtain ⟨after, same, kept⟩ := stop_eq consistent current
  obtain ⟨path, named, found⟩ := ScriptStore.write_ok (World.onFiles_ok written)
  refine ⟨c.mode.current.stop c.world, path, ?_, named, ?_⟩
  · rw [stopRecording?_eq recorder consistent, current, Option.map_some]
  · rw [same, kept script rendered]
    exact found

theorem left_of_failed (consistent : c.mode.current.Consistent c.world)
    (running : c.mode.isRunning = true ∧ c.mode.hasPage = true) {fault : Fault} (failed : c.storing = .error fault) :
    IsLeft c.mode (c.moved (c.mode.current.stop c.world)).mode := by
  cases current : c.mode.current.current? with
  | none =>
    rw [storing, current] at failed
    cases failed
  | some x =>
    have active := (isRecording_iff consistent).mpr ⟨x, current⟩
    obtain ⟨after, same, _⟩ := stop_eq consistent current
    rw [same]
    exact ⟨running.1, running.2, rfl, active⟩

end Closing

end Course

end Mode

end BrowserFlow
