import BrowserFlow.Proofs.Record.Course
import BrowserFlow.Proofs.Store.Atomic

/-!
Operations of a recorder that fail. Nothing of what they have begun stays: the recorder is as it was, and so are the
files. Only a stop leaves a trace, the time at which the recording was last touched, and it can be tried again.
-/

namespace BrowserFlow

theorem World.onFiles_failed {α : Type} {w : World} {action : FileM α} {fault : Fault} (atomic : action.IsAtomic)
    (failed : (w.onFiles action).1 = .error fault) : (w.onFiles action).2 = w := by
  have outcome : action.outcome w.files = (.error fault, (w.onFiles action).2.files) := Prod.ext failed rfl
  have same : (w.onFiles action).2.files = w.files := atomic _ _ _ outcome
  have written : (w.onFiles action).2 = { w with files := (w.onFiles action).2.files } := rfl
  rw [written, same]

namespace Recorder

theorem stop_files {r r' : Recorder} {w after : World} {replies : List (PageRequest × Reply)} {fault : Fault}
    (ends : Ends (r.stop w) replies (.error fault) r' after)
    (removed : ∀ name fault, (PageRequest.removeLoadListener name, Except.error fault) ∉ replies)
    (uncancelled : ∀ request, (request, Except.error Fault.cancelled) ∉ replies) : after.files = w.files := by
  rcases stop_cases r w with refused | ⟨x, active, current⟩
  · rw [refused] at ends
    obtain ⟨_, _, rfl, _⟩ := ends.of_finish
    rfl
  · rw [stop_eq active current] at ends
    split at ends
    · obtain ⟨_, _, rfl, _⟩ := ends.of_finish
      rfl
    · rename_i script rendered
      split at ends
      · rename_i refused failed
        obtain ⟨_, _, rfl, _⟩ := ends.of_finish
        rw [World.onFiles_failed (r.store.write_isAtomic x.id script) failed]
      · split at ends
        · -- the script has been written, so the stop can only fail with one of the two replies
          obtain ⟨w₁, reply, rest, rfl, _, next⟩ := ends.of_ask
          cases reply with
          | error fault => exact absurd (List.mem_cons_self ..) (removed loadListener fault)
          | ok answer =>
            obtain ⟨w₂, reply, rest, rfl, _, next⟩ := next.of_ask
            cases reply with
            | ok answer => cases next.of_finish.1
            | error fault => cases fault with
              | cancelled => exact absurd (by simp) (uncancelled (.run .uninstall))
              | _ => cases next.of_finish.1
        · cases ends.of_finish.1

/-- An operation that fails has changed nothing, except that a recording that could not be stopped counts as
    touched. -/
structure Unchanged (r : Recorder) (w : World) (call : Call) (r' : Recorder) (after : World) : Prop where
  state : r'.state = r.state
  current : r'.current = r.current
  page : r'.hasPage = r.hasPage
  store : r'.store = r.store
  recording : r'.current? = r.current? ∨ call = .stop ∧ r'.current? = r.current?.map (touched · w.now)
  files : after.files = w.files

theorem Consistent.no_page {r : Recorder} {w : World} (consistent : Consistent r w) (idle : r.state = .idle) :
    r.hasPage = false := by
  rw [← Bool.not_eq_true, consistent.page]
  exact fun active => active idle

theorem unchanged_of_error {r r' : Recorder} {w after : World} {call : Call} {replies : List (PageRequest × Reply)}
    {fault : Fault} (consistent : Consistent r w) (ends : Ends (call.begin r w) replies (.error fault) r' after)
    (removed : ∀ name fault, (PageRequest.removeLoadListener name, Except.error fault) ∉ replies)
    (uncancelled : call = .stop → ∀ request, (request, Except.error Fault.cancelled) ∉ replies) :
    Unchanged r w call r' after := by
  cases Call.effect consistent.unclaimed ends with
  | refused _ _ passes => exact ⟨rfl, rfl, rfl, rfl, .inl rfl, passes.files⟩
  | notStarted targetSite _ idle passes =>
    have none := consistent.idle.mp idle
    refine ⟨idle.symm, none.symm, (consistent.no_page idle).symm, rfl, .inl ?_, passes.files⟩
    rw [current?, current?, none]
    rfl
  | @notStopped x _ _ current later =>
    refine ⟨rfl, rfl, rfl, rfl, .inr ⟨rfl, ?_⟩, stop_files ends removed (uncancelled rfl)⟩
    rw [current, current?_touch current, Option.map_some]

/-- A start only succeeds if the page has answered everything. -/
theorem start_answered {r r' : Recorder} {w after : World} {name description : Option Value}
    {replies : List (PageRequest × Reply)} {outcome : Outcome}
    (ends : Ends (r.start w name description) replies (.ok outcome) r' after) :
    ∀ request fault, (request, Except.error fault) ∉ replies := by
  unfold start at ends
  split at ends
  · cases ends.of_finish.1
  · obtain ⟨w₁, reply, rest, rfl, _, next⟩ := ends.of_ask
    cases reply with
    | error fault => cases next.of_finish.1
    | ok url =>
      obtain ⟨w₂, reply, rest, rfl, _, next⟩ := next.of_ask
      cases reply with
      | error fault => cases next.of_finish.1
      | ok exposed =>
        obtain ⟨w₃, reply, rest, rfl, _, next⟩ := next.of_ask
        cases reply with
        | error fault => cases next.of_finish.1
        | ok installed =>
          obtain ⟨w₄, reply, rest, rfl, _, next⟩ := next.of_ask
          cases reply with
          | error fault => cases next.of_finish.1
          | ok listening =>
            obtain ⟨_, _, _, rfl⟩ := next.of_finish
            simp

theorem stop_retried {r r' : Recorder} {w after : World} {x : Recording} {script : String} (consistent : Consistent r w)
    (current : r.current? = some x) (rendered : Script.ofRecording x = .ok script)
    (unchanged : Unchanged r w .stop r' after) {refusal : Option String} {later : World}
    (written : (later.onFiles (ScriptStore.write { r.store with refusal } x.id script)).1 = .ok ()) (first : Answer)
    {second : Reply} (uncancelled : second ≠ .error .cancelled) :
    ∃ stopped final path, Ends (Recorder.stop { r' with store := { r'.store with refusal } } later)
        [(.removeLoadListener loadListener, .ok first), (.run .uninstall, second)] (.ok (.stopped x.id)) stopped final ∧
      stopped.state = .idle ∧ r.store.path x.id = .ok path ∧
      final.files.find path = .ok (some (.file (Utf8.encode script.toList))) := by
  have on : r.state ≠ .idle := by
    rw [ne_eq, consistent.idle_iff, current]
    nofun
  have active : r'.state ≠ .idle := by rwa [unchanged.state]
  have page : r'.hasPage = true := by rw [unchanged.page, consistent.page.mpr on]
  obtain ⟨y, shown, same, made⟩ : ∃ y, r'.current? = some y ∧ y.id = x.id ∧ Script.ofRecording y = .ok script := by
    rcases unchanged.recording with kept | ⟨_, later⟩
    · exact ⟨x, kept.trans current, rfl, rendered⟩
    · exact ⟨touched x w.now, by rw [later, current, Option.map_some], rfl, rendered⟩
  rw [← unchanged.store, ← same] at written
  obtain ⟨path, named, held⟩ := ScriptStore.write_ok (World.onFiles_ok written)
  have stopped := @stop_written { r' with store := { r'.store with refusal } } later y script active shown page made
    written first second uncancelled
  rw [same] at stopped
  rw [same] at held
  refine ⟨_, _, path, stopped, rfl, ?_, held⟩
  rw [← same, ← unchanged.store]
  exact named

end Recorder

end BrowserFlow
