import BrowserFlow.Proofs.Record.Log
import BrowserFlow.Proofs.Script.Summary
import BrowserFlow.Proofs.Store

/-!
What a successful stop leaves in the store: a script that can be read, and whose summary tells the recording.
-/

namespace BrowserFlow

/-- A recording begun before the year 10000, whose texts have no line boundaries but those that a script escapes, and
    its pages none at all. -/
structure Recording.Legible (x : Recording) : Prop where
  name : Script.Escapable (Script.Header.ofRecording x).nameText.toList
  description : ∀ text ∈ (Script.Header.ofRecording x).descriptionText?, Script.Escapable text.toList
  targetSite : ∀ url ∈ x.targetSite, Script.Escapable url.toList
  actions : ∀ a ∈ x.actions, a.LineSafe
  created : x.createdAt.date.year ≤ 9999

namespace Recorder

theorem Reaches.stored {store : ScriptStore} {takesScreenshots : Bool} {w after : World} {history : List Entry}
    {r : Recorder} (run : Reaches store takesScreenshots w history r after) {replies : List (PageRequest × Reply)}
    {id : String} {r' : Recorder} {final : World} (ends : Ends (r.stop after) replies (.ok (.stopped id)) r' final)
    {x : Recording} (found : r'.recording? id = some x) (legible : x.Legible) : ∃ script,
      r.store.read final.files id = .ok script ∧ Script.ofRecording x = .ok script ∧ x.actions = accepted history ∧
        (Script.Header.ofRecording x).LineSafe ∧ ∀ fileName suffix, ∃ summary,
          Script.summary fileName script suffix = .ok summary ∧
            summary.targetSite = x.targetSite.filter (!·.isEmpty) ∧
            summary.manualSteps = x.actions.countP (·.kind == .manualStep) := by
  obtain ⟨y, script, path, _, same, _, held, log, rendered, named, written⟩ := run.stopped ends
  cases same
  cases held.symm.trans found
  obtain ⟨filled, visible⟩ := (run.consistent.effect (stop_ends ends)).id_visible found
  have safe : (Script.Header.ofRecording x).LineSafe :=
    ⟨fun c member => Text.boundary_of_not_blank (visible c member), legible.name, legible.description,
      legible.targetSite⟩
  obtain ⟨u, time⟩ := Script.readTimestamp_total legible.created
  have plain := Script.unifyNewlines_render rendered safe legible.actions
  refine ⟨script, ScriptStore.read_written named written plain, rendered, log, safe, fun fileName suffix => ?_⟩
  have told := Script.scan_render rendered safe legible.actions filled (Text.trimmed_of_visible visible) time fileName
    suffix
  exact ⟨_, told, rfl, rfl⟩

end Recorder

end BrowserFlow
