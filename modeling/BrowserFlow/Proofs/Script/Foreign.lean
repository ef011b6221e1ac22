import BrowserFlow.Proofs.Result
import BrowserFlow.Script.Layout

/-!
What keeps a script from being written is never one of the program's own errors: a value has no such member or is of
the wrong kind, or a number cannot be converted. Who catches only the program's own errors lets all of them through.
-/

namespace BrowserFlow

/-- If the computation fails, then not with one of the program's own errors. -/
def IsForeign {α : Type} (x : Except Fault α) : Prop := ∀ e, x ≠ .error (.flow e)

namespace IsForeign

variable {α β : Type}

theorem ok (a : α) : IsForeign (.ok a) := fun _ => nofun

theorem bind {x : Except Fault α} {f : α → Except Fault β} (first : IsForeign x) (rest : ∀ a, IsForeign (f a)) :
    IsForeign (x >>= f) := by
  intro e failed
  rcases bind_error failed with failed | ⟨a, _, failed⟩
  · exact first e failed
  · exact rest a e failed

end IsForeign

theorem Value.truncate_foreign (x : Float) : IsForeign (Value.truncate x) := by
  intro e
  unfold truncate
  split <;> nofun

theorem Value.toFloat?_foreign (v : Value) : IsForeign v.toFloat? := by
  intro e
  cases v with
  | int n =>
    rw [toFloat?, floatOfInt]
    split <;> nofun
  | _ => nofun

namespace Script

theorem quotable_foreign (v : Value) : IsForeign (quotable v) := by
  cases v with
  | str s => exact .ok s
  | _ => exact fun _ => nofun

theorem onOneLine_foreign (v : Value) : IsForeign (onOneLine v) := by
  cases v with
  | str s => exact .ok _
  | _ => exact fun _ => nofun

theorem quotableOr_foreign (substitute : String) (v : Option Value) : IsForeign (quotableOr substitute v) := by
  cases v with
  | none => exact .ok substitute
  | some v => exact quotable_foreign v

theorem textRemark_foreign (locator : Option Locator) : IsForeign (textRemark locator) := by
  unfold textRemark
  split
  · exact .bind (onOneLine_foreign _) fun _ => .ok _
  · exact .ok _

theorem keyName_foreign (value : Option Value) : IsForeign (keyName value) := by
  intro e
  unfold keyName
  split
  · nofun
  · split <;> nofun
  · nofun

theorem coordinate_foreign (v : Value) : IsForeign (coordinate v) := by
  intro e
  unfold coordinate
  split
  · nofun
  · split <;> nofun

theorem scrollTarget_foreign (value : Option Value) : IsForeign (scrollTarget value) := by
  unfold scrollTarget
  dsimp only
  split
  · refine .bind (coordinate_foreign _) fun x => ?_
    cases x with
    | none => exact .ok _
    | some x =>
      refine .bind (coordinate_foreign _) fun y => ?_
      cases y <;> exact .ok _
  · exact .ok _

theorem waitTime_foreign (value : Option Value) : IsForeign (waitTime value) := by
  cases value with
  | none => exact .ok _
  | some v =>
    refine .bind v.toFloat?_foreign fun x => ?_
    cases x with
    | none => exact .ok _
    | some x =>
      intro e failed
      dsimp only at failed
      split at failed
      · cases failed
      · cases failed
      · rename_i other
        exact Value.truncate_foreign x e (other.trans failed)

theorem Step.ofAction_foreign (a : Action) : IsForeign (Step.ofAction a) := by
  unfold Step.ofAction
  cases a.kind with
  | click => exact .bind (quotable_foreign _) fun _ => .bind (textRemark_foreign _) fun _ => .ok _
  | input =>
    refine .bind (quotable_foreign _) fun _ => .bind (quotableOr_foreign _ _) fun _ => ?_
    exact .bind (textRemark_foreign _) fun _ => .ok _
  | select => exact .bind (quotable_foreign _) fun _ => .bind (quotableOr_foreign _ _) fun _ => .ok _
  | scroll => exact .bind (scrollTarget_foreign _) fun _ => .ok _
  | keypress => exact .bind (keyName_foreign _) fun _ => .ok _
  | manualStep =>
    dsimp only
    split
    · exact .bind (onOneLine_foreign _) fun _ => .ok _
    · exact .ok _
  | wait => exact .bind (waitTime_foreign _) fun _ => .ok _

theorem heldLine_foreign (held : Option Action) : IsForeign (heldLine held) := by
  cases held with
  | none => exact .ok _
  | some a => exact .bind (Step.ofAction_foreign a) fun _ => .ok _

theorem bodyLines_foreign (last : Option String) (held : Option Action) (actions : List Action) :
    IsForeign (bodyLines last held actions) := by
  induction actions generalizing last held with
  | nil => exact heldLine_foreign held
  | cons a rest ih =>
    rw [bodyLines]
    split
    · exact ih _ _
    · refine .bind (heldLine_foreign held) fun before => ?_
      split
      · exact .bind (ih _ _) fun _ => .ok _
      · exact .bind (Step.ofAction_foreign a) fun _ => .bind (ih _ _) fun _ => .ok _

theorem Header.lines_foreign (h : Header) : IsForeign h.lines := by
  have named (description : List String) : IsForeign (do
      let name ← quotableOr "" h.name.given?
      return [importLine, "", idMarker ++ " " ++ h.id, createdMarker ++ " " ++ h.createdAt.headerText] ++
        description ++ ["", "test(" ++ quoted name ++ ", async (\x7b page \x7d) => \x7b"]) :=
    .bind (quotableOr_foreign _ _) fun _ => .ok _
  unfold Header.lines
  dsimp only
  split
  · exact .bind (quotable_foreign _) fun _ => .bind (.ok _) named
  · exact .bind (.ok _) named

theorem ofRecording_foreign (x : Recording) : IsForeign (ofRecording x) :=
  .bind (Header.lines_foreign _) fun _ => .bind (bodyLines_foreign _ _ _) fun _ => .ok _

end Script

end BrowserFlow
