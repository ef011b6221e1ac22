import BrowserFlow.Proofs.Value.JsonText
import BrowserFlow.Value.Overlay
import Mathlib.Data.List.Nodup

/-!
What stands under a key of a dictionary that has been laid over another one, and under a path of keys.
-/

namespace BrowserFlow.Entries

theorem get?_cons (name : String) (v : Value) (entries : Entries) (key : String) :
    get? ((name, v) :: entries) key = if name = key then some v else get? entries key := by
  rw [get?, get?, List.find?_cons]
  by_cases same : name = key
  · rw [if_pos same, beq_iff_eq.mpr same]
    rfl
  · rw [if_neg same, beq_eq_false_iff_ne.mpr same]

theorem find?_key_eq_none {β : Type} {list : List (String × β)} {key : String} :
    (list.find? fun entry => entry.1 == key).map (·.2) = none ↔ key ∉ list.map (·.1) := by
  rw [Option.map_eq_none_iff, List.find?_eq_none, List.mem_map]
  constructor
  · rintro none ⟨entry, member, rfl⟩
    exact none entry member (beq_self_eq_true _)
  · intro none entry member same
    exact none ⟨entry, member, eq_of_beq same⟩

theorem get?_eq_none {entries : Entries} {key : String} : get? entries key = none ↔ key ∉ entries.map (·.1) :=
  find?_key_eq_none

theorem get?_append (entries others : Entries) (key : String) :
    get? (entries ++ others) key = (get? entries key <|> get? others key) := by
  rw [get?, List.find?_append, get?, get?]
  cases entries.find? fun entry => entry.1 == key <;> rfl

theorem mem_of_get? {entries : Entries} {key : String} {v : Value} (found : get? entries key = some v) :
    (key, v) ∈ entries := by
  obtain ⟨entry, find, rfl⟩ := Option.map_eq_some_iff.mp found
  have key := List.find?_some find
  have same := eq_of_beq key
  rw [← same]
  exact List.mem_of_find?_eq_some find

theorem get?_put (entries : Entries) (name : String) (v : Value) (key : String) :
    get? (put entries name v) key = if name = key then some v else get? entries key := by
  induction entries with
  | nil => exact get?_cons name v [] key
  | cons entry entries ih =>
    obtain ⟨other, w⟩ := entry
    rw [put, get?_cons]
    by_cases here : other = name
    · rw [if_pos (beq_iff_eq.mpr here), get?_cons, here]
      by_cases same : name = key
      · rw [if_pos same, if_pos same]
      · rw [if_neg same, if_neg same, if_neg same]
    · rw [if_neg (mt beq_iff_eq.mp here), get?_cons, ih]
      by_cases same : name = key
      · rw [if_pos same, if_pos same, if_neg fun last => here (last.trans same.symm)]
      · rw [if_neg same, if_neg same]

/-! ### Names that come once -/

/-- No name comes twice. -/
def Distinct (entries : Entries) : Prop := (entries.map (·.1)).Nodup

instance (entries : Entries) : Decidable entries.Distinct := inferInstanceAs (Decidable (List.Nodup _))

theorem get?_of_mem {entries : Entries} (distinct : entries.Distinct) {key : String} {v : Value}
    (member : (key, v) ∈ entries) : get? entries key = some v := by
  cases found : get? entries key with
  | none => exact absurd (List.mem_map.mpr ⟨_, member, rfl⟩) (get?_eq_none.mp found)
  | some w =>
    have same := List.inj_on_of_nodup_map distinct (mem_of_get? found) member rfl
    cases same
    rfl

theorem keys_put (entries : Entries) (name : String) (v : Value) : (put entries name v).map (·.1) =
    if name ∈ entries.map (·.1) then entries.map (·.1) else entries.map (·.1) ++ [name] := by
  induction entries with
  | nil => rfl
  | cons entry entries ih =>
    obtain ⟨other, w⟩ := entry
    rw [put]
    by_cases here : other = name
    · rw [if_pos (beq_iff_eq.mpr here), List.map_cons, List.map_cons, if_pos (List.mem_cons.mpr (.inl here.symm))]
    · rw [if_neg (mt beq_iff_eq.mp here), List.map_cons, ih, List.map_cons]
      by_cases there : name ∈ entries.map (·.1)
      · rw [if_pos there, if_pos (List.mem_cons_of_mem _ there)]
      · rw [if_neg there, if_neg (by simpa [Ne.symm here] using there)]
        rfl

theorem Distinct.put {entries : Entries} (distinct : entries.Distinct) (name : String) (v : Value) :
    (entries.put name v).Distinct := by
  rw [Distinct, keys_put]
  split
  · exact distinct
  · rename_i new
    exact List.nodup_append.mpr ⟨distinct, List.nodup_singleton _, fun _ old _ last same =>
      new (List.mem_singleton.mp last ▸ same ▸ old)⟩

theorem distinct_collect (pairs : List (String × Value)) : (collect pairs).Distinct := by
  have from' (entries : Entries) (distinct : entries.Distinct) :
      (pairs.foldl (fun entries pair => put entries pair.1 pair.2) entries).Distinct := by
    induction pairs generalizing entries with
    | nil => exact distinct
    | cons pair pairs ih => exact ih _ (distinct.put pair.1 pair.2)
  exact from' [] List.nodup_nil

theorem mem_collect (pairs : List (String × Value)) : ∀ entry ∈ collect pairs, ∃ pair ∈ pairs, entry.2 = pair.2 := by
  have from' (entries : Entries) : ∀ entry ∈ pairs.foldl (fun entries pair => put entries pair.1 pair.2) entries,
      entry ∈ entries ∨ ∃ pair ∈ pairs, entry.2 = pair.2 := by
    induction pairs generalizing entries with
    | nil => exact fun entry member => .inl member
    | cons pair pairs ih =>
      intro entry member
      rcases ih _ entry member with earlier | ⟨other, among, same⟩
      · rcases mem_put earlier with old | new
        · exact .inl old
        · exact .inr ⟨pair, by simp, new⟩
      · exact .inr ⟨other, List.mem_cons_of_mem _ among, same⟩
  intro entry member
  rcases from' [] entry member with none | found
  · exact absurd none List.not_mem_nil
  · exact found

/-! ### Laying over -/

theorem get?_overlay {base updates : Entries} (distinct : updates.Distinct) (key : String) :
    get? (overlay base updates) key = match get? updates key with
      | none => get? base key
      | some v => some (match get? base key with
        | some w => Value.overlay w v
        | none => v) := by
  induction updates generalizing base with
  | nil =>
    unfold overlay
    rfl
  | cons entry updates ih =>
    obtain ⟨name, v⟩ := entry
    obtain ⟨new, distinct⟩ := List.nodup_cons.mp distinct
    rw [overlay, ih distinct, get?_put, get?_cons]
    by_cases same : name = key
    · subst same
      have later : get? updates name = none := get?_eq_none.mpr new
      cases below : get? base name <;> simp only [later, if_true]
    · rw [if_neg same, if_neg same]

theorem distinct_overlay {base : Entries} (distinct : base.Distinct) (updates : Entries) :
    Distinct (overlay base updates) := by
  induction updates generalizing base with
  | nil => rwa [overlay]
  | cons entry updates ih =>
    rw [overlay]
    exact ih (distinct.put entry.1 _)

theorem overlay_plain {base : Value} (plain : base.dict? = none) (v : Value) : Value.overlay base v = v := by
  cases v with
  | dict updates =>
    cases base with
    | dict entries => cases plain
    | _ => rw [Value.overlay]; intro _ same; cases same
  | _ => rw [Value.overlay]; intro _ same; cases same

theorem overlay_by_plain {v : Value} (plain : v.dict? = none) (base : Value) : Value.overlay base v = v := by
  cases v with
  | dict updates => cases plain
  | _ => rw [Value.overlay]; intro _ same; cases same

/-- What is laid over stands there, if it is no dictionary. -/
theorem get?_overlay_some {base updates : Entries} (distinct : updates.Distinct) {key : String} {v : Value}
    (found : get? updates key = some v) (plain : v.dict? = none) : get? (overlay base updates) key = some v := by
  rw [get?_overlay distinct, found]
  dsimp only
  split
  · rw [overlay_by_plain plain]
  · rfl

/-- Where there was no dictionary, the first of the two counts that has the key. -/
theorem get?_overlay_plain {base updates : Entries} (distinct : updates.Distinct) {key : String}
    (plain : ∀ v ∈ get? base key, v.dict? = none) :
    get? (overlay base updates) key = (get? updates key <|> get? base key) := by
  rw [get?_overlay distinct]
  cases get? updates key with
  | none => rfl
  | some v =>
    dsimp only
    split
    · rename_i w found
      rw [overlay_plain (plain w found)]
      rfl
    · rfl

/-! ### Paths of keys -/

/-- What stands at the end of a path that leads through dictionaries. -/
def at? : Entries → List String → Option Value
  | _, [] => none
  | entries, [key] => get? entries key
  | entries, key :: keys =>
    match get? entries key with
    | some (.dict inner) => at? inner keys
    | _ => none

theorem at?_nil (path : List String) : at? [] path = none := by
  rcases path with _ | ⟨key, _ | ⟨next, keys⟩⟩ <;> rfl

theorem at?_key (entries : Entries) (key : String) : at? entries [key] = get? entries key := rfl

/-- The entries of a section; none if it is missing. -/
def inner (entries : Entries) (name : String) : Entries := ((get? entries name).bind Value.dict?).getD []

theorem at?_inner (entries : Entries) (name key : String) :
    at? entries [name, key] = get? (inner entries name) key := by
  rw [at?, inner]
  · cases get? entries name with
    | none => rfl
    | some v => cases v <;> rfl
  · exact fun same => by cases same

theorem at?_section {entries inner : Entries} {name : String} (here : get? entries name = some (.dict inner))
    (key : String) : at? entries [name, key] = get? inner key := by
  rw [at?_inner, Entries.inner, here]
  rfl

theorem at?_none {entries : Entries} {name : String} (missing : get? entries name = none) (key : String) :
    at? entries [name, key] = none := by
  rw [at?_inner, inner, missing]
  rfl

/-- What stands under the name, if anything does, is a dictionary. -/
def IsSection (entries : Entries) (name : String) : Prop := ∀ v ∈ get? entries name, ∃ inner : Entries, v = .dict inner

theorem IsSection.cases {entries : Entries} {name : String} (section' : entries.IsSection name) :
    get? entries name = none ∨ ∃ inner : Entries, get? entries name = some (.dict inner) := by
  cases found : get? entries name with
  | none => exact .inl rfl
  | some v =>
    obtain ⟨inner, rfl⟩ := section' v found
    exact .inr ⟨inner, rfl⟩

/-- No name comes twice, neither at the top nor in a dictionary directly below. -/
structure Keyed (entries : Entries) : Prop where
  top : entries.Distinct
  below : ∀ name inner, get? entries name = some (.dict inner) → Distinct inner

theorem overlay_dict (base : Value) (inner : Entries) :
    (∃ entries : Entries, base = .dict entries ∧ Value.overlay base (.dict inner) = .dict (overlay entries inner)) ∨
      Value.overlay base (.dict inner) = .dict inner := by
  cases base with
  | dict entries => exact .inl ⟨entries, rfl, Value.overlay.eq_1 ..⟩
  | _ => exact .inr (overlay_plain rfl _)

theorem keyed_overlay {base updates : Entries} (first : base.Keyed) (second : updates.Keyed) :
    Keyed (overlay base updates) := by
  refine ⟨distinct_overlay first.top updates, fun name inner found => ?_⟩
  rw [get?_overlay second.top] at found
  cases there : get? updates name with
  | none =>
    rw [there] at found
    exact first.below name inner found
  | some v =>
    rw [there] at found
    cases below : get? base name with
    | none =>
      rw [below] at found
      exact second.below name inner (there.trans found)
    | some w =>
      rw [below] at found
      have merged : Value.overlay w v = .dict inner := Option.some.inj found
      cases v with
      | dict updates' =>
        rcases overlay_dict w updates' with ⟨entries, rfl, both⟩ | replaced
        · cases both.symm.trans merged
          exact distinct_overlay (first.below name entries below) updates'
        · cases replaced.symm.trans merged
          exact second.below name _ there
      | _ => cases (overlay_by_plain rfl w).symm.trans merged

section Overlay

variable {base updates : Entries} (keyed : updates.Keyed) {name : String}

include keyed

/-- Under the name of a section that is laid over there is a section with all that it has. -/
theorem get?_overlay_dict (base : Entries) {inner : Entries} (there : get? updates name = some (.dict inner)) :
    ∃ merged : Entries, get? (overlay base updates) name = some (.dict merged) ∧
      ∀ key v, get? inner key = some v → v.dict? = none → get? merged key = some v := by
  rw [get?_overlay keyed.top, there]
  dsimp only
  cases get? base name with
  | none => exact ⟨inner, rfl, fun key v found _ => found⟩
  | some w =>
    rcases overlay_dict w inner with ⟨_, _, merged⟩ | replaced
    · exact ⟨_, congrArg some merged, fun key v found plain =>
        get?_overlay_some (keyed.below name inner there) found plain⟩
    · exact ⟨inner, congrArg some replaced, fun key v found _ => found⟩

theorem isSection_overlay (first : base.IsSection name) (second : updates.IsSection name) :
    IsSection (overlay base updates) name := by
  intro v found
  rcases second.cases with missing | ⟨inner, there⟩
  · rw [Option.mem_def, get?_overlay keyed.top, missing] at found
    exact first v found
  · obtain ⟨merged, here, _⟩ := get?_overlay_dict keyed base there
    exact ⟨merged, Option.some.inj (found.symm.trans here)⟩

/-- In a section that has no sections of its own the first of the two counts that has the key. -/
theorem at?_overlay (first : base.IsSection name) (second : updates.IsSection name) {key : String}
    (plain : ∀ v ∈ base.at? [name, key], v.dict? = none) :
    at? (overlay base updates) [name, key] = (updates.at? [name, key] <|> base.at? [name, key]) := by
  have whole : get? (overlay base updates) name = _ := get?_overlay keyed.top name
  rcases second.cases with missing | ⟨inner, there⟩
  · rw [missing] at whole
    rw [at?_none missing]
    rcases first.cases with missing' | ⟨outer, below⟩
    · rw [at?_none missing', at?_none (whole.trans missing')]
      rfl
    · rw [at?_section below, at?_section (whole.trans below)]
      rfl
  · rw [there] at whole
    rcases first.cases with missing' | ⟨outer, below⟩
    · rw [missing'] at whole
      rw [at?_section whole, at?_section there, at?_none missing']
      cases get? inner key <;> rfl
    · rw [below] at whole
      have merged : get? (overlay base updates) name = some (.dict (overlay outer inner)) := by
        rw [whole]
        exact congrArg some (Value.overlay.eq_1 ..)
      rw [at?_section below] at plain ⊢
      rw [at?_section merged, at?_section there, get?_overlay_plain (keyed.below name inner there) plain]

end Overlay

end BrowserFlow.Entries
