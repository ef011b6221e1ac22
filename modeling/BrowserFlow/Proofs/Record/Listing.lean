import BrowserFlow.Proofs.Record.Stored
import BrowserFlow.Proofs.Store.Contents
import Mathlib.Data.List.Perm.Basic

/-!
The listing of a store that has the scripts of some recordings and no others: what it tells of each, and in which order.
-/

namespace BrowserFlow

namespace IdSupply

theorem isValidId (ids : IdSupply) (n : Nat) : ScriptStore.isValidId (ids.id n) = true := by
  cases valid : ScriptStore.isValidId (ids.id n) with
  | true => rfl
  | false =>
    have letters := ids.plain n
    rcases ScriptStore.isValidId_false.mp valid with empty | dot | dots | slash
    · exact absurd empty (ids.nonempty n)
    · rw [dot] at letters
      simpa using letters '.' (by decide)
    · rw [dots] at letters
      simpa using letters '.' (by decide)
    · simpa using letters '/' slash

/-- The file of a script is none of the temporary ones. -/
theorem name_visible (ids : IdSupply) (n : Nat) (suffix : String) :
    Text.startsWith (ids.id n ++ suffix).toList ScriptStore.temporaryMark.toList = false := by
  rw [String.toList_append]
  cases letters : (ids.id n).toList with
  | nil => exact absurd (by rw [← String.ofList_toList (s := ids.id n), letters]) (ids.nonempty n)
  | cons c cs =>
    have other : c ≠ '.' := by
      rintro rfl
      simpa using ids.plain n '.' (by rw [letters]; exact List.mem_cons_self)
    have mark : ScriptStore.temporaryMark.toList = ['.', 't', 'm', 'p', '-'] := rfl
    rw [Text.startsWith, mark, List.cons_append, List.isPrefixOf_cons_cons, beq_eq_false_iff_ne.mpr other.symm,
      Bool.false_and]

end IdSupply

/-- What the script of a recording tells of it. -/
def Recording.summary (x : Recording) : Recording where
  id := x.id
  name := x.name
  description := x.description
  createdAt := x.createdAt.toMillisecond
  updatedAt := x.createdAt.toMillisecond
  targetSite := x.targetSite
  manualSteps := x.actions.countP (·.kind == .manualStep)

/-- A recording has a name, and a description and a site only if they say something. -/
structure Recording.Filled (x : Recording) : Prop where
  name : x.name.isPresent = true
  description : ∀ v ∈ x.description, v.isPresent = true
  targetSite : ∀ url ∈ x.targetSite, url ≠ ""

namespace Script

theorem Header.Textual.name_eq {h : Header} (textual : h.Textual) : Value.str h.nameText = h.name := by
  obtain ⟨name, named⟩ := textual.name
  rw [nameText, named]
  rfl

theorem Header.Textual.description_eq {h : Header} (textual : h.Textual) :
    h.descriptionText?.map Value.str = h.description.bind Value.present? := by
  rw [descriptionText?, Option.map_map]
  cases found : h.description.bind Value.present? with
  | none => rfl
  | some v =>
    obtain ⟨s, rfl⟩ := textual.description.present v found
    rfl

theorem stem_append (id suffix : String) : stem (id ++ suffix) suffix = id := by
  have ends : (id ++ suffix).endsWith suffix = true := by
    rw [String.endsWith, String.Slice.endsWith_string_iff]
    simp
  rw [stem, if_pos ends, String.length_append, Nat.add_sub_cancel, String.toList_append, ← String.length_toList,
    List.take_left, String.ofList_toList]

/-- What can be written in a header is text. -/
theorem Header.textual_of_lines {h : Header} {lines : List String} (written : h.lines = .ok lines)
    (name : h.name.isPresent = true) (description : ∀ v ∈ h.description, v.isPresent = true) : h.Textual := by
  have given : h.name.given? = some h.name := by
    cases kind : h.name with
    | null =>
      rw [kind] at name
      cases name
    | _ => rfl
  rw [Header.lines, given] at written
  cases told : h.description with
  | none =>
    rw [told] at written
    obtain ⟨_, _, written⟩ := bind_ok written
    obtain ⟨text, named, _⟩ := bind_ok written
    exact ⟨⟨text, quotable_ok named⟩, by rw [told]; exact Value.textual_none⟩
  | some v =>
    rw [told, Option.bind_some, Value.present?, if_pos (description v told)] at written
    obtain ⟨said, quoted, written⟩ := bind_ok written
    obtain ⟨_, _, written⟩ := bind_ok written
    obtain ⟨text, named, _⟩ := bind_ok written
    refine ⟨⟨text, quotable_ok named⟩, ?_⟩
    rw [told, quotable_ok quoted]
    exact Value.textual_text said

end Script

namespace Recorder

/-- What the listing tells of one file; of one that cannot be read it tells nothing. -/
def tell (store : ScriptStore) (files : Files) (name : String) : Except Fault (Option Recording) := do
  match store.read files (Script.stem name store.suffix) with
  | .ok script => return some (← Script.summary name script store.suffix)
  | .error _ => return none

theorem list_eq (store : ScriptStore) (files : Files) : list store files = (do
    let found ← (← store.list files).filterMapM (tell store files)
    return found.mergeSort fun a b => b.updatedAt.micros ≤ a.updatedAt.micros) := rfl

/-- What is sorted by a time in falling order. -/
theorem newest_first {α : Type} (time : α → Int) (xs : List α) :
    (xs.mergeSort fun a b => time b ≤ time a).Pairwise fun a b => time b ≤ time a := by
  have sorted := @List.pairwise_mergeSort α (fun a b => time b ≤ time a)
    (fun a b c first second => by
      have first : time b ≤ time a := by simpa using first
      have second : time c ≤ time b := by simpa using second
      simpa using Int.le_trans second first)
    (fun a b => by simpa using Int.le_total (time b) (time a)) xs
  exact sorted.imp fun order => by simpa using order

theorem filterMapM_all {α β γ : Type} {f : α → Except Fault (Option β)} {g : γ → β} {as : List α} {cs : List γ}
    (each : List.Forall₂ (fun a c => f a = .ok (some (g c))) as cs) : as.filterMapM f = .ok (cs.map g) := by
  induction each with
  | nil => rfl
  | cons first others ih =>
    rw [List.filterMapM_cons, first]
    simp only [Bind.bind, Except.bind, ih]
    rfl

end Recorder

/-- The store has the scripts of these recordings, each under its id, and no others. -/
structure Shelf (s : ScriptStore) (files : Files) (kept : List Recording) (base : List String)
    (m : ScriptStore.Scripts) : Prop where
  holds : s.Holds base files m
  scripts : ∀ x ∈ kept, ∃ script, Script.ofRecording x = .ok script ∧ m.lookup x.id = some script
  complete : ∀ id ∈ m, ∃ x ∈ kept, x.id = id
  distinct : (kept.map (·.id)).Nodup
  supplied : ∀ x ∈ kept, ∃ (ids : IdSupply) (n : Nat), x.id = ids.id n
  filled : ∀ x ∈ kept, x.Filled
  plain : ∀ x ∈ kept, '/' ∉ s.suffix.toList

namespace Shelf

variable {s : ScriptStore} {files : Files} {kept : List Recording} {base : List String} {m : ScriptStore.Scripts}
  (shelf : Shelf s files kept base m)

include shelf

theorem mem_iff {id : String} : id ∈ m ↔ id ∈ kept.map (·.id) := by
  rw [List.mem_map]
  constructor
  · exact shelf.complete id
  · rintro ⟨x, member, rfl⟩
    obtain ⟨script, _, there⟩ := shelf.scripts x member
    exact Finmap.mem_iff.mpr ⟨script, there⟩

/-- What is read of a recording and found in its script. -/
theorem told {x : Recording} (member : x ∈ kept) (legible : x.Legible) (first : 1000 ≤ x.createdAt.date.year) :
    ∃ script, s.read files x.id = .ok script ∧
      Script.summary (x.id ++ s.suffix) script s.suffix = .ok x.summary := by
  obtain ⟨script, rendered, there⟩ := shelf.scripts x member
  obtain ⟨ids, n, supplied⟩ := shelf.supplied x member
  obtain ⟨valid, names, _⟩ := shelf.holds.named x.id (Finmap.mem_iff.mpr ⟨script, there⟩)
  have visible : ∀ c ∈ x.id.toList, Text.isBlank c = false := by
    rw [supplied]
    exact ids.visible n
  have safe : (Script.Header.ofRecording x).LineSafe :=
    ⟨fun c member => Text.boundary_of_not_blank (visible c member), legible.name, legible.description,
      legible.targetSite⟩
  have found := shelf.holds.find (shelf.plain x member) valid names
  rw [there] at found
  refine ⟨script, ScriptStore.read_written (ScriptStore.path_eq (shelf.plain x member) valid) found
    (Script.unifyNewlines_render rendered safe legible.actions), ?_⟩
  obtain ⟨name, description, targetSite⟩ := shelf.filled x member
  obtain ⟨_, _, written, _⟩ := Script.render_ok rendered
  have textual := Script.Header.textual_of_lines written name description
  have whole : x.description.bind Value.present? = x.description := by
    cases told : x.description with
    | none => rfl
    | some v => exact if_pos (description v told)
  have site : x.targetSite.filter (!·.isEmpty) = x.targetSite := by
    cases told : x.targetSite with
    | none => rfl
    | some url => simp [targetSite url told]
  have named : x.id ≠ "" := by
    rw [supplied]
    exact ids.nonempty n
  rw [Script.scan_render rendered safe legible.actions named (Text.trimmed_of_visible visible)
    fun cs text => Script.readTimestamp_headerText first legible.created text]
  simp only [Script.Scan.recording, Option.getD_some, textual.name_eq, textual.description_eq]
  simp only [Script.Header.ofRecording, whole, site, Recording.summary]

/-- Every recording is listed, each once, and the newest first. -/
theorem list (legible : ∀ x ∈ kept, x.Legible ∧ 1000 ≤ x.createdAt.date.year) : ∃ entries,
    Recorder.list s files = .ok entries ∧ entries.Perm (kept.map Recording.summary) ∧
      entries.Pairwise fun a b => b.createdAt.micros ≤ a.createdAt.micros := by
  obtain ⟨names, listed, lists⟩ := shelf.holds.lists
  have distinct : (kept.map fun x => x.id ++ s.suffix).Nodup := by
    have joined : (kept.map (·.id)).map (· ++ s.suffix) = kept.map fun x => x.id ++ s.suffix := List.map_map
    rw [← joined]
    exact shelf.distinct.map fun _ _ same => (String.append_left_inj _).mp same
  have same : names.Perm (kept.map fun x => x.id ++ s.suffix) := by
    refine (List.perm_ext_iff_of_nodup lists.distinct distinct).mpr fun name => ?_
    rw [lists.complete, List.mem_map]
    constructor
    · rintro ⟨id, there, rfl⟩
      obtain ⟨x, member, rfl⟩ := shelf.complete id there
      exact ⟨x, member, rfl⟩
    · rintro ⟨x, member, rfl⟩
      exact ⟨x.id, shelf.mem_iff.mpr (List.mem_map_of_mem member), rfl⟩
  have paired : List.Forall₂ (fun name x => x ∈ kept ∧ name = x.id ++ s.suffix) (kept.map fun x => x.id ++ s.suffix)
      kept := List.forall₂_map_left_iff.mpr (List.forall₂_same.mpr fun x member => ⟨member, rfl⟩)
  obtain ⟨ordered, inOrder, perm⟩ := List.perm_comp_forall₂ same paired
  have told : names.filterMapM (Recorder.tell s files) = .ok (ordered.map Recording.summary) := by
    refine Recorder.filterMapM_all (inOrder.imp fun name x => ?_)
    rintro ⟨member, rfl⟩
    obtain ⟨script, read, told⟩ := shelf.told member (legible x member).1 (legible x member).2
    rw [Recorder.tell, Script.stem_append, read]
    simp only [told]
    rfl
  have sorted := Recorder.newest_first (fun a : Recording => a.updatedAt.micros) (ordered.map Recording.summary)
  have sort := List.mergeSort_perm (ordered.map Recording.summary)
    fun a b => decide (b.updatedAt.micros ≤ a.updatedAt.micros)
  refine ⟨_, ?_, sort.trans (perm.map _), ?_⟩
  · rw [Recorder.list_eq, listed]
    simp only [Bind.bind, Except.bind, told]
    rfl
  · refine sorted.imp_of_mem fun {a b} first second later => ?_
    have created {a : Recording} (member : a ∈ (ordered.map Recording.summary).mergeSort fun a b =>
        decide (b.updatedAt.micros ≤ a.updatedAt.micros)) : a.updatedAt = a.createdAt := by
      obtain ⟨x, _, rfl⟩ := List.mem_map.mp (sort.mem_iff.mp member)
      rfl
    rw [← created first, ← created second]
    exact later

theorem refusing (refusal : Option String) : Shelf { s with refusal } files kept base m :=
  { shelf with holds := shelf.holds.refusing refusal }

theorem perm {other : List Recording} (perm : kept.Perm other) : Shelf s files other base m where
  holds := shelf.holds
  scripts x member := shelf.scripts x (perm.mem_iff.mpr member)
  complete id there := by
    obtain ⟨x, member, same⟩ := shelf.complete id there
    exact ⟨x, perm.mem_iff.mp member, same⟩
  distinct := (perm.map _).nodup_iff.mp shelf.distinct
  supplied x member := shelf.supplied x (perm.mem_iff.mpr member)
  filled x member := shelf.filled x (perm.mem_iff.mpr member)
  plain x member := shelf.plain x (perm.mem_iff.mpr member)

/-- A script that has been written takes the place of one with the same id. -/
theorem written {x : Recording} {script : String} {after : Files} (rendered : Script.ofRecording x = .ok script)
    (supplied : ∃ (ids : IdSupply) (n : Nat), x.id = ids.id n) (filled : x.Filled)
    (done : (s.write x.id script).outcome files = (.ok (), after)) :
    Shelf s after (kept.filter (·.id != x.id) ++ [x]) base (m.insert x.id script) := by
  obtain ⟨ids, n, named⟩ := supplied
  have valid : ScriptStore.isValidId x.id = true := named ▸ ids.isValidId n
  obtain ⟨plain, holds⟩ := shelf.holds.written valid (named ▸ ids.name_visible n s.suffix) done
  have cases {motive : Recording → Prop} (others : ∀ y ∈ kept, y.id ≠ x.id → motive y) (this : motive x) :
      ∀ y ∈ kept.filter (·.id != x.id) ++ [x], motive y := by
    intro y member
    rcases List.mem_append.mp member with member | member
    · obtain ⟨member, other⟩ := List.mem_filter.mp member
      exact others y member (bne_iff_ne.mp other)
    · rw [List.mem_singleton.mp member]
      exact this
  refine ⟨holds, cases (fun y member other => ?_) ⟨script, rendered, Finmap.lookup_insert m⟩, fun id there => ?_, ?_,
    cases (fun y member _ => shelf.supplied y member) ⟨ids, n, named⟩, cases (fun y member _ => shelf.filled y member) filled,
    cases (fun _ _ _ => plain) plain⟩
  · obtain ⟨text, rendered, there⟩ := shelf.scripts y member
    exact ⟨text, rendered, by rw [Finmap.lookup_insert_of_ne _ other, there]⟩
  · by_cases same : id = x.id
    · exact ⟨x, by simp, same.symm⟩
    · obtain ⟨y, member, rfl⟩ := shelf.complete id ((Finmap.mem_insert.mp there).resolve_left same)
      exact ⟨y, List.mem_append_left _ (List.mem_filter.mpr ⟨member, bne_iff_ne.mpr same⟩), rfl⟩
  · rw [List.map_append, List.map_singleton]
    refine List.nodup_append.mpr
      ⟨(List.filter_sublist.map _).nodup shelf.distinct, List.nodup_singleton _, fun id earlier last this same => ?_⟩
    obtain ⟨y, kept, rfl⟩ := List.mem_map.mp earlier
    exact bne_iff_ne.mp (List.mem_filter.mp kept).2 (same.trans (List.mem_singleton.mp this))

theorem deleted {id : String} (there : id ∈ kept.map (·.id)) : ∃ after, (s.delete id).outcome files = (.ok (), after) ∧
    Shelf s after (kept.filter (·.id != id)) base (m.erase id) := by
  have plain : '/' ∉ s.suffix.toList := by
    obtain ⟨x, member, _⟩ := List.mem_map.mp there
    exact shelf.plain x member
  obtain ⟨after, done, holds⟩ := shelf.holds.deleted plain (shelf.mem_iff.mpr there)
  have other {x : Recording} (member : x ∈ kept.filter (·.id != id)) : x ∈ kept ∧ x.id ≠ id := by
    obtain ⟨member, other⟩ := List.mem_filter.mp member
    exact ⟨member, bne_iff_ne.mp other⟩
  refine ⟨after, done, holds, fun x member => ?_, fun other there => ?_, ?_, fun x member => ?_, fun x member => ?_,
    fun _ _ => plain⟩
  · obtain ⟨member, other⟩ := other member
    obtain ⟨script, rendered, there⟩ := shelf.scripts x member
    exact ⟨script, rendered, by rw [Finmap.lookup_erase_ne other, there]⟩
  · obtain ⟨apart, there⟩ := Finmap.mem_erase.mp there
    obtain ⟨x, member, rfl⟩ := shelf.complete other there
    exact ⟨x, List.mem_filter.mpr ⟨member, bne_iff_ne.mpr apart⟩, rfl⟩
  · exact (List.filter_sublist.map _).nodup shelf.distinct
  · exact shelf.supplied x (other member).1
  · exact shelf.filled x (other member).1

theorem not_deleted {id : String} (absent : id ∉ kept.map (·.id)) :
    ∃ fault, (s.delete id).outcome files = (.error fault, files) := by
  refine shelf.holds.not_deleted (fun there => absent (shelf.mem_iff.mp there)) fun slash => ?_
  refine Finmap.ext_lookup fun other => ?_
  rw [Finmap.lookup_empty, Finmap.lookup_eq_none]
  intro there
  obtain ⟨x, member, _⟩ := shelf.complete other there
  exact shelf.plain x member slash

end Shelf

end BrowserFlow
