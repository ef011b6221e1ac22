import BrowserFlow.Proofs.Files.Directory
import BrowserFlow.Proofs.Store
import BrowserFlow.Proofs.Store.Atomic
import Mathlib.Data.Finmap
import Mathlib.Tactic.Tauto

/-!
What a store holds: a finite map from ids to scripts. The directory has one file for each of them and nothing else, and
every operation of the store does to the files what it does to the map.
-/

namespace BrowserFlow

theorem Path.child_fields {p : Path} {name : String} {first : List Char} {rest : List (List Char)}
    (fields : Text.splitOn '/' name.toList = first :: rest) (filled : String.ofList first ≠ "")
    (single : String.ofList first ≠ ".") : p.child name = ⟨p.parts ++ String.ofList first ::
      (rest.map String.ofList).filter fun name => !name.isEmpty && name != "."⟩ := by
  rw [child, names, fields, List.map_cons, List.filter_cons_of_pos]
  simp [filled, single]

theorem Path.child_name {p : Path} {name : String} (plain : '/' ∉ name.toList) (filled : name ≠ "")
    (single : name ≠ ".") : p.child name = ⟨p.parts ++ [name]⟩ := by
  have fields := Text.splitOn_append plain (rfl : Text.splitOn '/' [] = [[]])
  simp only [List.append_nil] at fields
  rw [← String.ofList_toList (s := name)] at filled single
  rw [child_fields fields filled single, String.ofList_toList]
  rfl

namespace ScriptStore

abbrev Scripts := Finmap fun _ : String => String

/-- With the suffix the id is the name of a file, and not that of a temporary one. -/
structure Names (s : ScriptStore) (id : String) : Prop where
  clear : Char.ofNat 0 ∉ id.toList
  visible : Text.startsWith (id ++ s.suffix).toList temporaryMark.toList = false
  short : Utf8.size (id ++ s.suffix) ≤ Files.maxNameSize

instance (s : ScriptStore) (id : String) : Decidable (s.Names id) :=
  decidable_of_iff (Char.ofNat 0 ∉ id.toList ∧ Text.startsWith (id ++ s.suffix).toList temporaryMark.toList = false ∧
      Utf8.size (id ++ s.suffix) ≤ Files.maxNameSize)
    ⟨fun ⟨clear, visible, short⟩ => ⟨clear, visible, short⟩, fun ⟨clear, visible, short⟩ => ⟨clear, visible, short⟩⟩

/-- The directory has one file for each script, and nothing else. -/
structure Holds (s : ScriptStore) (base : List String) (files : Files) (m : Scripts) : Prop where
  located : files.locate s.directory = .ok base
  directory : files.node? base = some .directory
  distinct : ((files.entries base).map (·.1)).Nodup
  entries : ∀ name node, (name, node) ∈ files.entries base ↔ ∃ id text, m.lookup id = some text ∧
    name = id ++ s.suffix ∧ node = .file (Utf8.encode text.toList)
  named : ∀ id ∈ m, isValidId id = true ∧ s.Names id ∧ Char.ofNat 0 ∉ s.suffix.toList

/-- The names of the files of these scripts, in order. -/
structure Lists (s : ScriptStore) (m : Scripts) (names : List String) : Prop where
  sorted : names.Pairwise (· ≤ ·)
  distinct : names.Nodup
  complete : ∀ name, name ∈ names ↔ ∃ id ∈ m, name = id ++ s.suffix

theorem isValidId_false {id : String} :
    isValidId id = false ↔ id = "" ∨ id = "." ∨ id = ".." ∨ '/' ∈ id.toList := by
  rw [← Bool.not_eq_true]
  simp only [isValidId, Bool.and_eq_true, Bool.not_eq_true', bne_iff_ne, ne_eq, String.isEmpty_eq_false_iff,
    List.contains_eq_mem, decide_eq_false_iff_not]
  tauto

theorem id_plain {id : String} (valid : isValidId id = true) : '/' ∉ id.toList := fun inside => by
  cases valid.symm.trans (isValidId_false.mpr (.inr (.inr (.inr inside))))

/-- The name of a file is that of no directory. -/
theorem name_ne {id : String} (valid : isValidId id = true) (suffix : String) :
    id ++ suffix ≠ "" ∧ id ++ suffix ≠ "." ∧ id ++ suffix ≠ ".." := by
  have invalid : ¬(id = "" ∨ id = "." ∨ id = ".." ∨ '/' ∈ id.toList) := by
    rw [← isValidId_false, valid]
    nofun
  have ofList {cs : List Char} (same : id.toList = cs) : id = String.ofList cs := by rw [← same, String.ofList_toList]
  refine ⟨fun same => ?_, fun same => ?_, fun same => ?_⟩
  all_goals
    have cs := congrArg String.toList same
    rw [String.toList_append] at cs
    cases letters : id.toList with
    | nil => exact invalid (.inl (ofList letters))
    | cons c rest => ?_
  · rw [letters] at cs
    cases cs
  · rw [letters, List.cons_append] at cs
    obtain ⟨rfl, none⟩ := List.cons.inj cs
    obtain ⟨rfl, _⟩ := List.append_eq_nil_iff.mp none
    exact invalid (.inr (.inl (ofList letters)))
  · rw [letters, List.cons_append] at cs
    obtain ⟨rfl, last⟩ := List.cons.inj cs
    cases rest with
    | nil => exact invalid (.inr (.inl (ofList letters)))
    | cons d rest =>
      obtain ⟨rfl, none⟩ := List.cons.inj last
      obtain ⟨rfl, _⟩ := List.append_eq_nil_iff.mp none
      exact invalid (.inr (.inr (.inl (ofList letters))))

theorem name_not_root {id : String} (valid : isValidId id = true) (suffix : String) :
    id ++ suffix ≠ "/" ∧ id ++ suffix ≠ "//" := by
  have other (rest : List Char) : (id ++ suffix).toList ≠ '/' :: rest := by
    rw [String.toList_append]
    cases letters : id.toList with
    | nil =>
      have empty : id = "" := by rw [← String.ofList_toList (s := id), letters]
      cases valid.symm.trans (isValidId_false.mpr (.inl empty))
    | cons c cs =>
      intro same
      obtain ⟨rfl, _⟩ := List.cons.inj same
      exact id_plain valid (by rw [letters]; exact List.mem_cons_self)
  exact ⟨fun same => other [] (by rw [same]; rfl), fun same => other ['/'] (by rw [same]; rfl)⟩

section Path

variable {s : ScriptStore} (plain : '/' ∉ s.suffix.toList) {id : String} (valid : isValidId id = true)

include plain valid

theorem name_plain : '/' ∉ (id ++ s.suffix).toList := by
  rw [String.toList_append, List.mem_append]
  exact not_or.mpr ⟨id_plain valid, plain⟩

theorem path_eq : s.path id = .ok ⟨s.directory.parts ++ [id ++ s.suffix]⟩ := by
  obtain ⟨filled, single, _⟩ := name_ne valid s.suffix
  rw [path, if_pos valid, Path.child_name (name_plain plain valid) filled single]

end Path

/-- Writing a script leaves the others as they are. -/
theorem write_keeps {s : ScriptStore} {id other text : String} {files after : Files}
    (written : (s.write id text).outcome files = (.ok (), after)) (apart : other ≠ id) {path : Path}
    (named : s.path other = .ok path) {bytes : List UInt8} (held : files.find path = .ok (some (.file bytes))) :
    after.find path = .ok (some (.file bytes)) := by
  have named_valid {id : String} {path : Path} (named : s.path id = .ok path) : isValidId id = true := by
    by_contra invalid
    rw [ScriptStore.path, if_neg invalid] at named
    cases named
  obtain ⟨plain, target, goal, named', reached, free, rfl⟩ := write_put written
  have valid := named_valid named
  have valid' := named_valid named'
  cases (path_eq plain valid).symm.trans named
  cases (path_eq plain valid').symm.trans named'
  obtain ⟨place, located, there⟩ := Files.locate_of_find held
  have elsewhere : place ≠ goal := by
    obtain ⟨base, rfl⟩ := Files.locate_last (name_plain plain valid) (name_ne valid _).2.2 located
    obtain ⟨base', rfl⟩ := Files.locate_last (name_plain plain valid') (name_ne valid' _).2.2 reached
    intro same
    have last := List.getLast?_eq_some_iff.mpr ⟨base, same.symm⟩
    rw [List.getLast?_append_of_ne_nil _ (List.cons_ne_nil _ _), List.getLast?_singleton, Option.some.injEq,
      String.append_left_inj] at last
    exact apart last.symm
  rw [Files.find_of_locate (Files.locate_keeps (Files.keepsDirectories_put free _) located),
    Files.node?_put_other _ _ elsewhere, there]

theorem holds_empty {s : ScriptStore} {files : Files} (empty : files.names s.directory = .ok []) :
    ∃ base, Holds s base files ∅ := by
  obtain ⟨base, located, directory, none⟩ := Files.names_ok.mp empty
  refine ⟨base, located, directory, ?_, fun name node => ?_, fun id there => ?_⟩
  · rw [← none]
    exact List.nodup_nil
  · rw [← none]
    simp
  · exact absurd there Finmap.notMem_empty

theorem delete_refused {s : ScriptStore} {files : Files} {id : String} {fault : Fault}
    (refused : s.existing files id = .error fault) : (s.delete id).outcome files = (.error fault, files) := by
  rw [delete, FileM.outcome_bind, FileM.outcome_ask, refused]

namespace Holds

variable {s : ScriptStore} {base : List String} {files : Files} {m : Scripts} (holds : Holds s base files m)

include holds

theorem lookup_of_mem {id : String} {node : FileNode} (member : (id ++ s.suffix, node) ∈ files.entries base) :
    ∃ text, m.lookup id = some text ∧ node = .file (Utf8.encode text.toList) := by
  obtain ⟨other, text, there, same, file⟩ := (holds.entries _ _).mp member
  rw [(String.append_left_inj _).mp same]
  exact ⟨text, there, file⟩

section Found

variable (plain : '/' ∉ s.suffix.toList) {id : String} (valid : isValidId id = true)

include plain valid

theorem node? : files.node? (base ++ [id ++ s.suffix]) =
    (m.lookup id).map fun text => .file (Utf8.encode text.toList) := by
  have whole := name_plain plain valid
  have slash : id ++ s.suffix ≠ "/" := by
    intro same
    rw [same] at whole
    exact whole (by decide)
  cases there : m.lookup id with
  | some text => exact Files.node?_of_mem slash holds.distinct ((holds.entries _ _).mpr ⟨id, text, there, rfl, rfl⟩)
  | none =>
    refine Files.node?_of_not_mem slash fun node member => ?_
    obtain ⟨text, found, _⟩ := holds.lookup_of_mem member
    cases there.symm.trans found

variable (names : s.Names id)

include names

theorem locate (clear : Char.ofNat 0 ∉ s.suffix.toList) :
    files.locate ⟨s.directory.parts ++ [id ++ s.suffix]⟩ = .ok (base ++ [id ++ s.suffix]) := by
  obtain ⟨_, _, up⟩ := name_ne valid s.suffix
  have clear : Char.ofNat 0 ∉ (id ++ s.suffix).toList := by
    rw [String.toList_append, List.mem_append]
    exact not_or.mpr ⟨names.clear, clear⟩
  rw [Files.locate_child holds.located holds.directory (name_plain plain valid) up, if_neg clear,
    if_neg (Nat.not_lt_of_le names.short)]

theorem find : files.find ⟨s.directory.parts ++ [id ++ s.suffix]⟩ =
    .ok ((m.lookup id).map fun text => .file (Utf8.encode text.toList)) := by
  by_cases nul : Char.ofNat 0 ∈ s.suffix.toList
  · obtain ⟨_, _, up⟩ := name_ne valid s.suffix
    have none : m.lookup id = none := by
      rw [Finmap.lookup_eq_none]
      exact fun there => (holds.named id there).2.2 nul
    have inside : Char.ofNat 0 ∈ (id ++ s.suffix).toList := by
      rw [String.toList_append, List.mem_append]
      exact .inr nul
    rw [none, Files.find, Files.locate_child holds.located holds.directory (name_plain plain valid) up, if_pos inside]
    rfl
  · rw [Files.find_of_locate (holds.locate plain valid names nul), holds.node? plain valid]

end Found

section Changed

variable (plain : '/' ∉ s.suffix.toList) {id : String} (valid : isValidId id = true)

include plain valid

theorem not_directory : files.node? (base ++ [id ++ s.suffix]) ≠ some .directory := by
  rw [holds.node? plain valid]
  cases m.lookup id <;> simp

theorem put (names : s.Names id) (clear : Char.ofNat 0 ∉ s.suffix.toList) (text : String) :
    Holds s base (files.put (base ++ [id ++ s.suffix]) (.file (Utf8.encode text.toList))) (m.insert id text) := by
  have keeps := Files.keepsDirectories_put (holds.not_directory plain valid) (.file (Utf8.encode text.toList))
  refine ⟨Files.locate_keeps keeps holds.located, keeps base holds.directory, ?_, ?_, ?_⟩
  · rw [Files.entries_put, List.map_append, List.map_singleton]
    refine List.nodup_append.mpr ⟨(List.filter_sublist.map _).nodup holds.distinct, List.nodup_singleton _, ?_⟩
    intro name earlier last new same
    obtain ⟨entry, kept, rfl⟩ := List.mem_map.mp earlier
    have apart := (List.mem_filter.mp kept).2
    have named : entry.1 = id ++ s.suffix := same.trans (List.mem_singleton.mp new)
    simp [named] at apart
  · intro name node
    rw [Files.entries_put, List.mem_append, List.mem_filter, List.mem_singleton, holds.entries]
    constructor
    · rintro (⟨⟨other, script, there, rfl, rfl⟩, apart⟩ | same)
      · have apart : other ≠ id := by
          rintro rfl
          simp at apart
        exact ⟨other, script, by rw [Finmap.lookup_insert_of_ne _ apart, there], rfl, rfl⟩
      · cases same
        exact ⟨id, text, Finmap.lookup_insert m, rfl, rfl⟩
    · rintro ⟨other, script, there, rfl, rfl⟩
      by_cases same : other = id
      · subst same
        rw [Finmap.lookup_insert] at there
        cases there
        exact .inr rfl
      · rw [Finmap.lookup_insert_of_ne _ same] at there
        have apart : other ++ s.suffix ≠ id ++ s.suffix := fun joined => same ((String.append_left_inj _).mp joined)
        exact .inl ⟨⟨other, script, there, rfl, rfl⟩, by simpa using apart⟩
  · intro other member
    rcases Finmap.mem_insert.mp member with rfl | member
    · exact ⟨valid, names, clear⟩
    · exact holds.named other member

theorem erase : Holds s base (files.erase (base ++ [id ++ s.suffix])) (m.erase id) := by
  have keeps := Files.keepsDirectories_erase (holds.not_directory plain valid)
  refine ⟨Files.locate_keeps keeps holds.located, keeps base holds.directory, ?_, ?_, ?_⟩
  · rw [Files.entries_erase]
    exact (List.filter_sublist.map _).nodup holds.distinct
  · intro name node
    rw [Files.entries_erase, List.mem_filter, holds.entries]
    constructor
    · rintro ⟨⟨other, script, there, rfl, rfl⟩, apart⟩
      have apart : other ≠ id := by
        rintro rfl
        simp at apart
      exact ⟨other, script, by rw [Finmap.lookup_erase_ne apart, there], rfl, rfl⟩
    · rintro ⟨other, script, there, rfl, rfl⟩
      have apart : other ≠ id := by
        rintro rfl
        rw [Finmap.lookup_erase] at there
        cases there
      rw [Finmap.lookup_erase_ne apart] at there
      have joined : other ++ s.suffix ≠ id ++ s.suffix := fun same => apart ((String.append_left_inj _).mp same)
      exact ⟨⟨other, script, there, rfl, rfl⟩, by simpa using joined⟩
  · intro other member
    exact holds.named other (Finmap.mem_erase.mp member).2

end Changed

theorem lists : ∃ names, s.list files = .ok names ∧ s.Lists m names := by
  let kept := (files.entries base).map (·.1)
  have listed : s.list files = .ok (kept.mergeSort fun a b => a ≤ b) := by
    rw [list, Files.names_ok.mpr ⟨base, holds.located, holds.directory, rfl⟩]
    simp only [Bind.bind, Except.bind, Pure.pure, Except.pure]
    congr 2
    change _ = (files.entries base).map (·.1)
    rw [← List.filterMap_eq_map]
    refine List.filterMap_congr fun entry member => ?_
    obtain ⟨id, text, there, name, file⟩ := (holds.entries entry.1 entry.2).mp member
    have visible := (holds.named id (Finmap.mem_iff.mpr ⟨text, there⟩)).2.1.visible
    have ends : Text.endsWith (id ++ s.suffix).toList s.suffix.toList = true := by
      rw [Text.endsWith, List.isSuffixOf_iff_suffix, String.toList_append]
      exact List.suffix_append _ _
    simp only [file, name, ends, visible, Bool.not_false, Bool.and_self, if_true, Function.comp_apply]
  have perm := List.mergeSort_perm kept fun a b => a ≤ b
  refine ⟨_, listed, ?_, perm.nodup_iff.mpr holds.distinct, fun name => ?_⟩
  · have sorted := @List.pairwise_mergeSort String (fun a b => a ≤ b)
      (fun a b c first second => by simpa using String.le_trans (by simpa using first) (by simpa using second))
      (fun a b => by simpa using String.le_total a b) kept
    simpa using sorted
  · rw [perm.mem_iff, List.mem_map]
    constructor
    · rintro ⟨entry, member, rfl⟩
      obtain ⟨id, text, there, name, _⟩ := (holds.entries entry.1 entry.2).mp member
      exact ⟨id, Finmap.mem_iff.mpr ⟨text, there⟩, name⟩
    · rintro ⟨id, there, rfl⟩
      obtain ⟨text, there⟩ := Finmap.mem_iff.mp there
      exact ⟨(id ++ s.suffix, _), (holds.entries _ _).mpr ⟨id, text, there, rfl, rfl⟩, rfl⟩

/-- Whether the store refuses to write is nothing that the directory shows. -/
theorem refusing (refusal : Option String) : Holds { s with refusal } base files m where
  located := holds.located
  directory := holds.directory
  distinct := holds.distinct
  entries := holds.entries
  named id there := by
    obtain ⟨valid, names, clear⟩ := holds.named id there
    exact ⟨valid, ⟨names.clear, names.visible, names.short⟩, clear⟩

theorem written {id text : String} {after : Files} (valid : isValidId id = true)
    (visible : Text.startsWith (id ++ s.suffix).toList temporaryMark.toList = false)
    (done : (s.write id text).outcome files = (.ok (), after)) :
    '/' ∉ s.suffix.toList ∧ Holds s base after (m.insert id text) := by
  obtain ⟨plain, path, goal, named, reached, _, rfl⟩ := write_put done
  cases (path_eq plain valid).symm.trans named
  obtain ⟨_, _, up⟩ := name_ne valid s.suffix
  rw [Files.locate_child holds.located holds.directory (name_plain plain valid) up] at reached
  split at reached
  · cases reached
  rename_i clear
  split at reached
  · cases reached
  rename_i short
  cases reached
  rw [String.toList_append, List.mem_append, not_or] at clear
  exact ⟨plain, holds.put plain valid ⟨clear.1, visible, Nat.le_of_not_lt short⟩ clear.2 text⟩

theorem deleted (plain : '/' ∉ s.suffix.toList) {id : String} (there : id ∈ m) : ∃ after,
    (s.delete id).outcome files = (.ok (), after) ∧ Holds s base after (m.erase id) := by
  obtain ⟨valid, names, clear⟩ := holds.named id there
  obtain ⟨text, lookup⟩ := Finmap.mem_iff.mp there
  have found := holds.find plain valid names
  rw [lookup] at found
  have existing : s.existing files id = .ok ⟨s.directory.parts ++ [id ++ s.suffix]⟩ := by
    rw [existing, path_eq plain valid]
    simp only [Bind.bind, Except.bind, found]
    rfl
  have held : files.node? (base ++ [id ++ s.suffix]) = some (.file (Utf8.encode text.toList)) := by
    rw [holds.node? plain valid, lookup]
    rfl
  have removed := FileM.remove_outcome (holds.locate plain valid names clear) held
  refine ⟨files.erase (base ++ [id ++ s.suffix]), ?_, holds.erase plain valid⟩
  rw [delete, FileM.outcome_bind, FileM.outcome_ask, existing]
  dsimp only
  rw [FileM.outcome_tryCatch, removed]

/-- An id of no script leads nowhere. With a slash in the suffix it would lead through a directory that is not there. -/
theorem not_existing {id : String} (absent : id ∉ m) (bare : '/' ∈ s.suffix.toList → m = ∅) :
    ∃ fault, s.existing files id = .error fault := by
  cases found : s.existing files id with
  | error fault => exact ⟨fault, rfl⟩
  | ok path =>
    obtain ⟨target, named, found⟩ := bind_ok found
    obtain ⟨node, found, there⟩ := bind_ok found
    cases node with
    | none => cases there
    | some node =>
      unfold ScriptStore.path at named
      split at named
      · rename_i valid
        cases named
        obtain ⟨first, rest, fields⟩ := Text.splitOn_cons '/' s.suffix.toList
        have split := Text.splitOn_append (id_plain valid) fields
        rw [← String.toList_append] at split
        have joined : String.ofList (id.toList ++ first) = id ++ String.ofList first := by
          rw [String.ofList_append, String.ofList_toList]
        obtain ⟨filled, single, up⟩ := name_ne valid (String.ofList first)
        obtain ⟨slash, slashes⟩ := name_not_root valid (String.ofList first)
        rw [Path.child_fields split (joined ▸ filled) (joined ▸ single), joined] at found
        obtain ⟨goal, reached, held⟩ := Files.locate_of_find found
        obtain ⟨here, located, inside⟩ := Files.locate_through ⟨slash, slashes⟩ up reached (by rw [held]; rfl)
        cases holds.located.symm.trans located
        have missing : files.node? (base ++ [id ++ String.ofList first]) = none := by
          refine Files.node?_of_not_mem slash fun node member => ?_
          obtain ⟨other, text, lookup, same, _⟩ := (holds.entries _ _).mp member
          by_cases whole : '/' ∈ s.suffix.toList
          · rw [bare whole] at lookup
            cases lookup
          · have only := Text.splitOn_append whole (rfl : Text.splitOn '/' [] = [[]])
            rw [List.append_nil, fields] at only
            cases only
            rw [String.ofList_toList] at same
            rw [(String.append_left_inj _).mp same] at absent
            exact absent (Finmap.mem_iff.mpr ⟨text, lookup⟩)
        rw [missing] at inside
        cases inside
      · cases named

theorem not_deleted {id : String} (absent : id ∉ m) (bare : '/' ∈ s.suffix.toList → m = ∅) :
    ∃ fault, (s.delete id).outcome files = (.error fault, files) := by
  obtain ⟨fault, refused⟩ := holds.not_existing absent bare
  exact ⟨fault, delete_refused refused⟩

end Holds

end ScriptStore

end BrowserFlow
