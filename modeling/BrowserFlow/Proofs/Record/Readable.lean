import BrowserFlow.Proofs.Record.Listing
import BrowserFlow.Proofs.Script.Header

/-!
The listing of a directory with files of any kind. What is no script that can be read is left out, and every other
script has its entry, whatever is in the other files, unless the header of one of them loses its time: then there is no
listing at all.
-/

namespace BrowserFlow

/-- A directory as file systems have them: no name is there twice, and each is a single name that is not too long. -/
structure Files.IsDirectory (files : Files) (path : Path) (base : List String) : Prop where
  located : files.locate path = .ok base
  directory : files.node? base = some .directory
  distinct : ((files.entries base).map (·.1)).Nodup
  plain : ∀ entry ∈ files.entries base, '/' ∉ entry.1.toList
  clear : ∀ entry ∈ files.entries base, Char.ofNat 0 ∉ entry.1.toList
  short : ∀ entry ∈ files.entries base, Utf8.size entry.1 ≤ Files.maxNameSize

namespace ScriptStore

/-- The directory has a file with the id and the suffix for its name, and its bytes are a text. -/
structure HasScript (s : ScriptStore) (files : Files) (base : List String) (id text : String) : Prop where
  valid : isValidId id = true
  visible : Text.startsWith (id ++ s.suffix).toList temporaryMark.toList = false
  file : ∃ bytes cs, (id ++ s.suffix, .file bytes) ∈ files.entries base ∧ Utf8.decode bytes = .ok cs ∧
    text = String.ofList (Text.unifyNewlines cs)

/-- The names that the store lists. -/
def IsListed (s : ScriptStore) (files : Files) (base : List String) (name : String) : Prop :=
  Text.endsWith name.toList s.suffix.toList = true ∧ Text.startsWith name.toList temporaryMark.toList = false ∧
    ∃ bytes, (name, FileNode.file bytes) ∈ files.entries base

theorem stem_of_endsWith {name suffix : String} (ends : Text.endsWith name.toList suffix.toList = true) :
    Script.stem name suffix ++ suffix = name := by
  rw [Text.endsWith, List.isSuffixOf_iff_suffix] at ends
  obtain ⟨front, whole⟩ := ends
  have named : String.ofList front ++ suffix = name := by
    rw [← String.ofList_toList (s := name), ← whole, String.ofList_append, String.ofList_toList]
  rw [← named, Script.stem_append]

theorem endsWith_append (id suffix : String) : Text.endsWith (id ++ suffix).toList suffix.toList = true := by
  rw [Text.endsWith, List.isSuffixOf_iff_suffix, String.toList_append]
  exact List.suffix_append _ _

/-- The name of an entry that the store lists. -/
def scriptName? (s : ScriptStore) (entry : String × FileNode) : Option String :=
  match entry.2 with
  | .file _ =>
    if Text.endsWith entry.1.toList s.suffix.toList && !Text.startsWith entry.1.toList temporaryMark.toList then
      some entry.1
    else none
  | .directory => none

theorem scriptName?_some {s : ScriptStore} {entry : String × FileNode} {name : String} :
    s.scriptName? entry = some name ↔ entry.1 = name ∧ Text.endsWith name.toList s.suffix.toList = true ∧
      Text.startsWith name.toList temporaryMark.toList = false ∧ ∃ bytes, entry.2 = .file bytes := by
  obtain ⟨key, node⟩ := entry
  cases node with
  | directory => simp [scriptName?]
  | file bytes =>
    simp only [scriptName?, Option.ite_none_right_eq_some, Bool.and_eq_true, Bool.not_eq_true', Option.some.injEq,
      FileNode.file.injEq, exists_eq', and_true]
    constructor
    · rintro ⟨⟨ends, visible⟩, rfl⟩
      exact ⟨rfl, ends, visible⟩
    · rintro ⟨rfl, ends, visible⟩
      exact ⟨⟨ends, visible⟩, rfl⟩

section Directory

variable {s : ScriptStore} {files : Files} {base : List String} (dir : files.IsDirectory s.directory base)

include dir

theorem list_directory : ∃ names, s.list files = .ok names ∧ names.Nodup ∧
    ∀ name, name ∈ names ↔ s.IsListed files base name := by
  have perm := List.mergeSort_perm ((files.entries base).filterMap s.scriptName?) fun a b => a ≤ b
  refine ⟨_, ?_, perm.nodup_iff.mpr ?_, fun name => ?_⟩
  · rw [list, Files.names_ok.mpr ⟨base, dir.located, dir.directory, rfl⟩]
    rfl
  · have kept : (files.entries base).Pairwise fun a b => a.1 ≠ b.1 := List.pairwise_map.mp dir.distinct
    refine List.pairwise_filterMap.mpr (kept.imp fun apart name first other second => ?_)
    rw [← (scriptName?_some.mp first).1, ← (scriptName?_some.mp second).1]
    exact apart
  · rw [perm.mem_iff, List.mem_filterMap]
    constructor
    · rintro ⟨⟨key, node⟩, member, listed⟩
      obtain ⟨rfl, ends, visible, bytes, rfl⟩ := scriptName?_some.mp listed
      exact ⟨ends, visible, bytes, member⟩
    · rintro ⟨ends, visible, bytes, member⟩
      exact ⟨(name, .file bytes), member, scriptName?_some.mpr ⟨rfl, ends, visible, bytes, rfl⟩⟩

/-- The ids of the files that the store lists; not all of them need be valid. -/
theorem list_ids : ∃ ids : List String, s.list files = .ok (ids.map (· ++ s.suffix)) ∧ ids.Nodup ∧
    ∀ id, id ∈ ids ↔ s.IsListed files base (id ++ s.suffix) := by
  obtain ⟨names, listed, distinct, complete⟩ := list_directory dir
  have joined : (names.map fun name => Script.stem name s.suffix).map (· ++ s.suffix) = names := by
    rw [List.map_map]
    refine (List.map_congr_left fun name member => ?_).trans (List.map_id names)
    exact stem_of_endsWith ((complete name).mp member).1
  refine ⟨names.map fun name => Script.stem name s.suffix, by rw [joined, listed], ?_, fun id => ?_⟩
  · rw [← joined] at distinct
    exact distinct.of_map _
  · rw [← complete, List.mem_map]
    constructor
    · rintro ⟨name, member, rfl⟩
      rw [stem_of_endsWith ((complete name).mp member).1]
      exact member
    · intro member
      exact ⟨_, member, Script.stem_append id s.suffix⟩

/-- A file whose name is an id with the suffix is read as its bytes say. -/
theorem read_entry {id : String} {bytes : List UInt8} (valid : isValidId id = true)
    (member : (id ++ s.suffix, .file bytes) ∈ files.entries base) {text : String} : s.read files id = .ok text ↔
      ∃ cs, Utf8.decode bytes = .ok cs ∧ text = String.ofList (Text.unifyNewlines cs) := by
  obtain ⟨filled, single, up⟩ := name_ne valid s.suffix
  have plain := dir.plain _ member
  have named : s.path id = .ok ⟨s.directory.parts ++ [id ++ s.suffix]⟩ := by
    rw [path, if_pos valid, Path.child_name plain filled single]
  have located : files.locate ⟨s.directory.parts ++ [id ++ s.suffix]⟩ = .ok (base ++ [id ++ s.suffix]) := by
    rw [Files.locate_child dir.located dir.directory plain up, if_neg (dir.clear _ member),
      if_neg (Nat.not_lt_of_le (dir.short _ member))]
  have held : files.node? (base ++ [id ++ s.suffix]) = some (.file bytes) :=
    Files.node?_of_mem (name_not_root valid s.suffix).1 dir.distinct member
  have existing : s.existing files id = .ok ⟨s.directory.parts ++ [id ++ s.suffix]⟩ := by
    rw [existing, named]
    simp only [Bind.bind, Except.bind, Files.find_of_locate located, held]
    rfl
  rw [read, existing]
  simp only [Bind.bind, Except.bind, Pure.pure, Except.pure, Files.readText, Files.readBytes, located, held]
  cases Utf8.decode bytes with
  | error refusal => simp [Except.mapError]
  | ok cs => simp [Except.mapError, eq_comm]

theorem hasScript_iff {id text : String} :
    s.HasScript files base id text ↔ s.IsListed files base (id ++ s.suffix) ∧ s.read files id = .ok text := by
  constructor
  · rintro ⟨valid, visible, bytes, cs, member, decoded, same⟩
    exact ⟨⟨endsWith_append id s.suffix, visible, bytes, member⟩, (read_entry dir valid member).mpr ⟨cs, decoded, same⟩⟩
  · rintro ⟨⟨_, visible, bytes, member⟩, read⟩
    have valid : isValidId id = true := by
      by_contra invalid
      rw [ScriptStore.read, existing, path, if_neg invalid] at read
      cases read
    obtain ⟨cs, decoded, same⟩ := (read_entry dir valid member).mp read
    exact ⟨valid, visible, bytes, cs, member, decoded, same⟩

end Directory

end ScriptStore

namespace Recorder

/-- The scripts among these that can be read. -/
def readable (s : ScriptStore) (files : Files) (ids : List String) : List (String × String) :=
  ids.filterMap fun id => (s.read files id).toOption.map (id, ·)

theorem mem_readable {s : ScriptStore} {files : Files} {ids : List String} {id text : String} :
    (id, text) ∈ readable s files ids ↔ id ∈ ids ∧ s.read files id = .ok text := by
  rw [readable, List.mem_filterMap]
  constructor
  · rintro ⟨other, member, read⟩
    obtain ⟨script, read, same⟩ := Option.map_eq_some_iff.mp read
    cases same
    refine ⟨member, ?_⟩
    cases found : s.read files id with
    | error fault =>
      rw [found] at read
      cases read
    | ok found' =>
      rw [found] at read
      cases read
      rfl
  · rintro ⟨member, read⟩
    exact ⟨id, member, by rw [read]; rfl⟩

theorem tell_unreadable {s : ScriptStore} {files : Files} {id : String} {fault : Fault}
    (unread : s.read files id = .error fault) : tell s files (id ++ s.suffix) = .ok none := by
  rw [tell, Script.stem_append, unread]
  rfl

theorem tell_readable {s : ScriptStore} {files : Files} {id text : String} (read : s.read files id = .ok text) :
    tell s files (id ++ s.suffix) = (Script.summary (id ++ s.suffix) text s.suffix).map some := by
  rw [tell, Script.stem_append, read]
  cases told : Script.summary (id ++ s.suffix) text s.suffix with
  | error fault =>
    simp only [told]
    rfl
  | ok x =>
    simp only [told]
    rfl

/-- The summary of a script under its file name. -/
def Tells (s : ScriptStore) (script : String × String) (x : Recording) : Prop :=
  Script.summary (script.1 ++ s.suffix) script.2 s.suffix = .ok x

theorem tell_all {s : ScriptStore} {files : Files} {ids : List String}
    (kept : ∀ script ∈ readable s files ids, ∃ x, Tells s script x) : ∃ told,
      (ids.map (· ++ s.suffix)).filterMapM (tell s files) = .ok told ∧
        List.Forall₂ (Tells s) (readable s files ids) told := by
  induction ids with
  | nil => exact ⟨[], rfl, .nil⟩
  | cons id ids ih =>
    rw [List.map_cons, List.filterMapM_cons]
    cases read : s.read files id with
    | error fault =>
      have same : readable s files (id :: ids) = readable s files ids := by simp [readable, read, Except.toOption]
      rw [same] at kept ⊢
      obtain ⟨told, done, each⟩ := ih kept
      refine ⟨told, ?_, each⟩
      simp only [tell_unreadable read, Bind.bind, Except.bind, done]
    | ok text =>
      have same : readable s files (id :: ids) = (id, text) :: readable s files ids := by
        simp [readable, read, Except.toOption]
      rw [same] at kept ⊢
      obtain ⟨x, first⟩ := kept _ List.mem_cons_self
      obtain ⟨told, done, each⟩ := ih fun script member => kept script (List.mem_cons_of_mem _ member)
      refine ⟨x :: told, ?_, .cons first each⟩
      have summary : Script.summary (id ++ s.suffix) text s.suffix = .ok x := first
      rw [tell_readable read, summary]
      simp only [Except.map, Bind.bind, Except.bind, done]
      rfl

theorem tell_lost {s : ScriptStore} {files : Files} {ids : List String} {script : String × String}
    (member : script ∈ readable s files ids) (loses : ∃ line ∈ Script.headerLines script.2, Script.LosesTime line) :
    (ids.map (· ++ s.suffix)).filterMapM (tell s files) = .error .dateOutOfRange := by
  have lost {name text : String} (loses : ∃ line ∈ Script.headerLines text, Script.LosesTime line) :
      Script.summary name text s.suffix = .error .dateOutOfRange := by
    obtain ⟨line, header, loses⟩ := loses
    rcases Script.summary_cases name text s.suffix with ⟨_, _, _, kept⟩ | ⟨fails, _⟩
    · exact absurd loses (kept line header)
    · exact fails
  obtain ⟨name, content⟩ := script
  induction ids with
  | nil => cases member
  | cons id ids ih =>
    rw [List.map_cons, List.filterMapM_cons]
    obtain ⟨there, found⟩ := mem_readable.mp member
    cases read : s.read files id with
    | error fault =>
      have later : name ∈ ids := by
        rcases List.mem_cons.mp there with rfl | later
        · cases found.symm.trans read
        · exact later
      simp only [tell_unreadable read, Bind.bind, Except.bind, ih (mem_readable.mpr ⟨later, found⟩)]
    | ok text =>
      rw [tell_readable read]
      rcases Script.summary_cases (id ++ s.suffix) text s.suffix with ⟨x, summary, _, kept⟩ | ⟨fails, _⟩
      · have later : name ∈ ids := by
          rcases List.mem_cons.mp there with rfl | later
          · cases found.symm.trans read
            obtain ⟨line, header, loses⟩ := loses
            exact absurd loses (kept line header)
          · exact later
        rw [summary]
        simp only [Except.map, Bind.bind, Except.bind, ih (mem_readable.mpr ⟨later, found⟩)]
      · rw [fails]
        rfl

section Listing

variable {s : ScriptStore} {files : Files} {base : List String} (dir : files.IsDirectory s.directory base)

include dir

/-- What the listing of a directory with any files in it comes to. If no script that can be read loses its time, each of
    them has one entry, which tells its summary, and nothing else has one. If one does, there is no listing, and no
    recording can be looked up. -/
theorem listed_unless_lost :
    ((∀ id text, s.HasScript files base id text → ∀ line ∈ Script.headerLines text, ¬Script.LosesTime line) →
      ∃ entries, list s files = .ok entries ∧ ∃ scripts : List (String × String), (scripts.map (·.1)).Nodup ∧
        (∀ id text, (id, text) ∈ scripts ↔ s.HasScript files base id text) ∧
        ∃ told, List.Forall₂ (Tells s) scripts told ∧ entries.Perm told) ∧
    ∀ id text, s.HasScript files base id text → (∃ line ∈ Script.headerLines text, Script.LosesTime line) →
      list s files = .error .dateOutOfRange ∧ ∀ wanted, get? s files wanted = .error .dateOutOfRange := by
  obtain ⟨ids, listed, distinct, complete⟩ := ScriptStore.list_ids dir
  have scripts (id text : String) : (id, text) ∈ readable s files ids ↔ s.HasScript files base id text := by
    rw [mem_readable, complete, ScriptStore.hasScript_iff dir]
  constructor
  · intro kept
    have told : ∀ script ∈ readable s files ids, ∃ x, Tells s script x := by
      rintro ⟨id, text⟩ member
      rcases Script.summary_cases (id ++ s.suffix) text s.suffix with ⟨x, summary, _⟩ | ⟨_, line, header, loses⟩
      · exact ⟨x, summary⟩
      · exact absurd loses (kept id text ((scripts id text).mp member) line header)
    obtain ⟨told, done, each⟩ := tell_all told
    have sorted := List.mergeSort_perm told fun a b => decide (b.updatedAt.micros ≤ a.updatedAt.micros)
    refine ⟨_, ?_, readable s files ids, ?_, scripts, told, each, sorted⟩
    · rw [list_eq, listed]
      simp only [Bind.bind, Except.bind, done]
      rfl
    · rw [List.nodup_iff_pairwise_ne, List.pairwise_map]
      refine List.pairwise_filterMap.mpr (List.Pairwise.imp ?_ distinct)
      intro a b apart first read other read'
      obtain ⟨_, _, rfl⟩ := Option.map_eq_some_iff.mp read
      obtain ⟨_, _, rfl⟩ := Option.map_eq_some_iff.mp read'
      exact apart
  · intro id text has loses
    have fails : list s files = .error .dateOutOfRange := by
      rw [list_eq, listed]
      simp only [Bind.bind, Except.bind, tell_lost ((scripts id text).mpr has) loses]
    refine ⟨fails, fun wanted => ?_⟩
    rw [get?, fails]
    rfl

end Listing

/-- A file that is no text hides nothing; a lost time hides the script beside it. -/
theorem listed_unless_lost_two : ∃ (s : ScriptStore) (files late : Files) (x : Recording) (entries : List Recording),
    (list s files = .ok entries ∧ x ∈ entries ∧ Tells s ("a", "") x) ∧
    ((∃ base, s.HasScript late base "a" "") ∧ list s late = .error .dateOutOfRange ∧
      get? s late (.str "a") = .error .dateOutOfRange) := by
  let s : ScriptStore := ⟨⟨["recordings"]⟩, ".ts", none⟩
  let header := "// Created: 0001-01-01T00:00:00+23:59"
  let beside (bytes : List UInt8) : Files :=
    ⟨[(["recordings"], .directory), (["recordings", "a.ts"], .file []), (["recordings", "b.ts"], .file bytes)]⟩
  have dir (bytes : List UInt8) : (beside bytes).IsDirectory s.directory ["recordings"] := by
    have entries : (beside bytes).entries ["recordings"] = [("a.ts", .file []), ("b.ts", .file bytes)] := by rfl
    have names (entry : String × FileNode) (member : entry ∈ (beside bytes).entries ["recordings"]) :
        entry.1 ∈ ["a.ts", "b.ts"] := by
      rw [entries] at member
      exact List.mem_map_of_mem member
    have sound : ∀ name ∈ ["a.ts", "b.ts"], '/' ∉ name.toList ∧ Char.ofNat 0 ∉ name.toList ∧
        Utf8.size name ≤ Files.maxNameSize := by decide
    refine ⟨rfl, rfl, ?_, fun entry member => (sound _ (names entry member)).1,
      fun entry member => (sound _ (names entry member)).2.1, fun entry member => (sound _ (names entry member)).2.2⟩
    rw [entries]
    exact show ["a.ts", "b.ts"].Nodup by decide
  have empty (bytes : List UInt8) : s.HasScript (beside bytes) ["recordings"] "a" "" :=
    ⟨by decide, by decide, [], [], by exact List.mem_cons_self, rfl, rfl⟩
  have late : s.HasScript (beside (Utf8.encode header.toList)) ["recordings"] "b" header := by
    have member : ("b.ts", FileNode.file (Utf8.encode header.toList)) ∈
        (beside (Utf8.encode header.toList)).entries ["recordings"] := List.mem_cons_of_mem _ List.mem_cons_self
    exact ⟨by decide, by decide, _, header.toList, member, Utf8.decode_encode _, by decide +kernel⟩
  have loses : ∃ line ∈ Script.headerLines header, Script.LosesTime line :=
    ⟨"// Created: 0001-01-01T00:00:00+23:59".toList, by decide +kernel, " 0001-01-01T00:00:00+23:59".toList, rfl,
      ⟨-62135596800000000, some 86340000000⟩, by decide +kernel, rfl⟩
  obtain ⟨fails, missing⟩ := (listed_unless_lost (dir _)).2 _ _ late loses
  have plain (id text : String) (has : s.HasScript (beside [255]) ["recordings"] id text) :
      ∀ line ∈ Script.headerLines text, ¬Script.LosesTime line := by
    obtain ⟨_, _, bytes, cs, member, decoded, rfl⟩ := has
    rcases List.mem_pair.mp member with same | same
    · cases (Prod.mk.inj same).2
      cases decoded
      have none : Script.headerLines (String.ofList (Text.unifyNewlines [])) = [] := by decide +kernel
      rw [none]
      exact fun line member => absurd member List.not_mem_nil
    · cases (Prod.mk.inj same).2
      cases decoded
  obtain ⟨entries, listed, scripts, _, complete, told, each, perm⟩ := (listed_unless_lost (dir [255])).1 plain
  obtain ⟨i, inside, here⟩ := List.getElem_of_mem ((complete "a" "").mpr (empty [255]))
  have inside' : i < told.length := each.length_eq ▸ inside
  have tells := each.get inside inside'
  rw [List.get_eq_getElem, here] at tells
  exact ⟨s, beside [255], _, _, entries, ⟨listed, perm.mem_iff.mpr (List.getElem_mem inside'), tells⟩, ⟨_, empty _⟩,
    fails, missing _⟩

end Recorder

end BrowserFlow
