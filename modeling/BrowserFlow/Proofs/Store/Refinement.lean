import BrowserFlow.Proofs.Store.Contents
import BrowserFlow.Proofs.Store.Outage

/-!
The store refines a finite map from ids to scripts: whatever is written, read, deleted and listed, and wherever a write
is refused, the store answers as the map does, and the directory has the files of the map and no others.
-/

namespace BrowserFlow.ScriptStore

inductive Operation
  | write (outage : Option Outage) (id text : String)
  | read (id : String)
  | delete (id : String)
  | list

def Operation.id? : Operation → Option String
  | write _ id _ | read id | delete id => some id
  | list => none

inductive Result
  | done (result : Except Fault Unit)
  | text (result : Except Fault String)
  | names (result : Except Fault (List String))

def perform (s : ScriptStore) (operation : Operation) (files : Files) : Result × Files :=
  match operation with
  | .write outage id text =>
    let (result, after) := (s.writeDuring outage id text).outcome files
    (.done result, after)
  | .read id => (.text (s.read files id), files)
  | .delete id =>
    let (result, after) := (s.delete id).outcome files
    (.done result, after)
  | .list => (.names (s.list files), files)

def performAll (s : ScriptStore) : List Operation → Files → List Result × Files
  | [], files => ([], files)
  | operation :: rest, files =>
    let (result, mid) := s.perform operation files
    let (results, after) := s.performAll rest mid
    (result :: results, after)

/-- The name of the temporary file. -/
def temporaryName (s : ScriptStore) : String := temporaryMark ++ "00000000" ++ s.suffix

/-- Temporary files can be made. -/
structure Writes (s : ScriptStore) : Prop where
  accepts : s.refusal = none
  clear : Char.ofNat 0 ∉ s.suffix.toList
  short : Utf8.size s.temporaryName ≤ Files.maxNameSize

/-- What an operation does to a finite map of scripts, and what comes of it. -/
inductive Step (s : ScriptStore) (m : Scripts) : Operation → Result → Scripts → Prop
  | written {id text : String} (valid : isValidId id = true) (writes : s.Writes) :
      Step s m (.write none id text) (.done (.ok ())) (m.insert id text)
  | unwritten {outage : Option Outage} {id text : String} {e : FlowError} (kind : e.kind = .storage)
      (cause : isValidId id = false ∨ outage ≠ none ∨ ¬s.Writes) :
      Step s m (.write outage id text) (.done (.error (.flow e))) m
  /-- a suffix with a null character in it is no part of a name -/
  | unnamed {outage : Option Outage} {id text : String} (nul : Char.ofNat 0 ∈ s.suffix.toList) :
      Step s m (.write outage id text) (.done (.error .nulInPath)) m
  | found {id text : String} (there : m.lookup id = some text) :
      Step s m (.read id) (.text (.ok (String.ofList (Text.unifyNewlines text.toList)))) m
  | missing {id : String} (valid : isValidId id = true) (absent : id ∉ m) :
      Step s m (.read id) (.text (.error (.flow (.recordingNotFound (.str id))))) m
  | unread {id : String} {e : FlowError} (invalid : isValidId id = false) (kind : e.kind = .storage) :
      Step s m (.read id) (.text (.error (.flow e))) m
  | deleted {id : String} (there : id ∈ m) : Step s m (.delete id) (.done (.ok ())) (m.erase id)
  | gone {id : String} (valid : isValidId id = true) (absent : id ∉ m) :
      Step s m (.delete id) (.done (.error (.flow (.recordingNotFound (.str id))))) m
  | undeleted {id : String} {e : FlowError} (invalid : isValidId id = false) (kind : e.kind = .storage) :
      Step s m (.delete id) (.done (.error (.flow e))) m
  | listed {names : List String} (lists : s.Lists m names) : Step s m .list (.names (.ok names)) m

inductive Steps (s : ScriptStore) : Scripts → List Operation → List Result → Scripts → Prop
  | nil (m : Scripts) : Steps s m [] [] m
  | cons {m m' m'' : Scripts} {operation : Operation} {result : Result} {rest : List Operation}
      {results : List Result} (first : s.Step m operation result m') (others : Steps s m' rest results m'') :
      Steps s m (operation :: rest) (result :: results) m''

theorem temporaryName_ne {s : ScriptStore} {name : String} (other : ∀ rest, name.toList ≠ '.' :: 't' :: rest) :
    s.temporaryName ≠ name := by
  intro same
  have letters := congrArg String.toList same
  rw [temporaryName, String.toList_append] at letters
  exact other _ letters.symm

theorem temporaryName_plain {s : ScriptStore} (plain : '/' ∉ s.suffix.toList) : '/' ∉ s.temporaryName.toList := by
  rw [temporaryName, String.toList_append, List.mem_append]
  exact not_or.mpr ⟨by decide, plain⟩

theorem temporary_zero {s : ScriptStore} (plain : '/' ∉ s.suffix.toList) :
    s.temporary 0 = ⟨s.directory.parts ++ [s.temporaryName]⟩ :=
  Path.child_name (temporaryName_plain plain) (temporaryName_ne (by simp)) (temporaryName_ne (by simp))

namespace Holds

variable {s : ScriptStore} {base : List String} {files : Files} {m : Scripts} (holds : Holds s base files m)
  (plain : '/' ∉ s.suffix.toList)

include holds plain

theorem temporary_located : files.locate ⟨s.directory.parts ++ [s.temporaryName]⟩ =
    if Char.ofNat 0 ∈ s.suffix.toList then .error .nulInPath
    else if Files.maxNameSize < Utf8.size s.temporaryName then
      .error (.file .nameTooLong (Path.text ⟨s.directory.parts ++ [s.temporaryName]⟩))
    else .ok (base ++ [s.temporaryName]) := by
  have nul : Char.ofNat 0 ∈ s.temporaryName.toList ↔ Char.ofNat 0 ∈ s.suffix.toList := by
    rw [temporaryName, String.toList_append, List.mem_append]
    exact or_iff_right (by decide)
  rw [Files.locate_child holds.located holds.directory (temporaryName_plain plain) (temporaryName_ne (by simp))]
  simp only [nul]

/-- The first name for a temporary file is always free. -/
theorem temporaryPath_eq : s.temporaryPath files = ⟨s.directory.parts ++ [s.temporaryName]⟩ := by
  have slash : s.temporaryName ≠ "/" := temporaryName_ne (by simp)
  have none : files.node? (base ++ [s.temporaryName]) = none := by
    refine Files.node?_of_not_mem slash fun node member => ?_
    obtain ⟨id, text, there, same, _⟩ := (holds.entries _ _).mp member
    have visible := (holds.named id (Finmap.mem_iff.mpr ⟨text, there⟩)).2.1.visible
    rw [← same, temporaryName, String.append_assoc, String.toList_append] at visible
    have begins : Text.startsWith (temporaryMark.toList ++ ("00000000" ++ s.suffix).toList) temporaryMark.toList = true :=
      List.isPrefixOf_iff_prefix.mpr (List.prefix_append _ _)
    cases visible.symm.trans begins
  have free : s.isTaken files 0 = false := by
    rw [isTaken, temporary_zero plain, Files.find, holds.temporary_located plain]
    by_cases nul : Char.ofNat 0 ∈ s.suffix.toList
    · rw [if_pos nul]
    · rw [if_neg nul]
      by_cases long : Files.maxNameSize < Utf8.size s.temporaryName
      · rw [if_pos long]
      · rw [if_neg long]
        simp only [none]
  rw [ScriptStore.temporaryPath_eq, List.range_succ_eq_map, List.find?_cons]
  simp [free, temporary_zero plain]

end Holds

/-- A write that has found a place is tried, and its fault told as the store's own. -/
theorem writeDuring_outcome {s : ScriptStore} (accepts : s.refusal = none) {id : String} {path : Path}
    (named : s.path id = .ok path) (outage : Option Outage) (text : String) (files : Files) :
    (s.writeDuring outage id text).outcome files =
      match (s.replaceFileDuring outage path text).outcome files with
      | (.ok (), after) => (.ok (), after)
      | (.error fault, after) => (.error (storageFault "write" path fault), after) := by
  have tried : (s.writeDuring outage id text).outcome files =
      FileM.outcome (tryCatch (s.replaceFileDuring outage path text)
        fun fault => throw (storageFault "write" path fault)) files := by
    rw [writeDuring, accepts, named]
    rfl
  rw [tried, FileM.outcome_tryCatch]
  generalize (s.replaceFileDuring outage path text).outcome files = tried
  obtain ⟨result, after⟩ := tried
  cases result <;> rfl

theorem Holds.unwritten {s : ScriptStore} {base : List String} {files : Files} {m : Scripts}
    (holds : Holds s base files m) {outage : Option Outage} {id text : String} {e : FlowError} (kind : e.kind = .storage)
    (cause : isValidId id = false ∨ outage ≠ none ∨ ¬s.Writes)
    (refused : (s.writeDuring outage id text).outcome files = (.error (.flow e), files)) : ∃ m',
      s.Step m (.write outage id text) (s.perform (.write outage id text) files).1 m' ∧
        Holds s base (s.perform (.write outage id text) files).2 m' := by
  rw [perform, refused]
  exact ⟨m, .unwritten kind cause, holds⟩

namespace Holds

variable {s : ScriptStore} {base : List String} {files : Files} {m : Scripts} (holds : Holds s base files m)
  (plain : '/' ∉ s.suffix.toList) {id : String} (names : s.Names id)

include holds plain names

/-- A write that the store has accepted, under an id that can be a name. -/
theorem write_accepted (accepts : s.refusal = none) (valid : isValidId id = true) (outage : Option Outage)
    (text : String) : ∃ m', s.Step m (.write outage id text) (s.perform (.write outage id text) files).1 m' ∧
      Holds s base (s.perform (.write outage id text) files).2 m' := by
  have outcome := writeDuring_outcome accepts (path_eq plain valid) outage text files
  have placed := holds.temporary_located plain
  rw [← holds.temporaryPath_eq plain] at placed
  by_cases early : ∃ words, outage = some (.before words)
  · obtain ⟨words, rfl⟩ := early
    exact holds.unwritten rfl (.inr (.inl (Option.some_ne_none _))) outcome
  have late (words : String) : outage ≠ some (.before words) := fun same => early ⟨words, same⟩
  by_cases nul : Char.ofNat 0 ∈ s.suffix.toList
  · rw [if_pos nul] at placed
    rw [replaceFileDuring_unplaced plain placed late] at outcome
    rw [perform, outcome]
    exact ⟨m, .unnamed nul, holds⟩
  rw [if_neg nul] at placed
  by_cases long : Files.maxNameSize < Utf8.size s.temporaryName
  · rw [if_pos long] at placed
    rw [replaceFileDuring_unplaced plain placed late] at outcome
    exact holds.unwritten rfl (.inr (.inr fun writes => Nat.not_lt_of_le writes.short long)) outcome
  rw [if_neg long] at placed
  cases outage with
  | some outage =>
    cases outage with
    | before words => exact absurd rfl (late words)
    | after words bytes =>
      rw [replaceFileDuring_stopped plain placed] at outcome
      exact holds.unwritten rfl (.inr (.inl (Option.some_ne_none _))) outcome
  | none =>
    rw [replaceFileDuring, replaceFile_done plain placed (holds.locate plain valid names nul)
      (holds.not_directory plain valid)] at outcome
    rw [perform, outcome]
    exact ⟨_, .written valid ⟨accepts, nul, Nat.le_of_not_lt long⟩, holds.put plain valid names nul text⟩

theorem write_step (outage : Option Outage) (text : String) : ∃ m',
    s.Step m (.write outage id text) (s.perform (.write outage id text) files).1 m' ∧
      Holds s base (s.perform (.write outage id text) files).2 m' := by
  cases accepts : s.refusal with
  | some message =>
    have refused : (s.writeDuring outage id text).outcome files = (.error (.flow (.storage message .null)), files) := by
      rw [writeDuring, accepts]
      rfl
    refine holds.unwritten rfl (.inr (.inr fun writes => ?_)) refused
    cases accepts.symm.trans writes.accepts
  | none =>
    cases valid : isValidId id with
    | false =>
      have refused : (s.writeDuring outage id text).outcome files =
          (.error (.flow (.storage ("Invalid recording id: " ++ Text.quote id) .null)), files) := by
        rw [writeDuring, accepts, path, valid]
        rfl
      exact holds.unwritten rfl (.inl valid) refused
    | true => exact holds.write_accepted plain names accepts valid outage text

theorem read_step : s.Step m (.read id) (s.perform (.read id) files).1 m := by
  rw [perform]
  cases valid : isValidId id with
  | false =>
    have refused : s.read files id = .error (.flow (.storage ("Invalid recording id: " ++ Text.quote id) .null)) := by
      rw [read, existing, path, valid]
      rfl
    rw [refused]
    exact .unread valid rfl
  | true =>
    have found := holds.find plain valid names
    cases there : m.lookup id with
    | some text =>
      rw [there] at found
      rw [read_encoded (path_eq plain valid) found]
      exact .found there
    | none =>
      rw [there] at found
      have missing : s.read files id = .error (.flow (.recordingNotFound (.str id))) := by
        rw [read, existing, path_eq plain valid]
        simp only [Bind.bind, Except.bind, found]
        rfl
      rw [missing]
      exact .missing valid (Finmap.lookup_eq_none.mp there)

theorem delete_step : ∃ m', s.Step m (.delete id) (s.perform (.delete id) files).1 m' ∧
    Holds s base (s.perform (.delete id) files).2 m' := by
  rw [perform]
  by_cases there : id ∈ m
  · obtain ⟨after, deleted, holds⟩ := holds.deleted plain there
    rw [deleted]
    exact ⟨_, .deleted there, holds⟩
  cases valid : isValidId id with
  | false =>
    have refused : s.existing files id = .error (.flow (.storage ("Invalid recording id: " ++ Text.quote id) .null)) := by
      rw [existing, path, valid]
      rfl
    rw [delete_refused refused]
    exact ⟨m, .undeleted valid rfl, holds⟩
  | true =>
    have missing : s.existing files id = .error (.flow (.recordingNotFound (.str id))) := by
      rw [existing, path_eq plain valid]
      simp only [Bind.bind, Except.bind, holds.find plain valid names, Finmap.lookup_eq_none.mpr there]
      rfl
    rw [delete_refused missing]
    exact ⟨m, .gone valid there, holds⟩

end Holds

theorem Holds.step {s : ScriptStore} {base : List String} {files : Files} {m : Scripts} (holds : Holds s base files m)
    (plain : '/' ∉ s.suffix.toList) {operation : Operation} (named : ∀ id ∈ operation.id?, s.Names id) : ∃ m',
      s.Step m operation (s.perform operation files).1 m' ∧ Holds s base (s.perform operation files).2 m' := by
  cases operation with
  | write outage id text => exact holds.write_step plain (named id rfl) outage text
  | read id => exact ⟨m, holds.read_step plain (named id rfl), holds⟩
  | delete id => exact holds.delete_step plain (named id rfl)
  | list =>
    obtain ⟨names, listed, lists⟩ := holds.lists
    refine ⟨m, ?_, holds⟩
    rw [perform, listed]
    exact .listed lists

/-- The whole run goes as it would on the map. -/
theorem Holds.steps {s : ScriptStore} {base : List String} {files : Files} {m : Scripts} (holds : Holds s base files m)
    (plain : '/' ∉ s.suffix.toList) {operations : List Operation}
    (named : ∀ operation ∈ operations, ∀ id ∈ operation.id?, s.Names id) : ∃ m',
      s.Steps m operations (s.performAll operations files).1 m' ∧
        Holds s base (s.performAll operations files).2 m' := by
  induction operations generalizing files m with
  | nil => exact ⟨m, .nil m, holds⟩
  | cons operation rest ih =>
    obtain ⟨mid, first, holds⟩ := holds.step plain (named operation List.mem_cons_self)
    obtain ⟨last, others, holds⟩ := ih holds fun operation later => named operation (List.mem_cons_of_mem _ later)
    exact ⟨last, .cons first others, holds⟩

end BrowserFlow.ScriptStore
