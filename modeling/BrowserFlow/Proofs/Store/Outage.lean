import BrowserFlow.Proofs.Store.Atomic

/-!
Writing a script while the operating system may refuse to go on. What has been begun by then is undone.
-/

namespace BrowserFlow.ScriptStore

/-- The operating system refuses, in its own words, to make the temporary file, or to go on when these bytes have got
    into it, at the latest to rename it. -/
inductive Outage
  | before (words : String)
  | after (words : String) (bytes : List UInt8)

/-- A refusal of the operating system, as the store tells it. -/
def refused (path : Path) (words : String) : FlowError :=
  .storage ("Failed to write script: " ++ words) (.str path.text)

def replaceFileDuring (s : ScriptStore) (outage : Option Outage) (path : Path) (text : String) : FileM Unit :=
  match outage with
  | none => s.replaceFile path text
  | some (.before words) => throw (.flow (refused path words))
  | some (.after words bytes) => do
    let temporary := s.temporaryPath (← get)
    if s.suffix.toList.contains '/' then throw (.file .missing temporary.text)
    FileM.writeBytes temporary bytes
    FileM.remove temporary
    throw (.flow (refused path words))

def writeDuring (s : ScriptStore) (outage : Option Outage) (id text : String) : FileM Unit := do
  match s.refusal with
  | some message => throw (.flow (.storage message .null))
  | none =>
    let path ← s.path id
    tryCatch (s.replaceFileDuring outage path text) fun fault => throw (storageFault "write" path fault)

/-- Without an outage this is the store's own writing. -/
theorem writeDuring_none (s : ScriptStore) (id text : String) : s.writeDuring none id text = s.write id text := rfl

theorem writeBytes_temporary {s : ScriptStore} {files : Files} {temporary : List String}
    (placed : files.locate (s.temporaryPath files) = .ok temporary) (bytes : List UInt8) :
    (FileM.writeBytes (s.temporaryPath files) bytes).outcome files = (.ok (), files.put temporary (.file bytes)) := by
  rw [FileM.writeBytes, FileM.outcome_bind, FileM.outcome_ask, placed]
  dsimp only
  rw [FileM.get_bind, s.temporaryPath_free files placed]
  rfl

section Plain

variable {s : ScriptStore} {path : Path} {text : String} {files : Files} (plain : '/' ∉ s.suffix.toList)

include plain

/-- The temporary file cannot be made. -/
theorem replaceFileDuring_unplaced {fault : Fault} (unplaced : files.locate (s.temporaryPath files) = .error fault)
    {outage : Option Outage} (late : ∀ words, outage ≠ some (.before words)) :
    (s.replaceFileDuring outage path text).outcome files = (.error fault, files) := by
  have whole : s.suffix.toList.contains '/' = false := by simpa using plain
  have unwritten (bytes : List UInt8) : (FileM.writeBytes (s.temporaryPath files) bytes).outcome files =
      (.error fault, files) := by
    rw [FileM.writeBytes, FileM.outcome_bind, FileM.outcome_ask, unplaced]
  cases outage with
  | none =>
    rw [replaceFileDuring, replaceFile, FileM.get_bind]
    simp only [whole, Bool.false_eq_true, if_false]
    rw [FileM.outcome_bind, FileM.writeText, unwritten]
  | some outage =>
    cases outage with
    | before words => exact absurd rfl (late words)
    | after words bytes =>
      rw [replaceFileDuring, FileM.get_bind]
      simp only [whole, Bool.false_eq_true, if_false]
      rw [FileM.outcome_bind, unwritten]

variable {temporary : List String} (placed : files.locate (s.temporaryPath files) = .ok temporary)

include placed

theorem replaceFileDuring_stopped (words : String) (bytes : List UInt8) :
    (s.replaceFileDuring (some (.after words bytes)) path text).outcome files =
      (.error (.flow (refused path words)), files) := by
  have whole : s.suffix.toList.contains '/' = false := by simpa using plain
  rw [replaceFileDuring, FileM.get_bind]
  simp only [whole, Bool.false_eq_true, if_false]
  rw [FileM.outcome_bind, writeBytes_temporary placed]
  dsimp only
  rw [FileM.outcome_bind, s.remove_temporary placed]
  rfl

theorem replaceFile_done {goal : List String} (target : files.locate path = .ok goal)
    (open' : files.node? goal ≠ some .directory) :
    (s.replaceFile path text).outcome files = (.ok (), files.put goal (.file (Utf8.encode text.toList))) := by
  have whole : s.suffix.toList.contains '/' = false := by simpa using plain
  have free := s.temporaryPath_free files placed
  have file : files.node? temporary ≠ some .directory := by
    rw [free]
    nofun
  let mid := files.put temporary (.file (Utf8.encode text.toList))
  have keeps : Files.KeepsDirectories files mid := Files.keepsDirectories_put file _
  have held : mid.node? temporary = some (.file (Utf8.encode text.toList)) :=
    Files.node?_put files _ (Files.not_base_of_file file)
  have bytes : mid.readBytes (s.temporaryPath files) = .ok (Utf8.encode text.toList) := by
    rw [Files.readBytes, Files.locate_keeps keeps placed]
    simp only [Bind.bind, Except.bind, held]
    rfl
  have still : mid.node? goal ≠ some .directory := by
    by_cases same : goal = temporary
    · rw [same, held]
      nofun
    · rwa [Files.node?_put_other _ _ same]
  have renamed : (FileM.rename (s.temporaryPath files) path).outcome mid =
      (.ok (), files.put goal (.file (Utf8.encode text.toList))) := by
    rw [FileM.rename, FileM.outcome_bind, FileM.outcome_ask, bytes]
    dsimp only
    rw [FileM.outcome_bind, FileM.outcome_ask, Files.locate_keeps keeps placed]
    dsimp only
    rw [FileM.outcome_bind, FileM.outcome_ask, Files.locate_keeps keeps target]
    dsimp only
    rw [FileM.get_bind]
    split
    · rename_i directory
      exact absurd directory still
    · have back : mid.erase temporary = files := Files.erase_put free _
      rw [← back]
      rfl
  rw [replaceFile, FileM.get_bind]
  simp only [whole, Bool.false_eq_true, if_false]
  rw [FileM.outcome_bind, FileM.writeText, writeBytes_temporary placed]
  dsimp only
  rw [FileM.outcome_tryCatch, renamed]

end Plain

end BrowserFlow.ScriptStore
