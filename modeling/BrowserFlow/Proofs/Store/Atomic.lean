import BrowserFlow.Proofs.Store.Temporary

/-!
Writing and deleting a script either succeed or leave the files as they were. A rename that fails comes after the
temporary file has been written, so that this file has to be removed again.
-/

namespace BrowserFlow

namespace FileM

variable {α β : Type}

/-- If it fails, no file has changed. -/
def IsAtomic (action : FileM α) : Prop :=
  ∀ files fault after, action.outcome files = (.error fault, after) → after = files

theorem isAtomic_throw (fault : Fault) : IsAtomic (throw fault : FileM α) := by
  intro files fault' after failed
  cases failed
  rfl

theorem isAtomic_pure (a : α) : IsAtomic (pure a : FileM α) := by
  intro files fault after failed
  cases failed

theorem isAtomic_modify (change : Files → Files) : IsAtomic (modify change : FileM PUnit) := by
  intro files fault after failed
  cases failed

/-- What comes first only looks. -/
theorem IsAtomic.ask_bind {query : Files → Except Fault α} {f : α → FileM β} (atomic : ∀ a, IsAtomic (f a)) :
    IsAtomic (ask query >>= f) := by
  intro files fault after failed
  rw [outcome_bind, outcome_ask] at failed
  cases found : query files with
  | error fault' =>
    rw [found] at failed
    cases failed
    rfl
  | ok a =>
    rw [found] at failed
    exact atomic a _ _ _ failed

theorem IsAtomic.get_bind {f : Files → FileM β} (atomic : ∀ files, IsAtomic (f files)) : IsAtomic (get >>= f) := by
  intro files fault after failed
  rw [FileM.get_bind] at failed
  exact atomic files _ _ _ failed

theorem IsAtomic.lift_bind {x : Except Fault α} {f : α → FileM β} (atomic : ∀ a, IsAtomic (f a)) :
    IsAtomic (liftM x >>= f) := by
  cases x with
  | error fault => exact isAtomic_throw fault
  | ok a => exact atomic a

theorem IsAtomic.caught {x : FileM α} {handle : Fault → FileM α} (atomic : IsAtomic x)
    (handles : ∀ fault, IsAtomic (handle fault)) : IsAtomic (tryCatch x handle) := by
  intro files fault after failed
  rw [outcome_tryCatch] at failed
  split at failed
  · cases failed
  · rename_i fault' mid run
    cases atomic _ _ _ run
    exact handles fault' _ _ _ failed

theorem IsAtomic.rethrow {x : FileM α} (atomic : IsAtomic x) (reword : Fault → Fault) :
    IsAtomic (tryCatch x fun fault => throw (reword fault)) := atomic.caught fun _ => isAtomic_throw _

/-- What comes afterwards cannot fail. -/
theorem IsAtomic.bind_pure {x : FileM α} (atomic : IsAtomic x) (b : α → β) : IsAtomic (x >>= fun a => pure (b a)) := by
  intro files fault after failed
  rw [outcome_bind] at failed
  split at failed
  · cases failed
  · rename_i fault' mid run
    cases failed
    exact atomic _ _ _ run

theorem writeBytes_isAtomic (path : Path) (bytes : List UInt8) : IsAtomic (writeBytes path bytes) := by
  refine .ask_bind fun place => .get_bind fun files => ?_
  split
  · exact isAtomic_throw _
  · exact isAtomic_modify _

theorem remove_isAtomic (path : Path) : IsAtomic (remove path) := by
  refine .ask_bind fun place => .get_bind fun files => ?_
  split
  · exact isAtomic_throw _
  · exact isAtomic_throw _
  · exact isAtomic_modify _

theorem rename_isAtomic (source target : Path) : IsAtomic (rename source target) := by
  refine .ask_bind fun bytes => .ask_bind fun place => .ask_bind fun goal => .get_bind fun files => ?_
  split
  · exact isAtomic_throw _
  · exact isAtomic_modify _

theorem remove_outcome {files : Files} {path : Path} {place : List String} {bytes : List UInt8}
    (reached : files.locate path = .ok place) (file : files.node? place = some (.file bytes)) :
    (remove path).outcome files = (.ok (), files.erase place) := by
  rw [remove, outcome_bind, outcome_ask, reached]
  dsimp only
  rw [FileM.get_bind, file]
  rfl

end FileM

namespace ScriptStore

/-- The temporary file was not there before it was written, so that removing it brings back the same tree. -/
theorem remove_temporary (s : ScriptStore) {files : Files} {place : List String}
    (placed : files.locate (s.temporaryPath files) = .ok place) (bytes : List UInt8) :
    (FileM.remove (s.temporaryPath files)).outcome (files.put place (.file bytes)) = (.ok (), files) := by
  have free := s.temporaryPath_free files placed
  have file : files.node? place ≠ some .directory := by
    rw [free]
    nofun
  have kept := Files.locate_keeps (Files.keepsDirectories_put file (.file bytes)) placed
  rw [FileM.remove_outcome kept (Files.node?_put files (.file bytes) (Files.not_base_of_file file)),
    Files.erase_put free]

theorem replaceFile_isAtomic (s : ScriptStore) (path : Path) (text : String) :
    FileM.IsAtomic (s.replaceFile path text) := by
  intro files fault after failed
  rw [replaceFile, FileM.get_bind] at failed
  dsimp only at failed
  split at failed
  · cases failed
    rfl
  rw [FileM.outcome_bind] at failed
  split at failed
  · rename_i mid written
    obtain ⟨temporary, placed, _, rfl⟩ := FileM.writeBytes_ok written
    rw [FileM.outcome_tryCatch] at failed
    split at failed
    · cases failed
    · rename_i refused left run
      have same := FileM.rename_isAtomic _ _ _ _ _ run
      subst same
      rw [FileM.outcome_bind, s.remove_temporary placed] at failed
      cases failed
      rfl
  · rename_i refused mid run
    cases failed
    exact FileM.writeBytes_isAtomic _ _ _ _ _ run

/-- A script that cannot be written leaves every file as it was, and no temporary file behind. -/
theorem write_isAtomic (s : ScriptStore) (id text : String) : FileM.IsAtomic (s.write id text) := by
  rw [write]
  split
  · exact FileM.isAtomic_throw _
  · exact .lift_bind fun path => (s.replaceFile_isAtomic path text).rethrow _

theorem delete_isAtomic (s : ScriptStore) (id : String) : FileM.IsAtomic (s.delete id) :=
  .ask_bind fun path => (FileM.remove_isAtomic path).rethrow _

end ScriptStore

end BrowserFlow
