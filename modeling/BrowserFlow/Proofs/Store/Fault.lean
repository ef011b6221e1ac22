import BrowserFlow.Proofs.Result
import BrowserFlow.Proofs.Store.Temporary

/-!
Which faults a write ends in. Whatever the file system and the store do, it is one of the program's own errors, unless a
name on the way has a null character in it.
-/

namespace BrowserFlow

theorem Text.mem_of_mem_splitOn {separator : Char} {cs field : List Char} (member : field ∈ splitOn separator cs)
    {c : Char} (inside : c ∈ field) : c ∈ cs := by
  induction cs generalizing field with
  | nil =>
    rw [splitOn, List.mem_singleton] at member
    rw [member] at inside
    exact inside
  | cons d cs ih =>
    rw [splitOn] at member
    obtain ⟨first, rest, split⟩ := splitOn_cons separator cs
    rw [split] at member ih
    split at member
    · rcases List.mem_cons.mp member with rfl | member
      · cases inside
      · exact List.mem_cons_of_mem d (ih member inside)
    · rcases List.mem_cons.mp member with rfl | member
      · rcases List.mem_cons.mp inside with rfl | inside
        · exact List.mem_cons_self
        · exact List.mem_cons_of_mem d (ih List.mem_cons_self inside)
      · exact List.mem_cons_of_mem d (ih (List.mem_cons_of_mem first member) inside)

theorem Path.hasNul_child {p : Path} {name : String} (nul : (p.child name).hasNul = true) :
    p.hasNul = true ∨ Char.ofNat 0 ∈ name.toList := by
  rw [hasNul, child, List.any_append, Bool.or_eq_true] at nul
  refine nul.imp_right fun nul => ?_
  obtain ⟨part, member, inside⟩ := List.any_eq_true.mp nul
  obtain ⟨field, among, rfl⟩ := List.mem_map.mp (List.mem_of_mem_filter member)
  rw [List.contains_iff_mem, String.toList_ofList] at inside
  exact Text.mem_of_mem_splitOn among inside

/-- The faults of the file system on paths of which one may have a null character. -/
def Fault.IsOfFiles (nul : Prop) (fault : Fault) : Prop := (∃ f shown, fault = .file f shown) ∨ fault = .nulInPath ∧ nul

theorem Files.locate_fault {files : Files} {path : Path} {fault : Fault} (failed : files.locate path = .error fault) :
    fault.IsOfFiles (path.hasNul = true) := by
  rw [locate_eq] at failed
  split at failed
  · rename_i nul
    cases failed
    exact .inr ⟨rfl, nul⟩
  · left
    generalize (files.walk (root path.parts).1 (root path.parts).2) = reached at failed
    cases reached with
    | ok place => cases failed
    | error f =>
      cases failed
      exact ⟨f, _, rfl⟩

namespace FileM

variable {α β : Type} {allowed : Fault → Prop}

/-- If it fails, then with such a fault. -/
def FailsOnly (allowed : Fault → Prop) (action : FileM α) : Prop :=
  ∀ files fault after, action.outcome files = (.error fault, after) → allowed fault

theorem failsOnly_throw {fault : Fault} (may : allowed fault) : FailsOnly allowed (throw fault : FileM α) := by
  intro files fault' after failed
  cases failed
  exact may

theorem failsOnly_modify (change : Files → Files) : FailsOnly allowed (modify change : FileM PUnit) := by
  intro files fault after failed
  cases failed

theorem FailsOnly.bind {x : FileM α} {f : α → FileM β} (first : FailsOnly allowed x)
    (rest : ∀ a, FailsOnly allowed (f a)) : FailsOnly allowed (x >>= f) := by
  intro files fault after failed
  rw [outcome_bind] at failed
  split at failed
  · exact rest _ _ _ _ failed
  · rename_i run
    cases failed
    exact first _ _ _ run

theorem FailsOnly.get_bind {f : Files → FileM β} (rest : ∀ files, FailsOnly allowed (f files)) :
    FailsOnly allowed (get >>= f) := by
  intro files fault after failed
  rw [FileM.get_bind] at failed
  exact rest files _ _ _ failed

theorem FailsOnly.ask_bind {query : Files → Except Fault α} {f : α → FileM β}
    (asks : ∀ files fault, query files = .error fault → allowed fault) (rest : ∀ a, FailsOnly allowed (f a)) :
    FailsOnly allowed (ask query >>= f) := by
  refine .bind (fun files fault after failed => ?_) rest
  rw [outcome_ask] at failed
  exact asks files fault (congrArg Prod.fst failed)

/-- What is caught may be another fault than what is thrown in its place. -/
theorem FailsOnly.caught {x : FileM α} {handle : Fault → FileM α} {caught : Fault → Prop} (first : FailsOnly caught x)
    (handles : ∀ fault, caught fault → FailsOnly allowed (handle fault)) : FailsOnly allowed (tryCatch x handle) := by
  intro files fault after failed
  rw [outcome_tryCatch] at failed
  split at failed
  · cases failed
  · rename_i run
    exact handles _ (first _ _ _ run) _ _ _ failed

variable {nul : Prop}

theorem failsOnly_file (f : FileFault) (shown : String) :
    FailsOnly (Fault.IsOfFiles nul) (throw (.file f shown) : FileM α) := failsOnly_throw (.inl ⟨f, shown, rfl⟩)

theorem FailsOnly.locate_bind {path : Path} {f : List String → FileM β} (named : path.hasNul = true → nul)
    (rest : ∀ place, FailsOnly (Fault.IsOfFiles nul) (f place)) :
    FailsOnly (Fault.IsOfFiles nul) (ask (·.locate path) >>= f) :=
  .ask_bind (fun _ _ failed => (Files.locate_fault failed).imp_right fun ⟨same, there⟩ => ⟨same, named there⟩) rest

theorem writeBytes_fails {path : Path} (named : path.hasNul = true → nul) (bytes : List UInt8) :
    FailsOnly (Fault.IsOfFiles nul) (writeBytes path bytes) := by
  refine .locate_bind named fun place => .get_bind fun files => ?_
  split
  · exact failsOnly_file _ _
  · exact failsOnly_modify _

theorem remove_fails {path : Path} (named : path.hasNul = true → nul) :
    FailsOnly (Fault.IsOfFiles nul) (remove path) := by
  refine .locate_bind named fun place => .get_bind fun files => ?_
  split
  · exact failsOnly_file _ _
  · exact failsOnly_file _ _
  · exact failsOnly_modify _

theorem readBytes_fault {files : Files} {path : Path} {fault : Fault} (failed : files.readBytes path = .error fault) :
    fault.IsOfFiles (path.hasNul = true) := by
  rcases bind_error failed with failed | ⟨place, _, failed⟩
  · exact Files.locate_fault failed
  · split at failed <;> cases failed
    · exact .inl ⟨_, _, rfl⟩
    · exact .inl ⟨_, _, rfl⟩

theorem rename_fails {source target : Path} (left : source.hasNul = true → nul) (reached : target.hasNul = true → nul) :
    FailsOnly (Fault.IsOfFiles nul) (rename source target) := by
  refine .ask_bind (fun _ _ failed => (readBytes_fault failed).imp_right fun ⟨same, there⟩ => ⟨same, left there⟩) ?_
  refine fun bytes => .locate_bind left fun place => .locate_bind reached fun goal => .get_bind fun files => ?_
  split
  · exact failsOnly_file _ _
  · exact failsOnly_modify _

end FileM

namespace ScriptStore

/-- No name that the store writes to has a null character in it. -/
def IsClear (s : ScriptStore) : Prop := s.directory.hasNul = false ∧ Char.ofNat 0 ∉ s.suffix.toList

theorem hasNul_temporaryPath {s : ScriptStore} {files : Files} (nul : (s.temporaryPath files).hasNul = true) :
    ¬ s.IsClear := by
  rintro ⟨directory, suffix⟩
  rw [temporaryPath_eq] at nul
  generalize ((List.range (files.nodes.length + 1)).find? fun n => !s.isTaken files n).getD 0 = n at nul
  rcases Path.hasNul_child nul with inside | inside
  · rw [directory] at inside
    cases inside
  · rw [String.toList_append, List.mem_append] at inside
    refine suffix (inside.resolve_left fun mark => ?_)
    rw [String.toList_append, List.mem_append] at mark
    rcases mark with mark | digits
    · exact absurd mark (by decide)
    · exact absurd (Text.padZeros_digits digits) (by decide)

theorem hasNul_path {s : ScriptStore} {id : String} {path : Path} (named : s.path id = .ok path)
    (plain : Char.ofNat 0 ∉ id.toList) (nul : path.hasNul = true) : ¬ s.IsClear := by
  rintro ⟨directory, suffix⟩
  unfold ScriptStore.path at named
  split at named
  · cases named
    rcases Path.hasNul_child nul with inside | inside
    · rw [directory] at inside
      cases inside
    · rw [String.toList_append, List.mem_append] at inside
      exact inside.elim plain suffix
  · cases named

theorem replaceFile_fails {s : ScriptStore} {path : Path} (text : String) (reached : path.hasNul = true → ¬ s.IsClear) :
    FileM.FailsOnly (Fault.IsOfFiles (¬ s.IsClear)) (s.replaceFile path text) := by
  refine .get_bind fun files => ?_
  have temporary : (s.temporaryPath files).hasNul = true → ¬ s.IsClear := hasNul_temporaryPath
  have renamed : FileM.FailsOnly (Fault.IsOfFiles (¬ s.IsClear))
      (tryCatch (FileM.rename (s.temporaryPath files) path) fun fault => do
        FileM.remove (s.temporaryPath files)
        throw fault) :=
    (FileM.rename_fails temporary reached).caught fun _ of =>
      .bind (FileM.remove_fails temporary) fun _ => FileM.failsOnly_throw of
  dsimp only
  split
  · exact .bind (FileM.failsOnly_file _ _) fun _ => .bind (FileM.writeBytes_fails temporary _) fun _ => renamed
  · exact .bind (FileM.writeBytes_fails temporary _) fun _ => renamed

/-- Whatever keeps a script from being written is one of the program's own errors, if no name has a null character. -/
theorem write_fails {s : ScriptStore} {id : String} (plain : Char.ofNat 0 ∉ id.toList) (text : String) :
    FileM.FailsOnly (fun fault => (∃ e, fault = .flow e) ∨ fault = .nulInPath ∧ ¬ s.IsClear) (s.write id text) := by
  unfold write
  split
  · exact FileM.failsOnly_throw (.inl ⟨_, rfl⟩)
  · cases named : s.path id with
    | error fault =>
      refine FileM.failsOnly_throw (.inl ?_)
      unfold ScriptStore.path at named
      split at named
      · cases named
      · cases named
        exact ⟨_, rfl⟩
    | ok path =>
      refine (replaceFile_fails text (hasNul_path named plain)).caught fun fault of => ?_
      rcases of with ⟨f, shown, rfl⟩ | ⟨rfl, nul⟩
      · exact FileM.failsOnly_throw (.inl ⟨_, rfl⟩)
      · exact FileM.failsOnly_throw (.inr ⟨rfl, nul⟩)

end ScriptStore

end BrowserFlow
