import BrowserFlow.Files.Tree
import BrowserFlow.Proofs.Result

/-!
What the operations on files leave at a place, and that a path leads to the same place as long as the
directories on the way stay.
-/

namespace BrowserFlow

namespace Files

/-- The places that are there in every tree. -/
def isBase (place : List String) : Bool := place == [] || place == ["/"]

theorem node?_base (files : Files) {place : List String} (base : isBase place = true) :
    files.node? place = some .directory := by
  rw [node?, ← isBase, if_pos base]

theorem node?_other (files : Files) {place : List String} (other : isBase place = false) :
    files.node? place = (files.nodes.find? fun entry => entry.1 == place).map (·.2) := by
  rw [node?, ← isBase, other, if_neg Bool.false_ne_true]

theorem find?_filter_other {nodes : List (List String × FileNode)} {place q : List String} (other : q ≠ place) :
    ((nodes.filter fun entry => entry.1 != place).find? fun entry => entry.1 == q) =
      nodes.find? fun entry => entry.1 == q := by
  rw [List.find?_filter]
  congr 1
  funext entry
  by_cases same : entry.1 = q
  · simp [same, other]
  · simp [same]

theorem node?_erase (files : Files) {place q : List String} (other : q ≠ place) :
    (files.erase place).node? q = files.node? q := by
  cases base : isBase q with
  | true => rw [node?_base _ base, node?_base _ base]
  | false => rw [node?_other _ base, node?_other _ base, erase, find?_filter_other other]

theorem node?_erase_self (files : Files) {place : List String} (other : isBase place = false) :
    (files.erase place).node? place = none := by
  rw [node?_other _ other, erase]
  simp [List.find?_eq_none]

theorem node?_put_other (files : Files) (node : FileNode) {place q : List String} (other : q ≠ place) :
    (files.put place node).node? q = files.node? q := by
  cases base : isBase q with
  | true => rw [node?_base _ base, node?_base _ base]
  | false =>
    rw [node?_other _ base, node?_other _ base, put, List.find?_append, find?_filter_other other]
    simp [Ne.symm other]

theorem node?_put (files : Files) (node : FileNode) {place : List String} (other : isBase place = false) :
    (files.put place node).node? place = some node := by
  have none : (files.nodes.filter fun entry => entry.1 != place).find? (fun entry => entry.1 == place) = none := by
    simp [List.find?_eq_none]
  rw [node?_other _ other, put, List.find?_append, none]
  simp

theorem not_base_of_file {files : Files} {place : List String} (file : files.node? place ≠ some .directory) :
    isBase place = false := by
  cases base : isBase place
  · rfl
  · exact absurd (node?_base files base) file

/-- A file that was not there before can be taken away again without a trace. -/
theorem erase_put {files : Files} {place : List String} (free : files.node? place = none) (node : FileNode) :
    (files.put place node).erase place = files := by
  have file : files.node? place ≠ some .directory := by
    rw [free]
    nofun
  have other := not_base_of_file file
  rw [node?_other _ other, Option.map_eq_none_iff, List.find?_eq_none] at free
  have kept : files.nodes.filter (fun entry => entry.1 != place) = files.nodes := by
    rw [List.filter_eq_self]
    intro entry member
    simpa using free entry member
  simp [put, erase, kept]

/-- The directories of one tree are directories of another. -/
def KeepsDirectories (files after : Files) : Prop :=
  ∀ place, files.node? place = some .directory → after.node? place = some .directory

/-- A file does not stand in the way of a path, since no path leads through it. -/
theorem keepsDirectories_put {files : Files} {place : List String} (file : files.node? place ≠ some .directory)
    (node : FileNode) : KeepsDirectories files (files.put place node) := by
  intro q directory
  by_cases same : q = place
  · subst same
    exact absurd directory file
  · rw [node?_put_other _ _ same, directory]

theorem keepsDirectories_erase {files : Files} {place : List String} (file : files.node? place ≠ some .directory) :
    KeepsDirectories files (files.erase place) := by
  intro q directory
  by_cases same : q = place
  · subst same
    exact absurd directory file
  · rw [node?_erase _ same, directory]

theorem walk_keeps {files after : Files} (keeps : KeepsDirectories files after) (place names : List String)
    {goal : List String} (found : files.walk place names = .ok goal) : after.walk place names = .ok goal := by
  induction names generalizing place with
  | nil => exact found
  | cons name names ih =>
    rw [walk] at found ⊢
    split at found
    · cases found
    · cases found
    · rename_i directory
      rw [keeps place directory]
      dsimp only
      split
      · rename_i up
        rw [if_pos up] at found
        exact ih _ found
      · rename_i notUp
        rw [if_neg notUp] at found
        split
        · rename_i long
          rw [if_pos long] at found
          cases found
        · rename_i short
          rw [if_neg short] at found
          exact ih _ found

theorem locate_keeps {files after : Files} (keeps : KeepsDirectories files after) {path : Path} {goal : List String}
    (found : files.locate path = .ok goal) : after.locate path = .ok goal := by
  have walked (place names : List String) (h : (files.walk place names).mapError (Fault.file · path.text) = .ok goal) :
      (after.walk place names).mapError (Fault.file · path.text) = .ok goal := by
    cases same : files.walk place names with
    | error fault =>
      rw [same] at h
      cases h
    | ok q =>
      rw [same] at h
      cases h
      rw [walk_keeps keeps place names same]
      rfl
  unfold locate at found ⊢
  split
  · rename_i nul
    rw [if_pos nul] at found
    cases found
  · rename_i plain
    rw [if_neg plain] at found
    dsimp only at found ⊢
    split at found <;> exact walked _ _ found

theorem locate_of_find {files : Files} {path : Path} {node : FileNode} (found : files.find path = .ok (some node)) :
    ∃ place, files.locate path = .ok place ∧ files.node? place = some node := by
  unfold find at found
  split at found
  · rename_i place reached
    exact ⟨place, reached, Except.ok.inj found⟩
  · cases found
  · cases found

theorem find_of_locate {files : Files} {path : Path} {place : List String} (found : files.locate path = .ok place) :
    files.find path = .ok (files.node? place) := by rw [find, found]

theorem walk_append (files : Files) (place names rest : List String) :
    files.walk place (names ++ rest) = (files.walk place names).bind (files.walk · rest) := by
  induction names generalizing place with
  | nil => rfl
  | cons name names ih =>
    rw [List.cons_append, walk, walk]
    split
    · rfl
    · rfl
    · split
      · exact ih _
      · split
        · rfl
        · exact ih _

theorem walk_through {files : Files} {base rest goal : List String} {name : String} (up : name ≠ "..")
    (found : files.walk base (name :: rest) = .ok goal) (there : (files.node? goal).isSome = true) :
    (files.node? (base ++ [name])).isSome = true := by
  rw [walk] at found
  split at found
  · cases found
  · cases found
  · rw [if_neg (by simpa using up)] at found
    split at found
    · cases found
    · cases rest with
      | nil =>
        cases found
        exact there
      | cons next rest =>
        rw [walk] at found
        split at found
        · cases found
        · rename_i file
          rw [file]
          rfl
        · rename_i directory
          rw [directory]
          rfl

/-- Where the first names of a path are looked up. -/
def root : List String → List String × List String
  | "/" :: names => (["/"], names)
  | "//" :: names => (["/"], names)
  | names => ([], names)

theorem locate_eq (files : Files) (path : Path) : files.locate path = if path.hasNul then .error .nulInPath else
    (files.walk (root path.parts).1 (root path.parts).2).mapError (.file · path.text) := by
  unfold locate
  split
  · rfl
  · dsimp only
    split
    · rename_i names first
      rw [first]
      rfl
    · rename_i names first
      rw [first]
      rfl
    · rename_i single double
      rw [root]
      · exact single
      · exact double

theorem root_append {parts names : List String} {name : String} (plain : name ≠ "/" ∧ name ≠ "//") :
    root (parts ++ name :: names) = ((root parts).1, (root parts).2 ++ name :: names) := by
  cases parts with
  | nil =>
    rw [List.nil_append, root]
    · rfl
    · simp [plain.1]
    · simp [plain.2]
  | cons first parts =>
    rw [List.cons_append]
    by_cases single : first = "/"
    · rw [single]
      rfl
    · by_cases double : first = "//"
      · rw [double]
        rfl
      · rw [root, root]
        · rfl
        all_goals simp [single, double]

/-- A path through a name leads through what has this name. -/
theorem locate_through {files : Files} {directory : Path} {name : String} {rest goal : List String}
    (plain : name ≠ "/" ∧ name ≠ "//") (up : name ≠ "..")
    (found : files.locate ⟨directory.parts ++ name :: rest⟩ = .ok goal) (there : (files.node? goal).isSome = true) :
    ∃ base, files.locate directory = .ok base ∧ (files.node? (base ++ [name])).isSome = true := by
  rw [locate_eq] at found
  split at found
  · cases found
  · rename_i plainWhole
    have nul : ¬ directory.hasNul = true := by
      intro nul
      refine plainWhole ?_
      rw [Path.hasNul, List.any_append, ← Path.hasNul, nul, Bool.true_or]
    rw [root_append plain, walk_append] at found
    cases reached : files.walk (root directory.parts).1 (root directory.parts).2 with
    | error fault =>
      rw [reached] at found
      cases found
    | ok base =>
      rw [reached] at found
      have on : files.walk base (name :: rest) = .ok goal := by
        cases on : files.walk base (name :: rest) with
        | error fault =>
          simp only [Except.bind, on] at found
          cases found
        | ok place =>
          simp only [Except.bind, on] at found
          cases found
          rfl
      refine ⟨base, ?_, walk_through up on there⟩
      rw [locate_eq, if_neg nul, reached]
      rfl

end Files

namespace FileM

def outcome {α : Type} (action : FileM α) (files : Files) : Except Fault α × Files := action.run.run files

variable {α β : Type}

theorem outcome_bind (x : FileM α) (f : α → FileM β) (files : Files) :
    outcome (x >>= f) files = match outcome x files with
      | (.ok a, mid) => outcome (f a) mid
      | (.error fault, mid) => (.error fault, mid) := by
  simp only [outcome, ExceptT.run, StateT.run, bind, ExceptT.bind, ExceptT.mk, StateT.bind, ExceptT.bindCont]
  cases x files with
  | mk result mid => cases result <;> rfl

theorem outcome_tryCatch (x : FileM α) (handle : Fault → FileM α) (files : Files) :
    outcome (tryCatch x handle) files = match outcome x files with
      | (.ok a, mid) => (.ok a, mid)
      | (.error fault, mid) => outcome (handle fault) mid := by
  simp only [outcome, ExceptT.run, StateT.run, tryCatch, tryCatchThe, MonadExceptOf.tryCatch, ExceptT.tryCatch,
    ExceptT.mk, bind, StateT.bind]
  cases x files with
  | mk result mid => cases result <;> rfl

theorem bind_ok {x : FileM α} {f : α → FileM β} {files after : Files} {b : β}
    (h : outcome (x >>= f) files = (.ok b, after)) :
    ∃ a mid, outcome x files = (.ok a, mid) ∧ outcome (f a) mid = (.ok b, after) := by
  rw [outcome_bind] at h
  split at h
  · rename_i a mid run
    exact ⟨a, mid, run, h⟩
  · cases h

theorem tryCatch_ok {x : FileM α} {handle : Fault → FileM α} {files after : Files} {a : α}
    (h : outcome (tryCatch x handle) files = (.ok a, after)) :
    outcome x files = (.ok a, after) ∨
      ∃ fault mid, outcome x files = (.error fault, mid) ∧ outcome (handle fault) mid = (.ok a, after) := by
  rw [outcome_tryCatch] at h
  split at h
  · rename_i b mid run
    exact .inl (by rw [run, h])
  · rename_i fault mid run
    exact .inr ⟨fault, mid, run, h⟩

theorem outcome_ask (query : Files → Except Fault α) (files : Files) :
    outcome (ask query) files = (query files, files) := rfl

theorem ask_ok {query : Files → Except Fault α} {files after : Files} {a : α}
    (h : outcome (ask query) files = (.ok a, after)) : query files = .ok a ∧ after = files := by
  rw [outcome_ask] at h
  exact ⟨congrArg Prod.fst h, (congrArg Prod.snd h).symm⟩

theorem ask_bind_ok {query : Files → Except Fault α} {f : α → FileM β} {files after : Files} {b : β}
    (h : outcome (ask query >>= f) files = (.ok b, after)) :
    ∃ a, query files = .ok a ∧ outcome (f a) files = (.ok b, after) := by
  obtain ⟨a, mid, asked, rest⟩ := bind_ok h
  obtain ⟨found, same⟩ := ask_ok asked
  subst same
  exact ⟨a, found, rest⟩

theorem get_bind (f : Files → FileM β) (files : Files) : outcome (get >>= f) files = outcome (f files) files := by
  rw [outcome_bind]
  rfl

theorem lift_bind_ok {x : Except Fault α} {f : α → FileM β} {files after : Files} {b : β}
    (h : outcome (liftM x >>= f) files = (.ok b, after)) : ∃ a, x = .ok a ∧ outcome (f a) files = (.ok b, after) := by
  cases x with
  | error fault => cases h
  | ok a => exact ⟨a, rfl, h⟩

theorem writeBytes_ok {path : Path} {bytes : List UInt8} {files after : Files}
    (h : outcome (writeBytes path bytes) files = (.ok (), after)) : ∃ place, files.locate path = .ok place ∧
      files.node? place ≠ some .directory ∧ after = files.put place (.file bytes) := by
  rw [writeBytes] at h
  obtain ⟨place, found, put⟩ := ask_bind_ok h
  rw [get_bind] at put
  refine ⟨place, found, ?_⟩
  split at put
  · cases put
  · rename_i other
    exact ⟨fun directory => other directory, (congrArg Prod.snd put).symm⟩

theorem remove_ok {path : Path} {files after : Files} (h : outcome (remove path) files = (.ok (), after)) :
    ∃ place bytes, files.locate path = .ok place ∧ files.node? place = some (.file bytes) ∧
      after = files.erase place := by
  rw [remove] at h
  obtain ⟨place, found, h⟩ := ask_bind_ok h
  rw [get_bind] at h
  split at h
  · cases h
  · cases h
  · rename_i bytes file
    exact ⟨place, bytes, found, file, (congrArg Prod.snd h).symm⟩

theorem rename_ok {source target : Path} {files after : Files}
    (h : outcome (rename source target) files = (.ok (), after)) : ∃ bytes place goal,
      files.readBytes source = .ok bytes ∧ files.locate source = .ok place ∧ files.locate target = .ok goal ∧
      files.node? goal ≠ some .directory ∧ after = (files.erase place).put goal (.file bytes) := by
  rw [rename] at h
  obtain ⟨bytes, read, h⟩ := ask_bind_ok h
  obtain ⟨place, left, h⟩ := ask_bind_ok h
  obtain ⟨goal, reached, h⟩ := ask_bind_ok h
  rw [get_bind] at h
  refine ⟨bytes, place, goal, read, left, reached, ?_⟩
  split at h
  · cases h
  · rename_i other
    exact ⟨fun directory => other directory, (congrArg Prod.snd h).symm⟩

end FileM

end BrowserFlow
