import BrowserFlow.Proofs.Files.Tree
import Mathlib.Data.List.Nodup

/-!
What is directly in a directory: how it changes when a file is put there or taken away, and where a path to one of its
files leads.
-/

namespace BrowserFlow

namespace Files

/-- The names directly in a directory, with what they are names of. -/
def entries (files : Files) (base : List String) : List (String × FileNode) :=
  files.nodes.filterMap fun (p, node) =>
    match p.getLast? with
    | some name => if p.dropLast == base then some (name, node) else none
    | none => none

variable {files : Files} {base : List String}

theorem names_ok {path : Path} {list : List (String × FileNode)} : files.names path = .ok list ↔
    ∃ base, files.locate path = .ok base ∧ files.node? base = some .directory ∧ list = files.entries base := by
  constructor
  · intro h
    obtain ⟨base, located, h⟩ := bind_ok h
    refine ⟨base, located, ?_⟩
    split at h
    · cases h
    · cases h
    · rename_i directory
      exact ⟨directory, (Except.ok.inj h).symm⟩
  · rintro ⟨base, located, directory, rfl⟩
    rw [names, located]
    simp only [Bind.bind, Except.bind, directory]
    rfl

/-- A node as an entry of a directory. -/
def childOf? (base : List String) (node : List String × FileNode) : Option (String × FileNode) :=
  match node.1.getLast? with
  | some name => if node.1.dropLast == base then some (name, node.2) else none
  | none => none

theorem entries_eq (files : Files) (base : List String) : files.entries base = files.nodes.filterMap (childOf? base) := rfl

theorem childOf?_eq {node : List String × FileNode} {entry : String × FileNode} :
    childOf? base node = some entry ↔ node = (base ++ [entry.1], entry.2) := by
  obtain ⟨p, node⟩ := node
  obtain ⟨name, other⟩ := entry
  unfold childOf?
  dsimp only
  constructor
  · intro h
    split at h
    · rename_i last
      split at h
      · rename_i same
        cases h
        obtain ⟨front, rfl⟩ := List.getLast?_eq_some_iff.mp last
        rw [List.dropLast_concat, beq_iff_eq] at same
        rw [same]
      · cases h
    · cases h
  · intro h
    cases h
    simp

theorem entries_filter (name : String) (nodes : List (List String × FileNode)) :
    (nodes.filter fun node => node.1 != base ++ [name]).filterMap (childOf? base) =
      (nodes.filterMap (childOf? base)).filter fun entry => entry.1 != name := by
  rw [List.filterMap_filter, List.filter_filterMap]
  congr 1
  funext node
  cases found : childOf? base node with
  | none => split <;> rfl
  | some entry =>
    rw [childOf?_eq.mp found]
    by_cases same : entry.1 = name
    · simp [same, Option.filter]
    · simp [same, Option.filter]

theorem entries_erase (name : String) : (files.erase (base ++ [name])).entries base =
    (files.entries base).filter fun entry => entry.1 != name := entries_filter name files.nodes

theorem entries_put (name : String) (node : FileNode) : (files.put (base ++ [name]) node).entries base =
    ((files.entries base).filter fun entry => entry.1 != name) ++ [(name, node)] := by
  have entry : childOf? base (base ++ [name], node) = some (name, node) := childOf?_eq.mpr rfl
  have last : [(base ++ [name], node)].filterMap (childOf? base) = [(name, node)] := by
    rw [List.filterMap_cons, entry]
    rfl
  rw [entries_eq, put, List.filterMap_append, entries_filter, last]
  rfl

/-- Names lead somewhere directly in a directory unless they are those of the root or its own. -/
theorem not_isBase_of_name {name : String} (plain : name ≠ "/") : isBase (base ++ [name]) = false := by
  cases base <;> simp [isBase, plain]

theorem node?_entry {name : String} (plain : name ≠ "/") :
    files.node? (base ++ [name]) = ((files.entries base).find? fun entry => entry.1 == name).map (·.2) := by
  rw [node?_other _ (not_isBase_of_name plain), entries_eq, List.find?_filterMap]
  have same : (fun node : List String × FileNode => node.1 == base ++ [name]) =
      fun node => (childOf? base node).any fun entry => entry.1 == name := by
    funext node
    cases found : childOf? base node with
    | none =>
      have other : node.1 ≠ base ++ [name] := by
        intro same
        have entry : childOf? base node = some (name, node.2) := childOf?_eq.mpr (Prod.ext same rfl)
        cases found.symm.trans entry
      simp [other]
    | some entry =>
      rw [childOf?_eq.mp found]
      simp
  rw [same]
  cases found : files.nodes.find? fun node => (childOf? base node).any fun entry => entry.1 == name with
  | none => rfl
  | some node =>
    have here := List.find?_some found
    cases read : childOf? base node with
    | none =>
      rw [read] at here
      cases here
    | some entry =>
      change some node.2 = (childOf? base node).map (·.2)
      rw [read, childOf?_eq.mp read]
      rfl

theorem node?_of_mem {name : String} {node : FileNode} (plain : name ≠ "/")
    (distinct : ((files.entries base).map (·.1)).Nodup) (member : (name, node) ∈ files.entries base) :
    files.node? (base ++ [name]) = some node := by
  rw [node?_entry plain]
  cases found : (files.entries base).find? fun entry => entry.1 == name with
  | none =>
    have other := List.find?_eq_none.mp found _ member
    simp at other
  | some entry =>
    have key := List.find?_some found
    have named : entry.1 = name := eq_of_beq key
    have same := List.inj_on_of_nodup_map distinct (List.mem_of_find?_eq_some found) member named
    rw [same]
    rfl

theorem node?_of_not_mem {name : String} (plain : name ≠ "/") (other : ∀ node, (name, node) ∉ files.entries base) :
    files.node? (base ++ [name]) = none := by
  rw [node?_entry plain, Option.map_eq_none_iff, List.find?_eq_none]
  rintro ⟨key, node⟩ member same
  have named : key = name := eq_of_beq same
  subst named
  exact other node member

theorem not_root_of_plain {name : String} (plain : '/' ∉ name.toList) : name ≠ "/" ∧ name ≠ "//" := by
  constructor
  · rintro rfl
    exact plain (by decide)
  · rintro rfl
    exact plain (by decide)

/-- A path to a name directly in a directory. -/
theorem locate_child {directory : Path} (located : files.locate directory = .ok base)
    (there : files.node? base = some .directory) {name : String} (plain : '/' ∉ name.toList) (up : name ≠ "..") :
    files.locate ⟨directory.parts ++ [name]⟩ =
      if Char.ofNat 0 ∈ name.toList then .error .nulInPath
      else if maxNameSize < Utf8.size name then .error (.file .nameTooLong (Path.text ⟨directory.parts ++ [name]⟩))
      else .ok (base ++ [name]) := by
  rw [locate_eq] at located ⊢
  split at located
  · cases located
  rename_i nul
  cases reached : files.walk (root directory.parts).1 (root directory.parts).2 with
  | error fault =>
    rw [reached] at located
    cases located
  | ok place =>
    rw [reached] at located
    cases located
    have hasNul : Path.hasNul ⟨directory.parts ++ [name]⟩ = true ↔ Char.ofNat 0 ∈ name.toList := by
      have clear : directory.parts.any (fun name => name.toList.contains (Char.ofNat 0)) = false :=
        Bool.eq_false_iff.mpr nul
      rw [Path.hasNul, List.any_append, clear]
      simp
    simp only [hasNul]
    split
    · rfl
    · rw [root_append (not_root_of_plain plain), walk_append, reached]
      simp only [Except.bind, walk, there, beq_iff_eq, up, if_false]
      split <;> rfl

/-- Where a path leads ends with its last name. -/
theorem locate_last {directory : Path} {name : String} {goal : List String} (plain : '/' ∉ name.toList) (up : name ≠ "..")
    (located : files.locate ⟨directory.parts ++ [name]⟩ = .ok goal) : ∃ base, goal = base ++ [name] := by
  rw [locate_eq] at located
  split at located
  · cases located
  · rw [root_append (not_root_of_plain plain), walk_append] at located
    cases reached : files.walk (root directory.parts).1 (root directory.parts).2 with
    | error fault =>
      rw [reached] at located
      cases located
    | ok place =>
      rw [reached] at located
      simp only [Except.bind, walk, beq_iff_eq, up, if_false] at located
      split at located
      · cases located
      · cases located
      · split at located
        · cases located
        · cases located
          exact ⟨place, rfl⟩

end Files

end BrowserFlow
