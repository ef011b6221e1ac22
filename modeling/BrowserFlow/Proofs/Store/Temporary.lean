import BrowserFlow.Proofs.Decimal.Numeral
import BrowserFlow.Proofs.Files.Tree
import BrowserFlow.Store
import Mathlib.Data.List.Nodup

/-!
The name of a temporary file is one that no file has: among one more candidates than there are nodes, one is free.
-/

namespace BrowserFlow

namespace Text

theorem splitOn_append {separator : Char} {front cs first : List Char} {rest : List (List Char)}
    (plain : separator ∉ front) (split : splitOn separator cs = first :: rest) :
    splitOn separator (front ++ cs) = (front ++ first) :: rest := by
  induction front with
  | nil => exact split
  | cons c front ih =>
    have tail := ih fun inside => plain (List.mem_cons_of_mem c inside)
    have other : c ≠ separator := fun same => plain (by simp [same])
    simp [splitOn, tail, other]

theorem splitOn_cons (separator : Char) (cs : List Char) : ∃ first rest, splitOn separator cs = first :: rest := by
  induction cs with
  | nil => exact ⟨[], [], rfl⟩
  | cons c cs ih =>
    obtain ⟨first, rest, split⟩ := ih
    rw [splitOn]
    split
    · exact ⟨_, _, rfl⟩
    · rw [split]
      exact ⟨_, _, rfl⟩

end Text

namespace ScriptStore

/-- The beginning of the name of the nth candidate. -/
def mark (n : Nat) : List Char := temporaryMark.toList ++ (Text.padZeros 8 (toString n)).toList

def temporary (s : ScriptStore) (n : Nat) : Path :=
  s.directory.child (temporaryMark ++ Text.padZeros 8 (toString n) ++ s.suffix)

theorem mark_inj {m n : Nat} {ending : List Char} (same : mark m ++ ending = mark n ++ ending) : m = n :=
  Text.padZeros_inj (List.append_cancel_left (List.append_cancel_right same))

theorem ofList_mark_ne {n : Nat} {ending : List Char} {word : String} (short : word.toList.length < 5) :
    String.ofList (mark n ++ ending) ≠ word := by
  rintro rfl
  simp [mark, temporaryMark] at short
  omega

theorem temporary_parts (s : ScriptStore) : ∃ ending rest, ∀ n,
    (s.temporary n).parts = s.directory.parts ++ String.ofList (mark n ++ ending) :: rest := by
  obtain ⟨ending, fields, split⟩ := Text.splitOn_cons '/' s.suffix.toList
  refine ⟨ending, (fields.map String.ofList).filter fun name => !name.isEmpty && name != ".", fun n => ?_⟩
  have plain : '/' ∉ mark n := by
    intro inside
    rcases List.mem_append.mp inside with inside | inside
    · revert inside
      decide
    · exact absurd (Text.padZeros_digits inside) (by decide)
  have named : Text.splitOn '/' (temporaryMark ++ Text.padZeros 8 (toString n) ++ s.suffix).toList =
      (mark n ++ ending) :: fields := by
    rw [String.toList_append, String.toList_append]
    exact Text.splitOn_append plain split
  have filled : String.ofList (mark n ++ ending) ≠ "" := ofList_mark_ne (by decide)
  have notDot : String.ofList (mark n ++ ending) ≠ "." := ofList_mark_ne (by decide)
  have kept (name : String) (filled : name ≠ "") (notDot : name ≠ ".") : (!name.isEmpty && name != ".") = true := by
    simp [filled, notDot]
  rw [temporary, Path.child, Path.names, named, List.map_cons, List.filter_cons, if_pos (kept _ filled notDot)]

def isTaken (s : ScriptStore) (files : Files) (n : Nat) : Bool :=
  match files.find (s.temporary n) with
  | .ok none => false
  | .ok (some _) => true
  | .error _ => false

theorem temporaryPath_eq (s : ScriptStore) (files : Files) : s.temporaryPath files =
    s.temporary (((List.range (files.nodes.length + 1)).find? fun n => !s.isTaken files n).getD 0) := rfl

theorem free_of_not_taken {s : ScriptStore} {files : Files} {n : Nat} {place : List String}
    (free : s.isTaken files n = false) (reached : files.locate (s.temporary n) = .ok place) :
    files.node? place = none := by
  rw [isTaken, Files.find_of_locate reached] at free
  cases there : files.node? place with
  | none => rfl
  | some node =>
    rw [there] at free
    cases free

theorem taken_through {s : ScriptStore} {files : Files} {ending : List Char} {rest : List String} {n : Nat}
    (parts : (s.temporary n).parts = s.directory.parts ++ String.ofList (mark n ++ ending) :: rest)
    (taken : s.isTaken files n = true) : ∃ base, files.locate s.directory = .ok base ∧
      base ++ [String.ofList (mark n ++ ending)] ∈ files.nodes.map (·.1) := by
  have there : ∃ node, files.find (s.temporary n) = .ok (some node) := by
    rw [isTaken] at taken
    split at taken
    · cases taken
    · exact ⟨_, ‹_›⟩
    · cases taken
  obtain ⟨node, there⟩ := there
  obtain ⟨place, reached, held⟩ := Files.locate_of_find there
  have path : s.temporary n = ⟨s.directory.parts ++ String.ofList (mark n ++ ending) :: rest⟩ := by
    rw [← parts]
  rw [path] at reached
  obtain ⟨base, found, through⟩ := Files.locate_through ⟨ofList_mark_ne (by decide), ofList_mark_ne (by decide)⟩
    (ofList_mark_ne (by decide)) reached (by rw [held]; rfl)
  refine ⟨base, found, ?_⟩
  have other : Files.isBase (base ++ [String.ofList (mark n ++ ending)]) = false := by
    have notRoot : String.ofList (mark n ++ ending) ≠ "/" := ofList_mark_ne (by decide)
    generalize String.ofList (mark n ++ ending) = name at notRoot
    cases base <;> simp [Files.isBase, notRoot]
  rw [Files.node?_other _ other, Option.isSome_map, List.find?_isSome] at through
  obtain ⟨entry, member, same⟩ := through
  exact List.mem_map.mpr ⟨entry, member, beq_iff_eq.mp same⟩

/-- The temporary path is free, if it leads anywhere: candidates that are taken lead through nodes of their own, and
    there is one more candidate than there are nodes. -/
theorem temporaryPath_free (s : ScriptStore) (files : Files) {place : List String}
    (reached : files.locate (s.temporaryPath files) = .ok place) : files.node? place = none := by
  obtain ⟨ending, rest, parts⟩ := s.temporary_parts
  rw [temporaryPath_eq] at reached
  cases found : (List.range (files.nodes.length + 1)).find? fun n => !s.isTaken files n with
  | some n =>
    rw [found] at reached
    have free := List.find?_some found
    exact free_of_not_taken (by simpa using free) reached
  | none =>
    have taken : ∀ n < files.nodes.length + 1, s.isTaken files n = true := by
      simpa [List.find?_eq_none] using found
    obtain ⟨base, located, _⟩ := taken_through (parts 0) (taken 0 (by omega))
    let candidates := (List.range (files.nodes.length + 1)).map fun n => base ++ [String.ofList (mark n ++ ending)]
    have distinct : candidates.Nodup := by
      refine List.nodup_range.map fun m n same => ?_
      have names := (List.singleton_inj.mp (List.append_cancel_left same))
      exact mark_inj (String.ofList_injective names)
    have inside : candidates ⊆ files.nodes.map (·.1) := by
      intro place member
      obtain ⟨n, small, rfl⟩ := List.mem_map.mp member
      obtain ⟨base', located', through⟩ := taken_through (parts n) (taken n (List.mem_range.mp small))
      rw [located] at located'
      cases located'
      exact through
    have few := distinct.length_le_of_subset inside
    simp only [candidates, List.length_map, List.length_range] at few
    omega

end ScriptStore

end BrowserFlow
