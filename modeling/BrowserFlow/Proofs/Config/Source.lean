import BrowserFlow.Config.Source
import BrowserFlow.Proofs.Config.Environment
import BrowserFlow.Proofs.Result

/-!
The sources of settings one by one: what a settings file holds, and what an environment file adds to the environment.
-/

namespace BrowserFlow

/-! ### Settings files -/

namespace Yaml.Node

theorem not_dict_timestamp {cs : List Char} {v : Value} (read : Scalar.readTimestamp cs = .ok v) : v.dict? = none := by
  rw [Scalar.readTimestamp] at read
  split at read
  · cases read
  · split at read
    · cases read
    · cases read
      rfl

theorem not_dict_scalar {tag text : String} {v : Value} (read : Scalar.value tag text = .ok v) : v.dict? = none := by
  have mapped {α : Type} {x : Except Refusal α} {f : α → Value} (plain : ∀ a, (f a).dict? = none)
      (h : x.map f = .ok v) : v.dict? = none := by
    cases x with
    | error refusal => cases h
    | ok a =>
      cases h
      exact plain a
  rw [Scalar.value] at read
  -- by the tag: a string, null, a truth value, an integer, a number, a time, bytes, and anything else
  repeat' split at read
  · cases read
    rfl
  · cases read
    rfl
  · exact mapped (fun _ => rfl) read
  · exact mapped (fun _ => rfl) read
  · exact mapped (fun _ => rfl) read
  · exact not_dict_timestamp read
  · cases read
    rfl
  · cases read
  · cases read

theorem mem_pairValues {pairs : List (Node × Node)} {entry : String × Value} (member : entry ∈ pairValues pairs) :
    ∃ node : Node, entry.2 = node.value := by
  induction pairs with
  | nil =>
    rw [pairValues] at member
    exact absurd member List.not_mem_nil
  | cons pair pairs ih =>
    obtain ⟨key, node⟩ := pair
    rw [pairValues] at member
    split at member
    · rcases List.mem_cons.mp member with rfl | later
      · exact ⟨node, rfl⟩
      · exact ih later
    · exact ih member

/-- A mapping gives a dictionary of the values of nodes. -/
theorem value_dict {node : Node} {entries : Entries} (value : node.value = .dict entries) :
    entries.Distinct ∧ ∀ entry ∈ entries, ∃ other : Node, entry.2 = other.value := by
  cases node with
  | scalar tag text =>
    rw [Node.value] at value
    cases read : Scalar.value tag text with
    | error refusal =>
      rw [read] at value
      cases value
    | ok v =>
      rw [read] at value
      have plain := not_dict_scalar read
      rw [show v = .dict entries from value] at plain
      cases plain
  | sequence tag items =>
    rw [Node.value] at value
    split at value <;> cases value
  | mapping tag pairs =>
    rw [Node.value] at value
    split at value
    · cases value
    · cases value
      refine ⟨Entries.distinct_collect _, fun entry member => ?_⟩
      obtain ⟨pair, source, same⟩ := Entries.mem_collect _ entry member
      rw [same]
      exact mem_pairValues source
  | cycle isMapping =>
    rw [Node.value] at value
    cases value

theorem value_keyed {node : Node} {entries : Entries} (value : node.value = .dict entries) : entries.Keyed := by
  obtain ⟨distinct, each⟩ := value_dict value
  refine ⟨distinct, fun name inner found => ?_⟩
  obtain ⟨other, same⟩ := each _ (Entries.mem_of_get? found)
  exact (value_dict same.symm).1

end Yaml.Node

theorem Yaml.Document.ofText_value {cs : List Char} {document : Document} (parsed : ofText cs = .ok document) :
    document.value = .null ∨ ∃ node : Node, document.value = node.value := by
  rw [ofText] at parsed
  cases read : Node.ofText? cs with
  | error refusal =>
    rw [read] at parsed
    cases parsed
  | ok node? =>
    rw [read] at parsed
    simp only [Bind.bind, Except.bind] at parsed
    cases node? with
    | none =>
      cases parsed
      exact .inl rfl
    | some node =>
      dsimp only at parsed
      split at parsed
      · cases parsed
      · cases parsed
        exact .inr ⟨node, rfl⟩

namespace SettingsFile

/-- The entries of a settings file are those of a mapping, or there are none. -/
theorem read_entries {files : Files} {f : SettingsFile} {entries : Entries} (h : read files f = .ok entries) :
    entries = [] ∨ ∃ node : Yaml.Node, node.value = .dict entries := by
  obtain ⟨text, _, h⟩ := bind_ok h
  dsimp only at h
  split at h
  · cases h
  · cases h
  · rename_i document parsed
    split at h
    · cases h
      exact .inl rfl
    · rename_i entries' value
      split at h
      · cases h
      · cases h
        rcases Yaml.Document.ofText_value parsed with none | ⟨node, same⟩
        · rw [value] at none
          cases none
        · exact .inr ⟨node, same.symm.trans value⟩
    · cases h

/-- No name comes twice in a settings file, neither at the top nor in a section. -/
theorem read_keyed {files : Files} {f : SettingsFile} {entries : Entries} (h : read files f = .ok entries) :
    entries.Keyed := by
  rcases read_entries h with rfl | ⟨node, value⟩
  · exact ⟨List.nodup_nil, fun name inner found => by cases found⟩
  · exact Yaml.Node.value_keyed value

end SettingsFile

/-! ### Environment files -/

namespace EnvFile

/-- The variables that a file sets in an environment. -/
def assignments (env : Environment) (cs : List Char) : List (String × String) :=
  (resolve env [] (readBindings (cs.length + 1) cs)).filterMap fun (name, value) => value.map (name, ·)

theorem resolve_distinct (env : Environment) (found bindings : List Binding) (distinct : (found.map (·.1)).Nodup) :
    ((resolve env found bindings).map (·.1)).Nodup := by
  induction bindings generalizing found with
  | nil => exact distinct
  | cons binding bindings ih =>
    obtain ⟨name, value⟩ := binding
    rw [resolve]
    refine ih _ ?_
    dsimp only
    split
    · rw [Environment.keys_replaced]
      exact distinct
    · rename_i new
      rw [← List.concat_eq_append, List.map_concat]
      refine List.Nodup.concat (fun member => new ?_) distinct
      obtain ⟨binding, among, same⟩ := List.mem_map.mp member
      exact List.any_eq_true.mpr ⟨binding, among, beq_iff_eq.mpr same⟩

theorem assignments_distinct (env : Environment) (cs : List Char) : ((assignments env cs).map (·.1)).Nodup := by
  have keys (list : List Binding) :
      ((list.filterMap fun (name, value) => value.map (name, ·)).map (·.1)).Sublist (list.map (·.1)) := by
    induction list with
    | nil => exact .refl _
    | cons binding list ih =>
      obtain ⟨name, value⟩ := binding
      cases value with
      | none => exact ih.cons name
      | some value => exact ih.cons_cons name
  exact (keys _).nodup (resolve_distinct env [] _ List.nodup_nil)

theorem provide_bindings {env : Environment} {list : List (String × String)} (distinct : (list.map (·.1)).Nodup) :
    (list.foldl (fun env entry => env.provide entry.1 entry.2) env).bindings =
      env.bindings ++ list.filter fun entry => (env.get? entry.1).isNone := by
  induction list generalizing env with
  | nil => simp
  | cons entry list ih =>
    obtain ⟨new, distinct⟩ := List.nodup_cons.mp distinct
    rw [List.foldl_cons, ih distinct, List.filter_cons, Environment.provide]
    cases found : env.get? entry.1 with
    | some value => simp
    | none =>
      have set : env.set entry.1 entry.2 = ⟨env.bindings ++ [entry]⟩ := by
        rw [Environment.set, found]
        rfl
      have kept : (list.filter fun other => (Environment.get? ⟨env.bindings ++ [entry]⟩ other.1).isNone) =
          list.filter fun other => (env.get? other.1).isNone := by
        refine List.filter_congr fun other member => ?_
        have apart : entry.1 ≠ other.1 := fun same => new (List.mem_map.mpr ⟨other, member, same.symm⟩)
        rw [Environment.get?_concat, if_neg apart]
        cases env.get? other.1 <;> rfl
      rw [Option.isSome_none, if_neg Bool.false_ne_true, set, kept]
      simp

theorem provide_eq (env : Environment) (cs : List Char) : (provide env cs).bindings =
    env.bindings ++ (assignments env cs).filter fun entry => (env.get? entry.1).isNone := by
  rw [← provide_bindings (assignments_distinct env cs), provide, assignments]
  rw [List.foldl_filterMap]
  congr 2
  funext env binding
  obtain ⟨name, value⟩ := binding
  cases value <;> rfl

/-- No two variables that settings look at differ in case only. -/
def SpelledAlike (bindings : List (String × String)) : Prop :=
  ∀ entry ∈ bindings, ∀ other ∈ bindings, Text.lower entry.1 = Text.lower other.1 →
    Environment.mark.toList <+: (Text.lower entry.1).toList → entry.1 = other.1

instance (bindings : List (String × String)) : Decidable (SpelledAlike bindings) :=
  inferInstanceAs (Decidable (∀ entry ∈ bindings, ∀ other ∈ bindings, _ → _ → _))

/-- What the environment has counts before what the file has. -/
theorem named?_provide {env : Environment} {cs : List Char} (alike : SpelledAlike (env.bindings ++ assignments env cs))
    {name : String} (marked : Environment.mark.toList <+: name.toList) :
    Environment.named? (provide env cs).bindings name =
      (Environment.named? env.bindings name <|> Environment.named? (assignments env cs) name) := by
  rw [provide_eq, Environment.named?_append]
  cases own : Environment.named? env.bindings name with
  | none =>
    have fresh : ∀ entry ∈ assignments env cs, Text.lower entry.1 = name → (env.get? entry.1).isNone = true := by
      intro entry _ spelled
      rw [Option.isNone_iff_eq_none, Environment.get?_eq_none]
      intro member
      obtain ⟨other, among, same⟩ := List.mem_map.mp member
      exact Environment.named?_eq_none.mp own other among (by rw [same, spelled])
    rw [Environment.named?_filter fresh]
    cases Environment.named? (assignments env cs) name <;> rfl
  | some value =>
    have known : ∃ entry ∈ env.bindings, Text.lower entry.1 = name := by
      by_contra none
      push Not at none
      cases own.symm.trans (Environment.named?_eq_none.mpr none)
    obtain ⟨entry, among, spelled⟩ := known
    have nothing :
        Environment.named? ((assignments env cs).filter fun entry => (env.get? entry.1).isNone) name = none := by
      refine Environment.named?_eq_none.mpr fun other member same => ?_
      obtain ⟨source, free⟩ := List.mem_filter.mp member
      have title := alike entry (List.mem_append_left _ among) other (List.mem_append_right _ source)
        (spelled.trans same.symm) (by rw [spelled]; exact marked)
      have missing := Environment.get?_eq_none.mp (Option.isNone_iff_eq_none.mp free)
      exact missing (List.mem_map.mpr ⟨entry, among, title⟩)
    rw [nothing]
    rfl

end EnvFile

end BrowserFlow
