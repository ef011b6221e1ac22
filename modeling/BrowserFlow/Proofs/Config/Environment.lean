import BrowserFlow.Config.Environment
import BrowserFlow.Proofs.Config.Settings
import BrowserFlow.Proofs.Text.Case

/-!
What the environment has for each setting, if its variables stand for single settings: the variable of its own name,
in whatever case the name is spelled.
-/

namespace BrowserFlow

namespace Environment

/-- The value of the last variable whose name is spelled so but for the case. -/
def named? (bindings : List (String × String)) (name : String) : Option String :=
  ((bindings.filter fun entry => Text.lower entry.1 == name).getLast?).map (·.2)

theorem named?_eq_none {bindings : List (String × String)} {name : String} :
    named? bindings name = none ↔ ∀ entry ∈ bindings, Text.lower entry.1 ≠ name := by
  rw [named?, Option.map_eq_none_iff, List.getLast?_eq_none_iff, List.filter_eq_nil_iff]
  simp only [beq_iff_eq, ne_eq]

theorem named?_append (bindings others : List (String × String)) (name : String) :
    named? (bindings ++ others) name = (named? others name <|> named? bindings name) := by
  rw [named?, List.filter_append, List.getLast?_append, named?, named?]
  cases (others.filter fun entry => Text.lower entry.1 == name).getLast? <;> rfl

theorem named?_concat (bindings : List (String × String)) (entry : String × String) (name : String) :
    named? (bindings ++ [entry]) name = if Text.lower entry.1 = name then some entry.2 else named? bindings name := by
  rw [named?_append]
  by_cases same : Text.lower entry.1 = name
  · rw [if_pos same, named?, List.filter_singleton, beq_iff_eq.mpr same]
    rfl
  · rw [if_neg same, named?, List.filter_singleton, beq_eq_false_iff_ne.mpr same]
    rfl

/-- Leaving out variables of other names changes nothing. -/
theorem named?_filter {bindings : List (String × String)} {name : String} {keep : String × String → Bool}
    (kept : ∀ entry ∈ bindings, Text.lower entry.1 = name → keep entry = true) :
    named? (bindings.filter keep) name = named? bindings name := by
  rw [named?, named?, List.filter_filter]
  congr 2
  refine List.filter_congr fun entry member => ?_
  by_cases spelled : Text.lower entry.1 = name
  · rw [kept entry member spelled, Bool.and_true]
  · rw [beq_eq_false_iff_ne.mpr spelled, Bool.false_and]

theorem get?_eq_none {env : Environment} {name : String} : env.get? name = none ↔ name ∉ env.bindings.map (·.1) :=
  Entries.find?_key_eq_none

theorem get?_concat (bindings : List (String × String)) (entry : String × String) (name : String) :
    get? ⟨bindings ++ [entry]⟩ name = (get? ⟨bindings⟩ name <|> if entry.1 = name then some entry.2 else none) := by
  rw [get?, List.find?_append, get?]
  cases bindings.find? fun entry => entry.1 == name with
  | some found => rfl
  | none =>
    by_cases same : entry.1 = name
    · simp [same]
    · simp [same]

/-- What stands under a name is replaced, and the names stay. -/
theorem keys_replaced {β : Type} (list : List (String × β)) (name : String) (b : β) :
    (list.map fun entry => if entry.1 == name then (name, b) else entry).map (·.1) = list.map (·.1) := by
  rw [List.map_map]
  refine List.map_congr_left fun entry _ => ?_
  by_cases same : entry.1 = name
  · simp [same]
  · simp [same]

theorem keys_set (env : Environment) (name value : String) : (env.set name value).bindings.map (·.1) =
    if (env.get? name).isSome then env.bindings.map (·.1) else env.bindings.map (·.1) ++ [name] := by
  unfold set
  split
  · exact keys_replaced _ name value
  · rw [List.map_append]
    rfl

theorem get?_cons (entry : String × String) (bindings : List (String × String)) (key : String) :
    get? ⟨entry :: bindings⟩ key = if entry.1 = key then some entry.2 else get? ⟨bindings⟩ key := by
  rw [get?, get?, List.find?_cons]
  by_cases same : entry.1 = key
  · rw [if_pos same, beq_iff_eq.mpr same]
    rfl
  · rw [if_neg same, beq_eq_false_iff_ne.mpr same]

theorem get?_replaced (bindings : List (String × String)) (name value key : String) :
    get? ⟨bindings.map fun entry => if entry.1 == name then (name, value) else entry⟩ key =
      if name = key then (get? ⟨bindings⟩ key).map fun _ => value else get? ⟨bindings⟩ key := by
  induction bindings with
  | nil => exact (ite_self none).symm
  | cons entry bindings ih =>
    rw [List.map_cons, get?_cons, get?_cons, ih]
    by_cases here : entry.1 = name
    · simp only [here, beq_self_eq_true, if_true]
      by_cases same : name = key
      · simp only [same, if_true, Option.map_some]
      · simp only [same, if_false]
    · simp only [beq_eq_false_iff_ne.mpr here, Bool.false_eq_true, if_false]
      by_cases found : entry.1 = key
      · have other : name ≠ key := fun same => here (found.trans same.symm)
        simp only [found, if_true, other, if_false]
      · simp only [found, if_false]

theorem get?_set (env : Environment) (name value key : String) :
    (env.set name value).get? key = if name = key then some value else env.get? key := by
  unfold set
  split
  · rename_i there
    rw [get?_replaced]
    by_cases same : name = key
    · obtain ⟨w, here⟩ := Option.isSome_iff_exists.mp there
      rw [if_pos same, if_pos same, ← same, here]
      rfl
    · rw [if_neg same, if_neg same]
  · rename_i missing
    rw [get?_concat]
    by_cases same : name = key
    · rw [if_pos same, if_pos same, ← same, Option.not_isSome_iff_eq_none.mp missing]
      rfl
    · rw [if_neg same, if_neg same]
      cases env.get? key <;> rfl

theorem lowered_concat (bindings : List (String × String)) (entry : String × String) :
    lowered ⟨bindings ++ [entry]⟩ = (lowered ⟨bindings⟩).set (Text.lower entry.1) entry.2 := by
  rw [lowered, List.foldl_concat]
  rfl

theorem get?_lowered (bindings : List (String × String)) (name : String) :
    (lowered ⟨bindings⟩).get? name = named? bindings name := by
  induction bindings using List.reverseRecOn with
  | nil => rfl
  | append_singleton bindings entry ih => rw [lowered_concat, get?_set, named?_concat, ih]

theorem lowered_distinct (bindings : List (String × String)) : ((lowered ⟨bindings⟩).bindings.map (·.1)).Nodup := by
  induction bindings using List.reverseRecOn with
  | nil => exact List.nodup_nil
  | append_singleton bindings entry ih =>
    rw [lowered_concat, keys_set]
    split
    · exact ih
    · rename_i missing
      rw [← List.concat_eq_append]
      exact List.Nodup.concat (get?_eq_none.mp (Option.not_isSome_iff_eq_none.mp missing)) ih

/-- Every name is the lower case of a name. -/
theorem mem_lowered (bindings : List (String × String)) : ∀ title ∈ (lowered ⟨bindings⟩).bindings.map (·.1),
    ∃ entry ∈ bindings, title = Text.lower entry.1 := by
  induction bindings using List.reverseRecOn with
  | nil => exact fun title member => absurd member List.not_mem_nil
  | append_singleton bindings entry ih =>
    intro title member
    rw [lowered_concat, keys_set] at member
    have earlier (old : title ∈ (lowered ⟨bindings⟩).bindings.map (·.1)) :
        ∃ other ∈ bindings ++ [entry], title = Text.lower other.1 := by
      obtain ⟨other, among, same⟩ := ih title old
      exact ⟨other, List.mem_append_left _ among, same⟩
    split at member
    · exact earlier member
    · rcases List.mem_append.mp member with old | new
      · exact earlier old
      · exact ⟨entry, by simp, List.mem_singleton.mp new⟩

/-! ### Variables of single settings -/

theorem nameParts_plain {cs : List Char} (plain : ¬['_', '_'] <:+: cs) : nameParts cs = [cs] := by
  induction cs with
  | nil => rfl
  | cons c cs ih =>
    have tail := ih fun inside => plain (inside.trans (List.suffix_cons c cs).isInfix)
    rw [nameParts, tail]
    rintro rest rfl rfl
    exact plain ⟨[], rest, rfl⟩

/-- The names of the variables of a section begin like this. -/
def beginning (section' : String) : List Char := (mark ++ section' ++ "__").toList

/-- The variable stands neither for a whole section nor for a part of what a section has. -/
def IsIndividual (title : String) : Prop := ∀ name ∈ Settings.names, Text.lower title ≠ mark ++ name ∧
  (beginning name <+: (Text.lower title).toList →
    ¬['_', '_'] <:+: (Text.lower title).toList.drop (beginning name).length)

instance (title : String) : Decidable (IsIndividual title) := inferInstanceAs (Decidable (∀ name ∈ Settings.names, _))

/-- What a variable says about a section. -/
def single? (section' : String) (entry : String × String) : Option (String × Value) :=
  if Text.startsWith entry.1.toList (beginning section') then
    some (String.ofList (entry.1.toList.drop (beginning section').length), .str entry.2)
  else none

theorem single?_eq {section' : String} {entry : String × String} {key : String} {v : Value} :
    single? section' entry = some (key, v) ↔ entry.1 = mark ++ section' ++ "__" ++ key ∧ v = .str entry.2 := by
  unfold single?
  rw [Text.startsWith]
  constructor
  · intro h
    split at h
    · rename_i starts
      obtain ⟨rest, same⟩ := List.isPrefixOf_iff_prefix.mp starts
      cases h
      rw [← same, List.drop_left]
      refine ⟨?_, rfl⟩
      rw [← String.toList_inj, ← same, String.toList_append, String.toList_ofList]
      rfl
    · cases h
  · rintro ⟨title, rfl⟩
    have letters : entry.1.toList = beginning section' ++ key.toList := by
      rw [title, String.toList_append]
      rfl
    rw [letters, if_pos (List.isPrefixOf_iff_prefix.mpr ⟨_, rfl⟩), List.drop_left, String.ofList_toList]

theorem single?_distinct {bindings : List (String × String)} (distinct : (bindings.map (·.1)).Nodup)
    (section' : String) :
    Entries.Distinct (bindings.filterMap (single? section')) := by
  induction bindings with
  | nil => exact List.nodup_nil
  | cons entry bindings ih =>
    obtain ⟨new, distinct⟩ := List.nodup_cons.mp distinct
    rw [List.filterMap_cons]
    split
    · exact ih distinct
    · rename_i here found
      refine List.nodup_cons.mpr ⟨fun member => ?_, ih distinct⟩
      obtain ⟨other, among, same⟩ := List.mem_map.mp member
      obtain ⟨entry', source, read⟩ := List.mem_filterMap.mp among
      have title := (single?_eq.mp (show single? section' entry = some (here.1, here.2) from found)).1
      have title' := (single?_eq.mp (show single? section' entry' = some (other.1, other.2) from read)).1
      rw [same, ← title] at title'
      exact new (List.mem_map.mpr ⟨entry', source, title'⟩)

section Singles

variable {env : Environment} (distinct : (env.bindings.map (·.1)).Nodup) (section' : String)

include distinct

/-- Every variable of a section is one entry. -/
theorem singles_eq (flat : ∀ entry ∈ env.bindings, beginning section' <+: entry.1.toList →
    ¬['_', '_'] <:+: entry.1.toList.drop (beginning section').length) :
    env.singles section' = env.bindings.filterMap (single? section') := by
  have puts (bindings : List (String × String)) (within : ∀ entry ∈ bindings, entry ∈ env.bindings)
      (entries : Entries) :
      (bindings.foldl (fun entries entry =>
        if Text.startsWith entry.1.toList (beginning section') then
          Entries.putText entries entry.2
            ((nameParts (entry.1.toList.drop (beginning section').length)).map String.ofList)
        else entries) entries) =
      (bindings.filterMap (single? section')).foldl (fun entries pair => entries.put pair.1 pair.2) entries := by
    induction bindings generalizing entries with
    | nil => rfl
    | cons entry bindings ih =>
      obtain ⟨here, rest⟩ := List.forall_mem_cons.mp within
      obtain ⟨title, value⟩ := entry
      rw [List.foldl_cons, List.filterMap_cons, single?, ih rest]
      dsimp only
      by_cases starts : Text.startsWith title.toList (beginning section') = true
      · have plain := flat _ here (List.isPrefixOf_iff_prefix.mp starts)
        rw [if_pos starts, if_pos starts, nameParts_plain plain]
        rfl
      · rw [if_neg starts, if_neg starts]
  have collected := Entries.collect_distinct (single?_distinct distinct section')
  rw [Entries.collect] at collected
  exact (puts env.bindings (fun _ member => member) []).trans collected

theorem get?_singles (key : String) : Entries.get? (env.bindings.filterMap (single? section')) key =
    (env.get? (mark ++ section' ++ "__" ++ key)).map .str := by
  cases found : env.get? (mark ++ section' ++ "__" ++ key) with
  | none =>
    refine Entries.get?_eq_none.mpr fun member => ?_
    obtain ⟨other, among, rfl⟩ := List.mem_map.mp member
    obtain ⟨entry, source, read⟩ := List.mem_filterMap.mp among
    have title := (single?_eq.mp (show single? section' entry = some (other.1, other.2) from read)).1
    exact get?_eq_none.mp found (List.mem_map.mpr ⟨entry, source, title⟩)
  | some value =>
    obtain ⟨entry, find, rfl⟩ := Option.map_eq_some_iff.mp found
    have title : entry.1 = mark ++ section' ++ "__" ++ key := by simpa using List.find?_some find
    have read : single? section' entry = some (key, .str entry.2) := single?_eq.mpr ⟨title, rfl⟩
    have member := List.mem_filterMap.mpr ⟨entry, List.mem_of_find?_eq_some find, read⟩
    exact Entries.get?_of_mem (single?_distinct distinct section') member

end Singles

/-! ### The sections of the environment -/

theorem names_ascii : ∀ part ∈ Settings.sections, ∀ name ∈ part.2, ∀ c ∈ name.toList, c.toNat < 0x80 := by
  have all : (Settings.sections.all fun part =>
      part.2.all fun name => name.toList.all fun c => c.toNat < 0x80) = true := by
    decide +kernel
  simpa only [List.all_eq_true, decide_eq_true_eq] using all

/-- In lower case no key but that of a setting is spelled like it. -/
theorem spelled_eq {names : List String} (ascii : ∀ name ∈ names, ∀ c ∈ name.toList, c.toNat < 0x80) {entries : Entries}
    (distinct : entries.Distinct) (lower : ∀ entry ∈ entries, ∃ s, ∀ c ∈ entry.1.toList, c ∈ (Text.lower s).toList) :
    spelled names entries = entries := by
  have same : (entries.map fun entry =>
      ((names.find? fun name => name == Text.lower entry.1).getD entry.1, entry.2)) = entries := by
    refine (List.map_congr_left fun entry member => ?_).trans (List.map_id entries)
    obtain ⟨key, v⟩ := entry
    dsimp only
    cases found : names.find? fun name => name == Text.lower key with
    | none => rfl
    | some name =>
      obtain ⟨s, within⟩ := lower _ member
      have spelled : name = Text.lower key := by simpa using List.find?_some found
      have own := Text.eq_of_lower within (ascii name (List.mem_of_find?_eq_some found))
        (by rw [String.ofList_toList, spelled])
      rw [String.ofList_toList] at own
      rw [Option.getD_some, ← own]
      rfl
  exact (congrArg Entries.collect same).trans (Entries.collect_distinct distinct)

/-- What the environment has for a section whose variables stand for single settings. -/
def part? (env : Environment) (section' : String) : Option Value :=
  let singles : Entries := env.bindings.filterMap (single? section')
  if singles.isEmpty then none else some (.dict singles)

theorem mapM_ok {α β : Type} {f : α → Except Fault β} {g : α → β} {list : List α} (all : ∀ a ∈ list, f a = .ok (g a)) :
    list.mapM f = .ok (list.map g) := by
  induction list with
  | nil => rfl
  | cons a list ih =>
    obtain ⟨head, tail⟩ := List.forall_mem_cons.mp all
    rw [List.mapM_cons, head, ih tail]
    rfl

theorem get?_parts {β : Type} (g : String → Option Value) (list : List (String × β)) (name : String) :
    Entries.get? ((list.map fun part => (part.1, g part.1)).filterMap fun (name, v) => v.map (name, ·)) name =
      if name ∈ list.map (·.1) then g name else none := by
  induction list with
  | nil => rfl
  | cons part list ih =>
    have later (other : part.1 ≠ name) : (name ∈ (part :: list).map (·.1)) ↔ name ∈ list.map (·.1) := by
      simp [other.symm]
    rw [List.map_cons, List.filterMap_cons]
    by_cases same : part.1 = name
    · subst same
      rw [if_pos (by simp)]
      cases found : g part.1 with
      | none =>
        simp only [Option.map_none]
        rw [ih, found]
        split <;> rfl
      | some v =>
        simp only [Option.map_some]
        rw [Entries.get?_cons, if_pos rfl]
    · simp only [later same]
      rw [← ih]
      cases g part.1 with
      | none => rfl
      | some v =>
        simp only [Option.map_some]
        rw [Entries.get?_cons, if_neg same]

section Settings

variable {env : Environment} (individual : ∀ entry ∈ env.bindings, IsIndividual entry.1)

include individual

theorem section?_eq {section' : String} {names : List String} (known : (section', names) ∈ Settings.sections) :
    env.lowered.section? section' names = .ok (part? env.lowered section') := by
  have among : section' ∈ Settings.names := List.mem_map.mpr ⟨_, known, rfl⟩
  have distinct := lowered_distinct env.bindings
  have titles := mem_lowered env.bindings
  have whole : env.lowered.get? (mark ++ section') = none := by
    refine get?_eq_none.mpr fun member => ?_
    obtain ⟨entry, source, same⟩ := titles _ member
    exact (individual entry source section' among).1 same.symm
  have flat : ∀ entry ∈ env.lowered.bindings, beginning section' <+: entry.1.toList →
      ¬['_', '_'] <:+: entry.1.toList.drop (beginning section').length := by
    intro entry member
    obtain ⟨source, there, same⟩ := titles _ (List.mem_map_of_mem member)
    rw [same]
    exact (individual source there section' among).2
  have spelled := spelled_eq (names_ascii _ known) (single?_distinct distinct section') (by
    intro entry member
    obtain ⟨source, there, read⟩ := List.mem_filterMap.mp member
    obtain ⟨original, _, same⟩ := titles _ (List.mem_map_of_mem there)
    refine ⟨original.1, fun c letter => ?_⟩
    rw [← same, (single?_eq.mp (show single? section' source = some (entry.1, entry.2) from read)).1,
      String.toList_append]
    exact List.mem_append_right _ letter)
  rw [section?, singles_eq distinct section' flat, whole, spelled, part?]

/-- What the environment has: its sections and the one setting that is in none. -/
def found (env : Environment) : Entries :=
  ((Settings.sections.map fun part => (part.1, part? env part.1)).filterMap fun (name, v) => v.map (name, ·)) ++
    match env.get? (mark ++ "debug") with
    | some text => [("debug", .str text)]
    | none => []

theorem settings_eq : env.settings = .ok (found env.lowered) := by
  have each : ∀ part ∈ Settings.sections, (do
      return (part.1, ← env.lowered.section? part.1 part.2) : Except Fault (String × Option Value)) =
        .ok (part.1, part? env.lowered part.1) := by
    intro part known
    rw [section?_eq individual known]
    rfl
  rw [settings]
  dsimp only
  rw [mapM_ok each, found]
  cases env.lowered.get? (mark ++ "debug") with
  | none => exact congrArg Except.ok (List.append_nil _).symm
  | some text => rfl

omit individual in
theorem get?_found {name : String} (known : name ∈ Settings.names) :
    Entries.get? (found env) name = part? env name := by
  have last : Entries.get? (match env.get? (mark ++ "debug") with
      | some text => [("debug", .str text)]
      | none => []) name = none := by
    split
    · rw [Entries.get?_cons, if_neg (by rintro rfl; exact absurd known (by decide))]
      rfl
    · rfl
  rw [found, Entries.get?_append, get?_parts, ← Settings.names, if_pos known, last]
  cases part? env name <;> rfl

omit individual in
theorem inner_found {name : String} (known : name ∈ Settings.names) :
    Entries.inner (found env) name = env.bindings.filterMap (single? name) := by
  rw [Entries.inner, get?_found known, part?]
  split
  · rename_i empty
    exact (List.isEmpty_iff.mp empty).symm
  · rfl

omit individual in
theorem isSection_found {name : String} (known : name ∈ Settings.names) :
    Entries.IsSection (found env) name := by
  intro v there
  rw [get?_found known, part?] at there
  split at there
  · cases there
  · cases there
    exact ⟨_, rfl⟩

omit individual in
theorem get?_found_debug : Entries.get? (found env) "debug" = (env.get? (mark ++ "debug")).map .str := by
  rw [found, Entries.get?_append, get?_parts, ← Settings.names, if_neg (by decide)]
  cases env.get? (mark ++ "debug") with
  | none => rfl
  | some text => rfl

end Settings

/-- The name of the variable for a path of keys. -/
def title (path : List String) : String := mark ++ "__".intercalate path

theorem at?_found (bindings : List (String × String)) {f : Setting} (known : f ∈ Setting.all) :
    Entries.at? (found (lowered ⟨bindings⟩)) f.path = (named? bindings (title f.path)).map .str := by
  rcases Setting.path_cases f known with path | ⟨name, among, key, path⟩
  · rw [path, Entries.at?_key, get?_found_debug, get?_lowered]
    rfl
  · rw [path, Entries.at?_inner, inner_found among, get?_singles (lowered_distinct bindings), get?_lowered]
    have joined : "__".intercalate [name, key] = name ++ "__" ++ key := rfl
    rw [title, joined, String.append_assoc, String.append_assoc, String.append_assoc]

end Environment

end BrowserFlow
