import BrowserFlow.Proofs.Record.Listing
import BrowserFlow.Proofs.Time.Timestamp

/-!
Dates and times of any offset as script headers keep them. What is read back is the same instant to the millisecond, it
has the same text again, and instants keep their order, so that scripts are listed in the order of their creation.
-/

namespace BrowserFlow

/-- A date and a time of day in microseconds, and how many minutes they are ahead of universal time; without an offset
    they are taken as universal time. -/
structure DateTime where
  date : Calendar.Date
  timeOfDay : Nat
  offset : Option Int
  valid : date.isValid = true
  withinDay : timeOfDay < 86400000000
  lessThanDay : ∀ minutes ∈ offset, -1440 < minutes ∧ minutes < 1440

def DateTime.instant (t : DateTime) : Instant :=
  ⟨(Instant.ofDate t.date t.timeOfDay).micros - 60000000 * t.offset.getD 0⟩

theorem DateTime.instant_universal {t : DateTime} (universal : t.offset.getD 0 = 0) :
    t.instant.date = t.date ∧ t.instant.timeOfDay = t.timeOfDay := by
  have within := t.withinDay
  have micros : t.instant.micros = ((t.date.number : Int) - Instant.epochDay) * Instant.microsPerDay + t.timeOfDay := by
    rw [instant, universal]
    exact Int.sub_zero _
  constructor
  · have day : t.instant.micros / Instant.microsPerDay + Instant.epochDay = t.date.number := by
      rw [micros, Instant.microsPerDay]
      omega
    rw [Instant.date, day, Int.toNat_natCast, Calendar.Date.ofNumber_number t.valid]
  · rw [Instant.timeOfDay, micros, Instant.microsPerDay]
    omega

namespace Instant

/-- The year has four digits. -/
def IsTimely (t : Instant) : Prop := 1000 ≤ t.date.year ∧ t.date.year ≤ 9999

instance (t : Instant) : Decidable t.IsTimely := inferInstanceAs (Decidable (1000 ≤ t.date.year ∧ t.date.year ≤ 9999))

theorem headerText_trimmed (t : Instant) : Text.trim t.headerText.toList = t.headerText.toList :=
  Text.trimmed_of_visible t.headerText_visible

theorem date_toMillisecond (t : Instant) : t.toMillisecond.date = t.date := by
  have day : (t.micros - t.micros % 1000) / microsPerDay = t.micros / microsPerDay := by
    rw [microsPerDay]
    omega
  rw [date, toMillisecond, day, date]

theorem timeOfDay_toMillisecond (t : Instant) : t.toMillisecond.timeOfDay = t.timeOfDay - t.timeOfDay % 1000 := by
  simp only [timeOfDay, toMillisecond, microsPerDay]
  omega

theorem headerText_toMillisecond (t : Instant) : t.toMillisecond.headerText = t.headerText := by
  have clock := t.timeOfDay_toMillisecond
  have hour : t.toMillisecond.hour = t.hour := by
    rw [Instant.hour, clock, Instant.hour]
    omega
  have minute : t.toMillisecond.minute = t.minute := by
    rw [Instant.minute, clock, Instant.minute]
    omega
  have second : t.toMillisecond.second = t.second := by
    rw [Instant.second, clock, Instant.second]
    omega
  have ms : t.toMillisecond.microsecond / 1000 = t.microsecond / 1000 := by
    rw [microsecond, clock, microsecond]
    omega
  simp only [headerText, monthToSecond, date_toMillisecond, hour, minute, second, ms]

theorem toMillisecond_le {t u : Instant} (order : t.micros ≤ u.micros) :
    t.toMillisecond.micros ≤ u.toMillisecond.micros := by
  simp only [toMillisecond]
  omega

theorem IsTimely.read {t : Instant} (timely : t.IsTimely) :
    Script.readTimestamp t.headerText.toList = .ok t.toMillisecond :=
  Script.readTimestamp_headerText timely.1 timely.2 t.headerText_trimmed

end Instant

namespace Shelf

variable {s : ScriptStore} {files : Files} {kept : List Recording} {base : List String} {m : ScriptStore.Scripts}

/-- Every recording is listed, each once, and none after one that was created in an earlier millisecond. -/
theorem list_ordered (shelf : Shelf s files kept base m)
    (legible : ∀ x ∈ kept, x.Legible ∧ 1000 ≤ x.createdAt.date.year) : ∃ ordered : List Recording,
    ordered.Perm kept ∧ Recorder.list s files = .ok (ordered.map Recording.summary) ∧
      ordered.Pairwise fun x y => y.createdAt.toMillisecond.micros ≤ x.createdAt.toMillisecond.micros := by
  obtain ⟨entries, listed, same, sorted⟩ := shelf.list legible
  have paired : List.Forall₂ (fun entry x => entry = Recording.summary x) (kept.map Recording.summary) kept :=
    List.forall₂_map_left_iff.mpr (List.forall₂_same.mpr fun _ _ => rfl)
  obtain ⟨ordered, inOrder, perm⟩ := List.perm_comp_forall₂ same paired
  obtain rfl := List.forall₂_eq_eq_eq ▸ List.forall₂_map_right_iff.mpr inOrder
  exact ⟨ordered, perm, listed, List.pairwise_map.mp sorted⟩

end Shelf

/-- A date and time whose year in universal time has four digits is read back as the same instant without what is
    below a millisecond, which has the same text. Instants keep their order, so recordings that are sorted by the times
    that are read of them, and so those of a store as they are listed, come in the order of the milliseconds in which
    they were created. -/
theorem timestamps_read_back :
    (∀ t : DateTime, t.instant.IsTimely →
      Script.readTimestamp t.instant.headerText.toList = .ok t.instant.toMillisecond ∧
      t.instant.toMillisecond.headerText = t.instant.headerText ∧
      (t.offset.getD 0 = 0 → t.instant.date = t.date ∧ t.instant.timeOfDay = t.timeOfDay)) ∧
    (∀ t u : DateTime, t.instant.IsTimely → u.instant.IsTimely → t.instant.micros ≤ u.instant.micros → ∃ v w,
      Script.readTimestamp t.instant.headerText.toList = .ok v ∧
      Script.readTimestamp u.instant.headerText.toList = .ok w ∧ v.micros ≤ w.micros) ∧
    (∀ (kept : List Recording) (read : Recording → Instant),
      (∀ x ∈ kept, x.createdAt.IsTimely ∧ Script.readTimestamp x.createdAt.headerText.toList = .ok (read x)) →
      (kept.mergeSort fun x y => (read y).micros ≤ (read x).micros).Pairwise
        fun x y => y.createdAt.toMillisecond.micros ≤ x.createdAt.toMillisecond.micros) ∧
    ∀ {s : ScriptStore} {files : Files} {kept : List Recording} {base : List String} {m : ScriptStore.Scripts},
      Shelf s files kept base m → (∀ x ∈ kept, x.Legible ∧ 1000 ≤ x.createdAt.date.year) →
      ∃ ordered : List Recording, ordered.Perm kept ∧
        Recorder.list s files = .ok (ordered.map Recording.summary) ∧
        ordered.Pairwise fun x y => y.createdAt.toMillisecond.micros ≤ x.createdAt.toMillisecond.micros := by
  refine ⟨?_, ?_, ?_, Shelf.list_ordered⟩
  · intro t timely
    exact ⟨timely.read, t.instant.headerText_toMillisecond, DateTime.instant_universal⟩
  · intro t u first second order
    exact ⟨_, _, first.read, second.read, Instant.toMillisecond_le order⟩
  · intro kept read each
    have sort := List.mergeSort_perm kept fun x y => decide ((read y).micros ≤ (read x).micros)
    have created {x : Recording} (member : x ∈ kept.mergeSort fun x y => decide ((read y).micros ≤ (read x).micros)) :
        read x = x.createdAt.toMillisecond := by
      obtain ⟨timely, told⟩ := each x (sort.mem_iff.mp member)
      exact Except.ok.inj (told.symm.trans timely.read)
    refine (Recorder.newest_first (fun x => (read x).micros) kept).imp_of_mem fun first second order => ?_
    rw [← created first, ← created second]
    exact order

/-- An offset that carries the last minutes of a leap day into March, a second time that is in the millisecond after, and
    a store with a recording of the first. -/
theorem timestamps_read_back_leap_day :
    let t : DateTime := ⟨⟨2024, 2, 29⟩, 84615999999, some (-60), by decide, by decide, by simp⟩
    let u : DateTime := ⟨⟨2024, 3, 1⟩, 21616000001, some 330, by decide, by decide, by simp⟩
    let x : Recording := { id := "id-1", name := .str "one", createdAt := t.instant, updatedAt := t.instant }
    let y : Recording := { id := "id-2", name := .str "two", createdAt := u.instant, updatedAt := u.instant }
    let s : ScriptStore := ⟨⟨["recordings"]⟩, ".ts", none⟩
    t.instant.IsTimely ∧ u.instant.IsTimely ∧ t.instant.micros ≤ u.instant.micros ∧
    t.instant.headerText = "2024-03-01T00:30:15.999Z" ∧ u.instant.headerText = "2024-03-01T00:30:16.000Z" ∧
    Script.readTimestamp t.instant.headerText.toList = .ok t.instant.toMillisecond ∧
    (∃ v w, Script.readTimestamp t.instant.headerText.toList = .ok v ∧
      Script.readTimestamp u.instant.headerText.toList = .ok w ∧ v.micros ≤ w.micros) ∧
    ([x, y].mergeSort fun x y => y.createdAt.toMillisecond.micros ≤ x.createdAt.toMillisecond.micros).Pairwise
      (fun x y => y.createdAt.toMillisecond.micros ≤ x.createdAt.toMillisecond.micros) ∧
    ∃ (files : Files) (base : List String) (m : ScriptStore.Scripts),
      Shelf s files [x] base m ∧ Recorder.list s files = .ok [x.summary] := by
  intro t u x y s
  have first : t.instant.IsTimely := by decide +kernel
  have second : u.instant.IsTimely := by decide +kernel
  have order : t.instant.micros ≤ u.instant.micros := by decide
  obtain ⟨back, ordered, sorted, listed⟩ := timestamps_read_back
  have written (text : String) : ((ScriptStore.write ⟨⟨["recordings"]⟩, ".ts", none⟩ "id-1" text).outcome
      ⟨[(["recordings"], .directory)]⟩).1 = .ok () := by rfl
  obtain ⟨script, rendered⟩ : ∃ script, Script.ofRecording x = .ok script :=
    Script.render_total ⟨⟨_, rfl⟩, Value.textual_none⟩ (List.forall_mem_nil _) (List.forall_mem_nil _)
  have none {motive : Recording → Prop} : ∀ x ∈ ([] : List Recording), motive x := List.forall_mem_nil motive
  obtain ⟨base, holds⟩ := @ScriptStore.holds_empty s ⟨[(["recordings"], .directory)]⟩ rfl
  have empty : Shelf s _ [] base ∅ :=
    ⟨holds, none, fun id there => absurd there Finmap.notMem_empty, List.nodup_nil, none, none, none⟩
  have shelf : Shelf s _ [x] base _ := empty.written rendered ⟨.numbered, 0, by decide⟩ ⟨rfl, by simp [x], by simp [x]⟩
    (Prod.ext (written script) rfl)
  have legible : ∀ z ∈ [x], z.Legible ∧ 1000 ≤ z.createdAt.date.year := by
    rw [List.forall_mem_singleton]
    exact ⟨⟨by decide, by decide, by simp [x], by simp [x], first.2⟩, first.1⟩
  obtain ⟨inOrder, same, told, _⟩ := listed shelf legible
  rw [List.perm_singleton.mp same] at told
  refine ⟨first, second, order, by decide +kernel, by decide +kernel, (back t first).1, ordered t u first second order, ?_,
    _, base, _, shelf, told⟩
  apply sorted [x, y] fun z => z.createdAt.toMillisecond
  rw [List.forall_mem_cons, List.forall_mem_singleton]
  exact ⟨⟨first, (back t first).1⟩, second, (back u second).1⟩

end BrowserFlow
