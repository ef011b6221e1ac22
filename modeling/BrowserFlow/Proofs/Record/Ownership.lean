import BrowserFlow.Proofs.Record.Journal

/-!
Whose recording a start or a stop takes away. A start that fails and a stop at its end leave the recorder idle, and
neither looks at which recording is current by then. A recording is safe from the others just when no start and no stop
was under way when it was begun.
-/

namespace BrowserFlow.Recorder

def Pending.startsFor (id : String) (p : Pending) : Bool := p.starts? == some id

def Note.isStarted (id : String) : Note → Bool
  | .started other => other == id
  | _ => false

def Note.isAbandoned (id : String) : Note → Bool
  | .abandoned other => other == id
  | _ => false

/-- A start is under way, has succeeded or has failed, and only one of these. -/
def startsOf (id : String) (waiting : List Pending) (notes : List Note) : Nat :=
  waiting.countP (·.startsFor id) + notes.countP (·.isStarted id) + notes.countP (·.isAbandoned id)

theorem Deed.startsOf_le {r : Recorder} {w : World} {answered : Option Pending} {note : Option Note} {t : Transition}
    (deed : Deed r w answered note t) {id : String} (old : id ≠ w.ids.id w.idsUsed) :
    startsOf id t.2.2.waiting note.toList ≤ startsOf id answered.toList [] := by
  have other {p : Pending} (none : p.starts? = none) : p.startsFor id = false := by simp [Pending.startsFor, none]
  have same {p : Pending} {own : String} (starts : p.starts? = some own) : p.startsFor id = (own == id) := by
    simp [Pending.startsFor, starts]
  cases deed with
  | @other answered r' after step before current recordings store passes next unreported =>
    have none : step.waiting.countP (·.startsFor id) = 0 :=
      List.countP_eq_zero.mpr fun p member => by simp [other (next p member).1]
    simp [startsOf, none]
  | begun name description idle =>
    have apart : (w.ids.id w.idsUsed == id) = false := beq_eq_false_iff_ne.mpr (Ne.symm old)
    simp [startsOf, Step.waiting, Pending.startsFor, Pending.starts?, Note.isStarted, Note.isAbandoned, apart]
  | starting before after site => simp [startsOf, Step.waiting, same before, same after, List.countP_cons]
  | started before =>
    simp [startsOf, Step.waiting, same before, List.countP_cons, Note.isStarted, Note.isAbandoned]
  | abandoned before fault =>
    simp [startsOf, Step.waiting, same before, List.countP_cons, Note.isStarted, Note.isAbandoned]
  | appended before current count => simp [startsOf, Step.waiting, Note.isStarted, Note.isAbandoned]
  | unwritten current fault => simp [startsOf, Step.waiting]
  | persisted current rendered written =>
    simp [startsOf, Step.waiting, Pending.startsFor, Pending.starts?, Note.isStarted, Note.isAbandoned]
  | stopping before after => simp [startsOf, Step.waiting, other (Pending.starts?_of_stops after)]
  | interrupted before fault => simp [startsOf, Step.waiting]
  | stopped before => simp [startsOf, Step.waiting, Note.isStarted, Note.isAbandoned]

namespace Course

/-- The recording is current, its own start has failed, or a stop that has written it is at its end. -/
def Owned (id : String) (notes : List Note) (c : Course) : Prop :=
  c.recorder.current = some id ∨ .abandoned id ∈ notes ∧ .started id ∉ notes ∨
    ∃ actions, [.persisted id actions, .stopped id].Sublist notes

/-- The recording is current, and all starts and stops that wait are about it. -/
structure Alone (id : String) (c : Course) : Prop where
  current : c.recorder.current = some id
  own : ∀ p ∈ c.waiting, ∀ other, p.starts? = some other ∨ p.stops? = some other → other = id

def Finished (id : String) (notes : List Note) : Prop :=
  .abandoned id ∈ notes ∨ ∃ actions, [.persisted id actions, .stopped id].Sublist notes

variable {c d c' : Course} {id : String} {notes more : List Note} {note : Option Note}

theorem Finished.append (finished : Finished id notes) (more : List Note) : Finished id (notes ++ more) := by
  rcases finished with abandoned | ⟨actions, sublist⟩
  · exact .inl (List.mem_append_left _ abandoned)
  · exact .inr ⟨actions, sublist.trans (List.sublist_append_left _ _)⟩

theorem Alone.kept (consistent : Consistent c.recorder c.world) (alone : Alone id c) (noted : Noted c note c')
    (current : c'.recorder.current = some id) : Alone id c' := by
  refine ⟨current, fun p waits other about => ?_⟩
  rcases about with starts | stops
  · rcases noted.starts consistent waits starts with ⟨q, there, starts⟩ | rfl
    · exact alone.own q there other (.inl starts)
    · cases (noted.of_begun consistent).1.symm.trans alone.current
  · rcases noted.stops consistent waits stops with ⟨q, there, stops⟩ | ⟨actions, rfl⟩
    · exact alone.own q there other (.inr stops)
    · exact Option.some.inj ((noted.of_persisted consistent).1.symm.trans alone.current)

theorem Alone.turn (consistent : Consistent c.recorder c.world) (alone : Alone id c) (written : Written notes c)
    (noted : Noted c note c') : Alone id c' ∨ Finished id (notes ++ note.toList) := by
  have current := noted.current consistent
  cases note with
  | none => exact .inl (alone.kept consistent noted (current.trans alone.current))
  | some n => cases n with
    | begun other => cases (noted.of_begun consistent).1.symm.trans alone.current
    | abandoned other =>
      obtain ⟨p, waits, starts⟩ := noted.of_abandoned consistent
      cases alone.own p waits other (.inl starts)
      exact .inr (.inl (List.mem_append_right _ (List.mem_singleton_self _)))
    | stopped other =>
      obtain ⟨p, waits, stops⟩ := noted.of_stopped consistent
      cases alone.own p waits other (.inr stops)
      obtain ⟨actions, before⟩ := written p waits _ stops
      exact .inr (.inr ⟨actions, (List.singleton_sublist.mpr before).append (.refl _)⟩)
    | started | appended | persisted | disturbed =>
      exact .inl (alone.kept consistent noted (current.trans alone.current))

theorem Log.alone (consistent : Consistent c.recorder c.world) (alone : Alone id c) (written : Written [] c)
    (log : Log c notes d) : Alone id d ∨ Finished id notes := by
  induction log with
  | start => exact .inl alone
  | @move notes d e note log noted ih =>
    rcases ih with alone | finished
    · exact alone.turn (log.consistent consistent) (log.written consistent written) noted
    · exact .inr (finished.append _)

theorem Log.startsOf_le (consistent : Consistent c.recorder c.world) {x : Recording}
    (found : c.recorder.recording? id = some x) (log : Log c notes d) :
    startsOf id d.waiting notes ≤ startsOf id c.waiting [] := by
  induction log with
  | start => exact Nat.le_refl _
  | @move notes d e note log noted ih =>
    have consistent := log.consistent consistent
    obtain ⟨y, found, _⟩ := Course.grows log.moves id x found
    have old : id ≠ d.world.ids.id d.world.idsUsed := by
      rw [← recording?_id found]
      exact consistent.unclaimed y (List.mem_of_find?_eq_some found)
    refine Nat.le_trans ?_ ih
    cases noted.turn consistent with
    | passes refusal recorder waiting given world =>
      have unnoted : startsOf id [] note.toList = 0 := by rcases world with ⟨rfl, _⟩ | rfl <;> rfl
      simp only [startsOf, List.countP_nil, waiting, List.countP_append] at unnoted ⊢
      omega
    | deed observers deed before recorder world waiting given =>
      have settled := deed.startsOf_le old
      have counted := before.countP_eq (·.startsFor id)
      simp only [startsOf, waiting, List.countP_append, List.countP_nil] at settled counted ⊢
      omega

/-- A start or a stop that waits can take away whichever recording is current. -/
theorem taken_away {p : Pending} (member : p ∈ c.waiting) (busy : ¬p.IsOther) : ∃ other note d,
    (p.starts? = some other ∨ p.stops? = some other) ∧ (note = .abandoned other ∨ note = .stopped other) ∧
    Log c [note] d ∧ d.recorder.current = none := by
  obtain ⟨before, rest, waits⟩ := List.append_of_mem member
  have fails {other : String} (starts : p.starts? = some other) : ∃ d, Log c [.abandoned other] d ∧
      d.recorder.current = none := by
    have noted := Noted.reply waits (.error .cancelled) []
    have abandoned : note? (some p) (c.recorder.step c.world p (.error .cancelled)) = some (.abandoned other) ∧
        (c.recorder.step c.world p (.error .cancelled)).1.current = none := by
      cases p <;> cases starts <;> exact ⟨rfl, rfl⟩
    rw [abandoned.1] at noted
    exact ⟨_, noted.log, abandoned.2⟩
  cases p with
  | startUrl other | startExpose other | startInstall other | startListen other =>
    obtain ⟨d, log, none⟩ := fails rfl
    exact ⟨other, _, d, .inl rfl, .inl rfl, log, none⟩
  | stopUninstall other =>
    exact ⟨other, _, _, .inr rfl, .inr rfl, (Noted.reply waits (.ok .nothing) []).log, rfl⟩
  | stopListen other =>
    have waits' : (c.after (before ++ rest) [] (c.recorder.step c.world (.stopListen other) (.ok .nothing))).waiting =
        before ++ rest ++ .stopUninstall other :: [] := rfl
    exact ⟨other, _, _, .inr rfl, .inr rfl,
      (Noted.reply waits (.ok .nothing) []).log.trans (Noted.reply waits' (.ok .nothing) []).log, rfl⟩
  | actionUrl | stepImage | stepUrl | reinstall => exact absurd ⟨rfl, rfl⟩ busy

theorem known_of_fresh {store : ScriptStore} {takesScreenshots : Bool} {w : World}
    (run : Relation.ReflTransGen Move (fresh store takesScreenshots w) c) : c.Known := by
  obtain ⟨notes, log⟩ := log_of_moves run
  refine log.known (.fresh store takesScreenshots w) fun p member => ?_
  exact absurd member List.not_mem_nil

/-- A recording that has been begun stays current until its own start fails or a stop that has written it is at its end,
    whatever else is called and in whatever order the page answers, just if no start and no stop was under way when it
    was begun. If one was, it can come to its end or fail and take the recording away. -/
theorem owned_iff_alone {store : ScriptStore} {takesScreenshots : Bool} {w : World}
    (run : Relation.ReflTransGen Move (fresh store takesScreenshots w) c) (begins : Noted c (some (.begun id)) c') :
    (∀ p ∈ c.waiting, p.IsOther) ↔ ∀ notes d, Log c' notes d → Owned id notes d := by
  have consistent := consistent_of_fresh run
  have consistent' := begins.consistent consistent
  obtain ⟨_, new, current, ⟨x, found⟩, waiting⟩ := begins.of_begun consistent
  constructor
  · intro others notes d log
    have none : c.waiting.countP (·.startsFor id) = 0 := by
      refine List.countP_eq_zero.mpr fun p member => ?_
      simp [Pending.startsFor, (others p member).1]
    have once : startsOf id d.waiting notes ≤ 1 := by
      refine Nat.le_trans (log.startsOf_le consistent' found) ?_
      have counted := waiting.countP_eq (·.startsFor id)
      rw [List.countP_cons, none] at counted
      simp only [startsOf, List.countP_nil, counted]
      split <;> omega
    have only (p : Pending) (member : p ∈ c'.waiting) : p = .startUrl id ∨ p.IsOther := by
      rcases List.mem_cons.mp (waiting.mem_iff.mp member) with rfl | old
      · exact .inl rfl
      · exact .inr (others p old)
    have alone : Alone id c' := by
      refine ⟨current, fun p member other about => ?_⟩
      rcases only p member with rfl | ⟨starts, stops⟩
      · rcases about with starts | stops
        · exact (Option.some.inj starts).symm
        · cases stops
      · rw [starts, stops] at about
        rcases about with same | same
        · cases same
        · cases same
    have written : Written [] c' := by
      intro p member other stops
      rcases only p member with rfl | ⟨_, none⟩
      · cases stops
      · cases none.symm.trans stops
    rcases log.alone consistent' alone written with alone | abandoned | finished
    · exact .inl alone.current
    · refine .inr (.inl ⟨abandoned, fun started => ?_⟩)
      have first : 0 < notes.countP (·.isStarted id) := List.countP_pos_iff.mpr ⟨_, started, beq_self_eq_true id⟩
      have second : 0 < notes.countP (·.isAbandoned id) :=
        List.countP_pos_iff.mpr ⟨_, abandoned, beq_self_eq_true id⟩
      rw [startsOf] at once
      omega
    · exact .inr (.inr finished)
  · intro owned p member
    by_contra busy
    have there : p ∈ c'.waiting := waiting.mem_iff.mpr (List.mem_cons_of_mem _ member)
    obtain ⟨other, note, d, about, what, log, none⟩ := taken_away there busy
    have apart : other ≠ id := by
      obtain ⟨y, known⟩ := known_of_fresh run p member other about
      rw [new, ← recording?_id known]
      exact consistent.unclaimed y (List.mem_of_find?_eq_some known)
    rcases owned _ d log with still | ⟨abandoned, _⟩ | ⟨actions, finished⟩
    · cases none.symm.trans still
    · have same := List.mem_singleton.mp abandoned
      rcases what with rfl | rfl
      · exact apart (Note.abandoned.inj same).symm
      · cases same
    · exact absurd finished.length_le (by simp)

/-- The first recording of a recorder is safe. One that is begun while the start of the one before still waits is not:
    that start is cancelled, and the new recording is gone. -/
theorem owned_iff_alone_two : ∃ (c₁ c₁' c₂ c₂' d : Course) (first second : String) (notes : List Note),
    (Noted c₁ (some (.begun first)) c₁' ∧ c₁.waiting = [] ∧ ∀ notes d, Log c₁' notes d → Owned first notes d) ∧
    Log c₁' notes c₂ ∧ Noted c₂ (some (.begun second)) c₂' ∧ c₂.waiting = [.startUrl first] ∧
    Log c₂' [.abandoned first] d ∧ d.recorder.current = none ∧ first ≠ second ∧
    ¬∀ notes d, Log c₂' notes d → Owned second notes d := by
  have takes (text : String) : (({ files := ⟨[(["recordings"], .directory)]⟩, idsUsed := 1 } : World).onFiles
      (ScriptStore.write ⟨⟨["recordings"]⟩, ".ts", none⟩ "id-1" text)).1 = .ok () := by rfl
  let store : ScriptStore := ⟨⟨["recordings"]⟩, ".ts", none⟩
  let w : World := { files := ⟨[(["recordings"], .directory)]⟩ }
  let begun : Recorder := (Recorder.fresh store false).begin w none none none
  let x : Recording := .begun (w.ids.id 0) w.now none none
  have records : begun.Records x := .begin (by simp [Unclaimed, Recorder.fresh]) none none none
  obtain ⟨script, rendered⟩ : ∃ script, Script.ofRecording x = .ok script :=
    Script.render_total ⟨⟨_, rfl⟩, Value.textual_none⟩ (List.forall_mem_nil _) (List.forall_mem_nil _)
  have written : (w.freshId.2.onFiles (store.write x.id script)).1 = .ok () := by
    have id : x.id = "id-1" := by decide
    rw [id]
    exact takes script
  let v : World := (w.freshId.2.onFiles (store.write x.id script)).2
  let calls : List Call := [.start none none, .stop]
  let c₁ : Course := fresh store false w
  let c₁' : Course := ⟨begun, w.freshId.2, [.startUrl x.id], [.start none none], []⟩
  let listening : Course := ⟨begun.touch x w.now, v, [.startUrl x.id, .stopListen x.id], calls, []⟩
  let uninstalling : Course := ⟨begun.touch x w.now, v, [.startUrl x.id, .stopUninstall x.id], calls, []⟩
  let c₂ : Course := ⟨(begun.touch x w.now).reset, v, [.startUrl x.id], calls, [.ok (.stopped x.id)]⟩
  have begins : Noted c₁ (some (.begun x.id)) c₁' := .call c₁ (.start none none) []
  have stopping : Move c₁' listening := (noted_stop (c := c₁') records rendered written).toMove
  have removed : Move listening uninstalling := @Move.reply listening [.startUrl x.id] [] _ rfl (.ok .nothing) []
  have stopped : Move uninstalling c₂ := @Move.reply uninstalling [.startUrl x.id] [] _ rfl (.ok .nothing) []
  obtain ⟨notes, log⟩ := log_of_moves (((Relation.ReflTransGen.single stopping).tail removed).tail stopped)
  let other : Recorder := (begun.touch x w.now).reset.begin v none none none
  let c₂' : Course := ⟨other, v.freshId.2, [.startUrl x.id, .startUrl (w.ids.id 1)], calls ++ [.start none none],
    [.ok (.stopped x.id)]⟩
  have begins' : Noted c₂ (some (.begun (w.ids.id 1))) c₂' := .call c₂ (.start none none) []
  have cancelled := @Noted.reply c₂' [] [.startUrl (w.ids.id 1)] _ rfl (.error .cancelled) []
  have run : Relation.ReflTransGen Move c₁ c₂ := .head begins.toMove log.moves
  refine ⟨c₁, c₁', c₂, c₂', _, x.id, w.ids.id 1, notes, ⟨begins, rfl, ?_⟩, log, begins', rfl, cancelled.log, rfl,
    by decide, fun owned => ?_⟩
  · exact (owned_iff_alone .refl begins).mp fun p member => absurd member List.not_mem_nil
  · have alone := (owned_iff_alone run begins').mpr owned (.startUrl x.id) (List.mem_singleton_self _)
    cases alone.1

end Course

end BrowserFlow.Recorder
