import BrowserFlow.Proofs.Record.Deed
import BrowserFlow.Proofs.Store.Contents

/-!
The journal of a recorder among operations that are under way at the same time. Every move has at most one entry, and
the entries so far say which recording is current and which actions it has.
-/

namespace BrowserFlow.Recorder

namespace Course

/-- A move of a course with its entry, if it has one. Somebody else may change the files, but not without an entry. -/
inductive Noted : Course → Option Note → Course → Prop
  | wait (c : Course) (refusal : Option String) {world : World} (passes : c.world.Passes world) :
      Noted c none { c with recorder := { c.recorder with store := { c.recorder.store with refusal } }, world }
  | disturb (c : Course) (refusal : Option String) {world : World} (later : c.world.Later world) :
      Noted c (some .disturbed)
        { c with recorder := { c.recorder with store := { c.recorder.store with refusal } }, world }
  | call (c : Course) (call : Call) (observers : List Observer) :
      Noted c (note? none (call.begin c.recorder c.world))
        ({ c with calls := c.calls ++ [call] }.after c.waiting observers (call.begin c.recorder c.world))
  | reply {c : Course} {before rest : List Pending} {pending : Pending} (waits : c.waiting = before ++ pending :: rest)
      (reply : Reply) (observers : List Observer) :
      Noted c (note? (some pending) (c.recorder.step c.world pending reply))
        (c.after (before ++ rest) observers (c.recorder.step c.world pending reply))

/-- A course from here to there with its journal. -/
inductive Log (start : Course) : List Note → Course → Prop
  | start : Log start [] start
  | move {notes : List Note} {c c' : Course} {note : Option Note} (log : Log start notes c) (noted : Noted c note c') :
      Log start (notes ++ note.toList) c'

variable {c d e c' : Course} {note : Option Note} {notes more : List Note}

theorem Noted.toMove (noted : Noted c note c') : Move c c' := by
  cases noted with
  | wait refusal passes => exact .elapse c refusal passes.toLater
  | disturb refusal later => exact .elapse c refusal later
  | call call observers => exact .call c call observers
  | reply waits reply observers => exact .reply waits reply observers

theorem noted_of_move (move : Move c c') : ∃ note, Noted c note c' := by
  cases move with
  | elapse refusal later => exact ⟨_, .disturb c refusal later⟩
  | call call observers => exact ⟨_, .call c call observers⟩
  | reply waits reply observers => exact ⟨_, .reply waits reply observers⟩

theorem Log.moves (log : Log c notes d) : Relation.ReflTransGen Move c d := by
  induction log with
  | start => exact .refl
  | move _ noted ih => exact ih.tail noted.toMove

theorem log_of_moves (run : Relation.ReflTransGen Move c d) : ∃ notes, Log c notes d := by
  induction run with
  | refl => exact ⟨[], .start⟩
  | tail _ move ih =>
    obtain ⟨notes, log⟩ := ih
    obtain ⟨note, noted⟩ := noted_of_move move
    exact ⟨_, log.move noted⟩

theorem Noted.log (noted : Noted c note c') : Log c note.toList c' := Log.start.move noted

theorem Log.trans (log : Log c notes d) (later : Log d more e) : Log c (notes ++ more) e := by
  induction later with
  | start => rwa [List.append_nil]
  | move _ noted ih =>
    rw [← List.append_assoc]
    exact ih.move noted

/-- The course up to an entry, the move that has it, and the course from there. -/
theorem Log.split {n : Note} (log : Log c (notes ++ n :: more) e) :
    ∃ d d', Log c notes d ∧ Noted d (some n) d' ∧ Log d' more e := by
  generalize whole : notes ++ n :: more = journal at log
  induction log generalizing more with
  | start => simp at whole
  | @move journal d e note log noted ih =>
    cases note with
    | none =>
      obtain ⟨f, g, first, here, last⟩ := ih (by simpa using whole)
      exact ⟨f, g, first, here, by simpa using last.move noted⟩
    | some m =>
      rcases List.eq_nil_or_concat more with rfl | ⟨front, last, rfl⟩
      · obtain ⟨rfl, same⟩ := List.append_inj' whole rfl
        cases same
        exact ⟨d, e, log, noted, .start⟩
      · have whole : (notes ++ n :: front) ++ [last] = journal ++ [m] := by simpa using whole
        obtain ⟨same, end'⟩ := List.append_inj' whole rfl
        cases end'
        obtain ⟨f, g, first, here, rest⟩ := ih same
        exact ⟨f, g, first, here, by simpa using rest.move noted⟩

/-- What a move comes to: time passes, or one operation does something. -/
inductive Turn (c : Course) (note : Option Note) (c' : Course) : Prop
  | passes (refusal : Option String)
      (recorder : c'.recorder = { c.recorder with store := { c.recorder.store with refusal } })
      (waiting : c'.waiting = c.waiting) (given : c'.given = c.given)
      (world : note = none ∧ c.world.Passes c'.world ∨ note = some .disturbed)
  | deed {answered : Option Pending} {others : List Pending} {t : Transition} (observers : List Observer)
      (deed : Deed c.recorder c.world answered note t) (before : c.waiting.Perm (answered.toList ++ others))
      (recorder : c'.recorder = t.1) (world : c'.world = t.2.1) (waiting : c'.waiting = others ++ t.2.2.waiting)
      (given : c'.given = c.given ++ t.2.2.given observers)

theorem Noted.turn (consistent : Consistent c.recorder c.world) (noted : Noted c note c') : Turn c note c' := by
  cases noted with
  | wait refusal passes => exact .passes refusal rfl rfl rfl (.inl ⟨rfl, passes⟩)
  | disturb refusal later => exact .passes refusal rfl rfl rfl (.inr rfl)
  | call call observers => exact .deed observers (call.deed consistent) (.refl _) rfl rfl rfl rfl
  | reply waits reply observers =>
    refine .deed observers (step_deed _ reply) ?_ rfl rfl rfl rfl
    rw [waits]
    exact List.perm_middle

theorem Noted.consistent (noted : Noted c note c') (consistent : Consistent c.recorder c.world) :
    Consistent c'.recorder c'.world := consistent.change noted.toMove.change

theorem Log.consistent (log : Log c notes d) (consistent : Consistent c.recorder c.world) :
    Consistent d.recorder d.world := Course.consistent consistent log.moves

/-- Actions are only ever appended, and each with its entry. -/
theorem Noted.actions (consistent : Consistent c.recorder c.world) (noted : Noted c note c') (id : String) :
    c'.recorder.actions id = c.recorder.actions id ++ actionsOf id note.toList := by
  cases noted.turn consistent with
  | passes refusal recorder waiting given world =>
    have unnoted : actionsOf id note.toList = [] := by rcases world with ⟨rfl, _⟩ | rfl <;> rfl
    rw [recorder, unnoted, List.append_nil]
    rfl
  | deed observers deed before recorder world waiting given =>
    rw [recorder]
    exact deed.actions consistent id

theorem Log.actions (consistent : Consistent c.recorder c.world) (log : Log c notes d) (id : String) :
    d.recorder.actions id = c.recorder.actions id ++ actionsOf id notes := by
  induction log with
  | start => rw [actionsOf_nil, List.append_nil]
  | move log noted ih =>
    rw [noted.actions (log.consistent consistent), ih, actionsOf_append, List.append_assoc]

theorem Noted.current (consistent : Consistent c.recorder c.world) (noted : Noted c note c') :
    c'.recorder.current = note.elim c.recorder.current (Note.current c.recorder.current) := by
  cases noted.turn consistent with
  | passes refusal recorder waiting given world =>
    rw [recorder]
    rcases world with ⟨rfl, _⟩ | rfl <;> rfl
  | deed observers deed before recorder world waiting given =>
    rw [recorder]
    exact deed.current

/-- The journal says which recording is current: the one that was begun last, unless a start has been abandoned or a
    stop has come to its end since, whichever recording that was about. -/
theorem Log.current (consistent : Consistent c.recorder c.world) (log : Log c notes d) :
    d.recorder.current = notes.foldl Note.current c.recorder.current := by
  induction log with
  | start => rfl
  | @move notes d e note log noted ih =>
    rw [noted.current (log.consistent consistent), List.foldl_append, ih]
    cases note <;> rfl

section Entries

variable (consistent : Consistent c.recorder c.world) {id : String}

include consistent

theorem Noted.starts (noted : Noted c note c') {p : Pending} (waits : p ∈ c'.waiting) (starts : p.starts? = some id) :
    (∃ q ∈ c.waiting, q.starts? = some id) ∨ note = some (.begun id) := by
  cases noted.turn consistent with
  | passes refusal recorder waiting given world => exact .inl ⟨p, waiting ▸ waits, starts⟩
  | deed observers deed before recorder world waiting given =>
    rcases List.mem_append.mp (waiting ▸ waits) with old | new
    · exact .inl ⟨p, before.mem_iff.mpr (List.mem_append_right _ old), starts⟩
    · rcases deed.starts new starts with ⟨q, there, starts⟩ | begun
      · exact .inl ⟨q, before.mem_iff.mpr (List.mem_append_left _ (Option.mem_toList.mpr there)), starts⟩
      · exact .inr begun

theorem Noted.stops (noted : Noted c note c') {p : Pending} (waits : p ∈ c'.waiting) (stops : p.stops? = some id) :
    (∃ q ∈ c.waiting, q.stops? = some id) ∨ ∃ actions, note = some (.persisted id actions) := by
  cases noted.turn consistent with
  | passes refusal recorder waiting given world => exact .inl ⟨p, waiting ▸ waits, stops⟩
  | deed observers deed before recorder world waiting given =>
    rcases List.mem_append.mp (waiting ▸ waits) with old | new
    · exact .inl ⟨p, before.mem_iff.mpr (List.mem_append_right _ old), stops⟩
    · rcases deed.stops new stops with ⟨q, there, stops⟩ | persisted
      · exact .inl ⟨q, before.mem_iff.mpr (List.mem_append_left _ (Option.mem_toList.mpr there)), stops⟩
      · exact .inr persisted

/-- An entry that is not about the files is that of a deed. -/
theorem Noted.deed {n : Note} (noted : Noted c (some n) c') (about : n ≠ .disturbed) : ∃ answered others t,
    Deed c.recorder c.world answered (some n) t ∧ c.waiting.Perm (answered.toList ++ others) ∧
      c'.recorder = t.1 ∧ c'.world = t.2.1 ∧ c'.waiting = others ++ t.2.2.waiting := by
  cases noted.turn consistent with
  | passes refusal recorder waiting given world =>
    rcases world with ⟨same, _⟩ | same
    · cases same
    · exact absurd (Option.some.inj same) about
  | deed observers deed before recorder world waiting given =>
    exact ⟨_, _, _, deed, before, recorder, world, waiting⟩

/-- A move that begins a recording: the start goes on with it, and what waited still waits. -/
theorem Noted.of_begun (begins : Noted c (some (.begun id)) c') : c.recorder.current = none ∧
    id = c.world.ids.id c.world.idsUsed ∧ c'.recorder.current = some id ∧ (∃ x, c'.recorder.recording? id = some x) ∧
      c'.waiting.Perm (.startUrl id :: c.waiting) := by
  obtain ⟨_, others, _, deed, before, recorder, _, waiting⟩ := begins.deed consistent nofun
  cases deed with
  | begun name description idle =>
    rw [recorder, waiting]
    refine ⟨consistent.idle.mp idle, rfl, rfl, ⟨_, recording?_begin consistent.unclaimed name description none⟩, ?_⟩
    exact List.perm_append_comm.trans (before.symm.cons _)

theorem Noted.of_abandoned (noted : Noted c (some (.abandoned id)) c') : ∃ p ∈ c.waiting, p.starts? = some id := by
  obtain ⟨_, others, _, deed, before, _⟩ := noted.deed consistent nofun
  cases deed with
  | abandoned starts fault => exact ⟨_, before.mem_iff.mpr List.mem_cons_self, starts⟩

theorem Noted.of_stopped (noted : Noted c (some (.stopped id)) c') : ∃ p ∈ c.waiting, p.stops? = some id := by
  obtain ⟨_, others, _, deed, before, _⟩ := noted.deed consistent nofun
  cases deed with
  | stopped stops => exact ⟨_, before.mem_iff.mpr List.mem_cons_self, stops⟩

theorem Noted.of_appended {action : Action} (noted : Noted c (some (.appended id action)) c') :
    c.recorder.current = some id := by
  obtain ⟨_, _, _, deed, _⟩ := noted.deed consistent nofun
  cases deed with
  | appended other current count => exact current

/-- A script is written of the actions that the current recording has. -/
theorem Noted.of_persisted {actions : List Action} (noted : Noted c (some (.persisted id actions)) c') :
    c.recorder.current = some id ∧ actions = c.recorder.actions id ∧
      ∃ x script path, x.id = id ∧ x.actions = actions ∧ Script.ofRecording x = .ok script ∧
        c.recorder.store.path id = .ok path ∧
        c'.world.files.find path = .ok (some (.file (Utf8.encode script.toList))) := by
  obtain ⟨_, _, _, deed, _, _, world, _⟩ := noted.deed consistent nofun
  cases deed with
  | persisted current rendered written =>
    obtain ⟨active, found⟩ := current?_found current
    obtain ⟨path, named, held⟩ := ScriptStore.write_ok (World.onFiles_ok written)
    exact ⟨active, (actions_of_found found).symm, _, _, path, rfl, rfl, rendered, named, world ▸ held⟩

end Entries

/-- A stop that can write its recording waits for the page. -/
theorem noted_stop {x : Recording} {script : String} (records : c.recorder.Records x)
    (rendered : Script.ofRecording x = .ok script)
    (written : (c.world.onFiles (c.recorder.store.write x.id script)).1 = .ok ()) :
    Noted c (some (.persisted x.id x.actions)) ⟨c.recorder.touch x c.world.now,
      (c.world.onFiles (c.recorder.store.write x.id script)).2, c.waiting ++ [.stopListen x.id], c.calls ++ [.stop],
      c.given⟩ := by
  have stops : c.recorder.stop c.world = (c.recorder.touch x c.world.now,
      (c.world.onFiles (c.recorder.store.write x.id script)).2,
      .ask (.removeLoadListener loadListener) (.stopListen x.id)) := by
    rw [stop_eq (by simp [records.state]) records.current?, rendered]
    simp only [written, records.page, if_true]
  have noted := Noted.call c .stop []
  rw [show Call.begin c.recorder c.world .stop = _ from stops] at noted
  simpa [after, Step.given, Step.waiting, note?, recording?_touch records.found, touched] using noted

/-- Every start and every stop that waits is about a recording that there is. -/
def Known (c : Course) : Prop :=
  ∀ p ∈ c.waiting, ∀ id, p.starts? = some id ∨ p.stops? = some id → ∃ x, c.recorder.recording? id = some x

/-- Every stop that waits has written its recording. -/
def Written (notes : List Note) (c : Course) : Prop :=
  ∀ p ∈ c.waiting, ∀ id, p.stops? = some id → ∃ actions, .persisted id actions ∈ notes

theorem Noted.found (noted : Noted c note c') {id : String} (found : ∃ x, c.recorder.recording? id = some x) :
    ∃ x, c'.recorder.recording? id = some x := by
  obtain ⟨x, found⟩ := found
  obtain ⟨y, found, _⟩ := noted.toMove.change.grows id x found
  exact ⟨y, found⟩

theorem Known.turn (consistent : Consistent c.recorder c.world) (known : c.Known) (noted : Noted c note c') :
    c'.Known := by
  intro p waits id about
  rcases about with starts | stops
  · rcases noted.starts consistent waits starts with ⟨q, there, starts⟩ | rfl
    · exact noted.found (known q there id (.inl starts))
    · exact (noted.of_begun consistent).2.2.2.1
  · rcases noted.stops consistent waits stops with ⟨q, there, stops⟩ | ⟨actions, rfl⟩
    · exact noted.found (known q there id (.inr stops))
    · exact noted.found (consistent.present id (noted.of_persisted consistent).1)

theorem Written.turn (consistent : Consistent c.recorder c.world) (written : Written notes c)
    (noted : Noted c note c') : Written (notes ++ note.toList) c' := by
  intro p waits id stops
  rcases noted.stops consistent waits stops with ⟨q, there, stops⟩ | ⟨actions, rfl⟩
  · obtain ⟨actions, before⟩ := written q there id stops
    exact ⟨actions, List.mem_append_left _ before⟩
  · exact ⟨actions, List.mem_append_right _ (List.mem_singleton_self _)⟩

theorem Log.known (consistent : Consistent c.recorder c.world) (known : c.Known) (log : Log c notes d) : d.Known := by
  induction log with
  | start => exact known
  | move log noted ih => exact ih.turn (log.consistent consistent) noted

theorem Log.written (consistent : Consistent c.recorder c.world) (written : Written [] c) (log : Log c notes d) :
    Written notes d := by
  induction log with
  | start => exact written
  | move log noted ih => exact ih.turn (log.consistent consistent) noted

end Course

end BrowserFlow.Recorder
