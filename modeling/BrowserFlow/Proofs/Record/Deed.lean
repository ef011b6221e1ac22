import BrowserFlow.Proofs.Record.Rollback

/-!
All that one transition of an operation can do to a recorder, when other operations are under way as well, and what is
noted of it: which recording has been begun, what has been appended to which, and what a start or a stop has done.
-/

namespace BrowserFlow.Recorder

inductive Note
  | begun (id : String)
  | started (id : String)
  /-- the start has failed or has been cancelled -/
  | abandoned (id : String)
  | appended (id : String) (action : Action)
  /-- the script of a recording with these actions has been written -/
  | persisted (id : String) (actions : List Action)
  | stopped (id : String)
  /-- somebody else may have changed the files -/
  | disturbed

/-- The recording of a start that waits. -/
def Pending.starts? : Pending → Option String
  | .startUrl id | .startExpose id | .startInstall id | .startListen id => some id
  | _ => none

/-- The recording of a stop that waits. -/
def Pending.stops? : Pending → Option String
  | .stopListen id | .stopUninstall id => some id
  | _ => none

/-- Neither a start nor a stop. -/
def Pending.IsOther (p : Pending) : Prop := p.starts? = none ∧ p.stops? = none

theorem Pending.stops?_of_starts {p : Pending} {id : String} (starts : p.starts? = some id) : p.stops? = none := by
  cases p <;> first | rfl | cases starts

theorem Pending.starts?_of_stops {p : Pending} {id : String} (stops : p.stops? = some id) : p.starts? = none := by
  cases p <;> first | rfl | cases stops

/-- The entry for a transition, of an operation that has just been called or that the page has answered. -/
def note? (answered : Option Pending) : Transition → Option Note
  | (_, _, .ask _ (.startUrl id)) => some (.begun id)
  | (r, _, .ask _ (.stopListen id)) => (r.recording? id).map fun x => .persisted id x.actions
  | (_, _, .finish (.ok (.started id))) => some (.started id)
  | (_, _, .finish (.ok (.stopped id))) => some (.stopped id)
  | (r, _, .finish (.ok (.appended action))) => r.current.map (.appended · action)
  | (_, _, .finish (.error _)) => (answered.bind Pending.starts?).map .abandoned
  | _ => none

/-- All that one transition can do, with its entry. -/
inductive Deed (r : Recorder) (w : World) : Option Pending → Option Note → Transition → Prop
  | other {answered : Option Pending} {r' : Recorder} {after : World} {step : Step}
      (before : ∀ p ∈ answered, p.IsOther) (current : r'.current = r.current)
      (recordings : r'.recordings = r.recordings) (store : r'.store = r.store) (passes : w.Passes after)
      (next : ∀ p ∈ step.waiting, p.IsOther)
      (unreported : ∀ action, step ≠ .finish (.ok (.appended action))) : Deed r w answered none (r', after, step)
  | begun (name description : Option Value) (idle : r.state = .idle) :
      Deed r w none (some (.begun (w.ids.id w.idsUsed)))
        (r.begin w name description none, w.freshId.2, .ask .url (.startUrl (w.ids.id w.idsUsed)))
  | starting {p next : Pending} {id : String} {r' : Recorder} {request : PageRequest} (before : p.starts? = some id)
      (after : next.starts? = some id)
      (site : r' = r ∨ ∃ url, r' = r.update id fun x => { x with targetSite := some url }) :
      Deed r w (some p) none (r', w, .ask request next)
  | started {p : Pending} {id : String} (before : p.starts? = some id) :
      Deed r w (some p) (some (.started id)) (r, w, .finish (.ok (.started id)))
  | abandoned {p : Pending} {id : String} (before : p.starts? = some id) (fault : Fault) :
      Deed r w (some p) (some (.abandoned id)) (r.reset, w, .finish (.error fault))
  | appended {p : Pending} {id : String} {action : Action} (before : p.IsOther) (current : r.current = some id)
      (count : Nat) : Deed r w (some p) (some (.appended id action))
        (r.appendTo id action count, w.freshId.2, .finish (.ok (.appended action)))
  | unwritten {x : Recording} (current : r.current? = some x) (fault : Fault) :
      Deed r w none none (r.touch x w.now, w, .finish (.error fault))
  | persisted {x : Recording} {script : String} (current : r.current? = some x)
      (rendered : Script.ofRecording (touched x w.now) = .ok script)
      (written : (w.onFiles (r.store.write x.id script)).1 = .ok ()) :
      Deed r w none (some (.persisted x.id x.actions)) (r.touch x w.now, (w.onFiles (r.store.write x.id script)).2,
        .ask (.removeLoadListener loadListener) (.stopListen x.id))
  | stopping {p next : Pending} {id : String} {request : PageRequest} (before : p.stops? = some id)
      (after : next.stops? = some id) : Deed r w (some p) none (r, w, .ask request next)
  | interrupted {p : Pending} {id : String} (before : p.stops? = some id) (fault : Fault) :
      Deed r w (some p) none (r, w, .finish (.error fault))
  | stopped {p : Pending} {id : String} (before : p.stops? = some id) :
      Deed r w (some p) (some (.stopped id)) (r.reset, w, .finish (.ok (.stopped id)))

section Transitions

variable {r : Recorder} {w : World}

theorem Deed.ends {answered : Option Pending} (before : ∀ p ∈ answered, p.IsOther) {result : Except Fault Outcome}
    (unreported : ∀ action, result ≠ .ok (.appended action)) : Deed r w answered none (r, w, .finish result) :=
  .other before rfl rfl rfl (.refl _) (fun _ member => nomatch member) fun action same =>
    unreported action (Step.finish.inj same)

theorem Deed.waits {answered : Option Pending} (before : ∀ p ∈ answered, p.IsOther) (request : PageRequest)
    {p : Pending} (other : p.IsOther) : Deed r w answered none (r, w, .ask request p) := by
  refine .other before rfl rfl rfl (.refl _) (fun q member => ?_) fun _ same => nomatch same
  cases List.mem_singleton.mp member
  exact other

theorem Deed.done {answered : Option Pending} (before : ∀ p ∈ answered, p.IsOther) :
    Deed r w answered none (r, w, .finish (.ok .done)) := by
  apply Deed.ends before
  intro action same
  cases same

/-- An operation that fails and is no start. -/
theorem Deed.fails {answered : Option Pending} (before : ∀ p ∈ answered, p.IsOther) (fault : Fault) :
    Deed r w answered (note? answered (r, w, .finish (.error fault))) (r, w, .finish (.error fault)) := by
  have unnoted : note? answered (r, w, .finish (.error fault)) = none := by
    cases answered with
    | none => rfl
    | some p => simp [note?, (before p rfl).1]
  rw [unnoted]
  exact .ends before fun _ same => nomatch same

theorem not_answered (p : Pending) (member : p ∈ (none : Option Pending)) : p.IsOther := nomatch member

theorem start_deed (name description : Option Value) :
    Deed r w none (note? none (r.start w name description)) (r.start w name description) := by
  unfold start
  split
  · exact .fails not_answered _
  · rename_i notActive
    exact .begun name description (by simpa using notActive)

theorem recordAction_deed (kind : Value) (locator : Option Locator) (value description : Option Value) :
    Deed r w none (note? none (r.recordAction w kind locator value description))
      (r.recordAction w kind locator value description) := by
  unfold recordAction
  split
  · exact .ends not_answered fun _ same => nomatch same
  · split
    · exact .waits not_answered .url ⟨rfl, rfl⟩
    · exact .fails not_answered _

theorem askUrl_deed {answered : Option Pending} (before : ∀ p ∈ answered, p.IsOther) (description : Value)
    (screenshot : Option String) : Deed r w answered (note? answered (r.askUrl w (.stepUrl description screenshot)))
      (r.askUrl w (.stepUrl description screenshot)) := by
  unfold askUrl
  split
  · exact .waits before .url ⟨rfl, rfl⟩
  · exact .fails before _

theorem addManualStep_deed (description : Value) :
    Deed r w none (note? none (r.addManualStep w description)) (r.addManualStep w description) := by
  unfold addManualStep
  split
  · exact .fails not_answered _
  · split
    · exact .waits not_answered .screenshot ⟨rfl, rfl⟩
    · exact askUrl_deed not_answered description none

theorem stop_deed (consistent : Consistent r w) : Deed r w none (note? none (r.stop w)) (r.stop w) := by
  rcases stop_cases r w with refused | ⟨x, active, current⟩
  · rw [refused]
    exact .fails not_answered _
  · rw [stop_eq active current]
    split
    · exact .unwritten current _
    · rename_i script rendered
      split
      · rename_i fault failed
        rw [World.onFiles_failed (r.store.write_isAtomic x.id script) failed]
        exact .unwritten current fault
      · rename_i written
        obtain ⟨_, found⟩ := current?_found current
        rw [if_pos (consistent.page.mpr active)]
        simp only [note?, recording?_touch found, Option.map_some]
        exact .persisted current rendered written

theorem afterLoad_deed : Deed r w none (note? none (r.afterLoad w)) (r.afterLoad w) := by
  unfold afterLoad
  split
  · exact .done not_answered
  · exact .waits not_answered (.run .install) ⟨rfl, rfl⟩

/-- What an operation does before it first waits. -/
theorem Call.deed (consistent : Consistent r w) (call : Call) :
    Deed r w none (note? none (call.begin r w)) (call.begin r w) := by
  cases call with
  | start name description => exact start_deed name description
  | pause =>
    show Deed r w none (note? none (r.settle w r.pause)) (r.settle w r.pause)
    unfold Recorder.pause
    split
    · exact .other not_answered rfl rfl rfl (.refl _) (fun _ member => nomatch member) fun _ same => nomatch same
    · exact .fails not_answered _
  | resume =>
    show Deed r w none (note? none (r.settle w r.resume)) (r.settle w r.resume)
    unfold Recorder.resume
    split
    · exact .other not_answered rfl rfl rfl (.refl _) (fun _ member => nomatch member) fun _ same => nomatch same
    · exact .fails not_answered _
  | record kind locator value description => exact recordAction_deed kind locator value description
  | event payload =>
    show Deed r w none (note? none (r.handleEvent w payload)) (r.handleEvent w payload)
    unfold handleEvent
    split
    · exact recordAction_deed _ _ _ _
    · exact .ends not_answered fun _ same => nomatch same
  | manualStep description => exact addManualStep_deed description
  | stop => exact stop_deed consistent
  | load => exact afterLoad_deed

theorem append_deed {p : Pending} (before : p.IsOther) (action : Action) (count : Nat) :
    Deed r w (some p) (note? (some p) (r.append w.freshId.2 action count)) (r.append w.freshId.2 action count) := by
  have other : ∀ q ∈ some p, q.IsOther := fun q same => Option.some.inj same ▸ before
  have failed (fault : Fault) : Deed r w (some p) (note? (some p) (r, w.freshId.2, .finish (.error fault)))
      (r, w.freshId.2, .finish (.error fault)) := by
    have unnoted : note? (some p) (r, w.freshId.2, .finish (.error fault)) = none := by simp [note?, before.1]
    rw [unnoted]
    exact .other other rfl rfl rfl (World.passes_freshId w) (fun _ member => nomatch member) fun _ same => nomatch same
  unfold append
  split
  · exact failed _
  · exact failed _
  · rename_i id checked current valid
    have same := validate_ok valid
    subst same
    have noted : note? (some p) (r.appendTo id checked count, w.freshId.2, .finish (.ok (.appended checked))) =
        some (.appended id checked) := by simp [note?, current]
    exact noted ▸ .appended before current count

/-- What an operation does when the page has answered. -/
theorem step_deed (p : Pending) (reply : Reply) :
    Deed r w (some p) (note? (some p) (r.step w p reply)) (r.step w p reply) := by
  have only {p : Pending} (other : p.IsOther) : ∀ q ∈ some p, q.IsOther := fun q same => Option.some.inj same ▸ other
  cases p with
  | startUrl id => cases reply with
    | error fault => exact .abandoned rfl _
    | ok answer =>
      rw [step]
      cases targetSite? answer with
      | none => exact .starting rfl rfl (.inl rfl)
      | some url => exact .starting rfl rfl (.inr ⟨url, rfl⟩)
  | startExpose id => cases reply with
    | error fault => exact .abandoned rfl _
    | ok answer => exact .starting rfl rfl (.inl rfl)
  | startInstall id => cases reply with
    | error fault => exact .abandoned rfl _
    | ok answer => exact .starting rfl rfl (.inl rfl)
  | startListen id => cases reply with
    | error fault => exact .abandoned rfl _
    | ok answer => exact .started rfl
  | actionUrl kind locator value description => cases reply with
    | error fault => exact .fails (only ⟨rfl, rfl⟩) fault
    | ok answer => exact append_deed ⟨rfl, rfl⟩ _ 0
  | stepImage description => cases reply with
    | ok answer => exact askUrl_deed (only ⟨rfl, rfl⟩) _ _
    | error fault => cases fault with
      | cancelled => exact .fails (only ⟨rfl, rfl⟩) .cancelled
      | _ => exact askUrl_deed (only ⟨rfl, rfl⟩) _ _
  | stepUrl description screenshot => cases reply with
    | error fault => exact .fails (only ⟨rfl, rfl⟩) fault
    | ok answer => exact append_deed ⟨rfl, rfl⟩ _ 1
  | stopListen id => cases reply with
    | error fault => exact .interrupted rfl fault
    | ok answer => exact .stopping rfl rfl
  | stopUninstall id => cases reply with
    | ok answer => exact .stopped rfl
    | error fault => cases fault with
      | cancelled => exact .interrupted rfl .cancelled
      | _ => exact .stopped rfl
  | reinstall => cases reply with
    | ok answer => exact .done (only ⟨rfl, rfl⟩)
    | error fault => cases fault with
      | cancelled => exact .fails (only ⟨rfl, rfl⟩) .cancelled
      | _ => exact .done (only ⟨rfl, rfl⟩)

end Transitions

/-- The actions of a recording, none if there is no such recording. -/
def actions (r : Recorder) (id : String) : List Action := ((r.recording? id).map (·.actions)).getD []

def Note.action? (id : String) : Note → Option Action
  | .appended other action => if other = id then some action else none
  | _ => none

/-- The actions that have been appended to a recording, according to the journal. -/
def actionsOf (id : String) (notes : List Note) : List Action := notes.filterMap (Note.action? id)

@[simp] theorem actionsOf_nil (id : String) : actionsOf id [] = [] := rfl

@[simp] theorem actionsOf_append (id : String) (notes more : List Note) :
    actionsOf id (notes ++ more) = actionsOf id notes ++ actionsOf id more := List.filterMap_append

theorem actionsOf_cons (id : String) (note : Note) (notes : List Note) :
    actionsOf id (note :: notes) = (note.action? id).toList ++ actionsOf id notes := by
  rw [actionsOf, List.filterMap_cons]
  cases note.action? id <;> rfl

theorem actions_of_found {r : Recorder} {id : String} {x : Recording} (found : r.recording? id = some x) :
    r.actions id = x.actions := by rw [actions, found, Option.map_some, Option.getD_some]

theorem actions_update (r : Recorder) {id : String} {change : Recording → Recording}
    (keeps : ∀ x : Recording, x.id = id → (change x).id = id) (same : ∀ x, r.recording? id = some x →
      (change x).actions = x.actions) (other : String) : (r.update id change).actions other = r.actions other := by
  rw [actions, recording?_update r change keeps, actions]
  cases found : r.recording? other with
  | none => rfl
  | some x =>
    simp only [Option.map_some, Option.getD_some]
    split
    · rename_i here
      have here := beq_iff_eq.mp here
      rw [recording?_id found] at here
      exact same x (here ▸ found)
    · rfl

theorem actions_touch {r : Recorder} {x : Recording} (current : r.current? = some x) (now : Instant) (other : String) :
    (r.touch x now).actions other = r.actions other := by
  refine @actions_update r x.id (fun _ => touched x now) (fun _ _ => rfl) (fun y found => ?_) other
  cases (current?_found current).2.symm.trans found
  rfl

theorem actions_appendTo {r : Recorder} {id : String} {x : Recording} (found : r.recording? id = some x)
    (action : Action) (count : Nat) (other : String) : (r.appendTo id action count).actions other =
      r.actions other ++ (Note.action? other (.appended id action)).toList := by
  rw [actions, appendTo, recording?_update r (grown action count) fun _ same => same]
  by_cases here : id = other
  · subst here
    rw [found, actions_of_found found, Option.map_some, recording?_id found, beq_self_eq_true, if_pos rfl]
    simp [Note.action?, grown, Recording.append]
  · rw [Note.action?, if_neg here, Option.toList_none, List.append_nil, actions]
    cases shown : r.recording? other with
    | none => rfl
    | some y =>
      have apart : y.id ≠ id := by
        rw [recording?_id shown]
        exact Ne.symm here
      simp [apart]

theorem actions_begin {r : Recorder} {w : World} (unclaimed : r.Unclaimed w) (name description : Option Value)
    (id : String) : (r.begin w name description none).actions id = r.actions id := by
  by_cases new : id = w.ids.id w.idsUsed
  · subst new
    have absent : r.recording? (w.ids.id w.idsUsed) = none :=
      List.find?_eq_none.mpr fun x member => by simpa using unclaimed x member
    rw [actions_of_found (recording?_begin unclaimed name description none), actions, absent]
    rfl
  · have apart : (Recording.begun (w.ids.id w.idsUsed) w.now name description).id ≠ id := Ne.symm new
    rw [actions, recording?, begin, List.find?_append, List.find?_singleton]
    simp only [beq_eq_false_iff_ne.mpr apart, Bool.false_eq_true, if_false, Option.or_none]
    rfl

section Deeds

variable {r : Recorder} {w : World} {answered : Option Pending} {note : Option Note} {t : Transition}

/-- Actions are only ever appended, and each with its entry. -/
theorem Deed.actions (consistent : Consistent r w) (deed : Deed r w answered note t) (id : String) :
    t.1.actions id = r.actions id ++ actionsOf id note.toList := by
  have quiet {r' : Recorder} {note : Option Note} (unnoted : actionsOf id note.toList = [])
      (same : r'.actions id = r.actions id) : r'.actions id = r.actions id ++ actionsOf id note.toList := by
    rw [unnoted, List.append_nil, same]
  have same {r' : Recorder} (recordings : r'.recordings = r.recordings) : r'.actions id = r.actions id := by
    rw [Recorder.actions, recording?, recordings]
    rfl
  cases deed with
  | other before current recordings => exact quiet rfl (same recordings)
  | begun name description idle => exact quiet rfl (actions_begin consistent.unclaimed name description id)
  | @starting p next other r' request before after site =>
    rcases site with rfl | ⟨url, rfl⟩
    · exact quiet rfl rfl
    · refine quiet rfl (actions_update r ?_ ?_ id)
      · exact fun _ same => same
      · exact fun _ _ => rfl
  | started before => exact quiet rfl rfl
  | abandoned before fault => exact quiet rfl (same rfl)
  | appended before current count =>
    obtain ⟨x, found⟩ := consistent.present _ current
    rw [Option.toList_some, actionsOf_cons, actionsOf_nil, List.append_nil]
    exact actions_appendTo found _ count id
  | unwritten current fault => exact quiet rfl (actions_touch current w.now id)
  | persisted current rendered written => exact quiet rfl (actions_touch current w.now id)
  | stopping before after => exact quiet rfl rfl
  | interrupted before fault => exact quiet rfl rfl
  | stopped before => exact quiet rfl (same rfl)

theorem Deed.store (deed : Deed r w answered note t) : t.1.store = r.store := by
  cases deed with
  | other before current recordings store => exact store
  | starting before after site => rcases site with rfl | ⟨url, rfl⟩ <;> rfl
  | _ => rfl

/-- The recording that is current after an entry. Whose start has been abandoned and whose stop is at its end does not
    matter. -/
def Note.current (current : Option String) : Note → Option String
  | .begun id => some id
  | .abandoned _ | .stopped _ => none
  | _ => current

theorem Deed.current (deed : Deed r w answered note t) :
    t.1.current = note.elim r.current (Note.current r.current) := by
  cases deed with
  | other before current => exact current
  | starting before after site => rcases site with rfl | ⟨url, rfl⟩ <;> rfl
  | _ => rfl

/-- A start that waits has just begun its recording, or it has waited before. -/
theorem Deed.starts (deed : Deed r w answered note t) {p : Pending} (waits : p ∈ t.2.2.waiting) {id : String}
    (starts : p.starts? = some id) : (∃ q ∈ answered, q.starts? = some id) ∨ note = some (.begun id) := by
  cases deed with
  | other _ _ _ _ _ next _ => cases (next p waits).1.symm.trans starts
  | begun name description idle =>
    cases List.mem_singleton.mp waits
    cases starts
    exact .inr rfl
  | starting before after site =>
    cases List.mem_singleton.mp waits
    cases after.symm.trans starts
    exact .inl ⟨_, rfl, before⟩
  | persisted current rendered written =>
    cases List.mem_singleton.mp waits
    cases starts
  | stopping before after =>
    cases List.mem_singleton.mp waits
    cases (Pending.starts?_of_stops after).symm.trans starts
  | started | abandoned | appended | unwritten | interrupted | stopped => cases waits

/-- A stop that waits has just written its recording, or it has waited before. -/
theorem Deed.stops (deed : Deed r w answered note t) {p : Pending} (waits : p ∈ t.2.2.waiting) {id : String}
    (stops : p.stops? = some id) :
    (∃ q ∈ answered, q.stops? = some id) ∨ ∃ actions, note = some (.persisted id actions) := by
  cases deed with
  | other _ _ _ _ _ next _ => cases (next p waits).2.symm.trans stops
  | begun name description idle =>
    cases List.mem_singleton.mp waits
    cases stops
  | starting before after site =>
    cases List.mem_singleton.mp waits
    cases (Pending.stops?_of_starts after).symm.trans stops
  | persisted current rendered written =>
    cases List.mem_singleton.mp waits
    cases stops
    exact .inr ⟨_, rfl⟩
  | stopping before after =>
    cases List.mem_singleton.mp waits
    cases after.symm.trans stops
    exact .inl ⟨_, rfl, before⟩
  | started | abandoned | appended | unwritten | interrupted | stopped => cases waits

end Deeds

end BrowserFlow.Recorder
