import BrowserFlow.Proofs.Record.Listing
import BrowserFlow.Proofs.Record.Rollback

/-!
Recorders that share a store. One operation after the other runs to its end, and recordings are deleted in between;
what the store lists is what has been stopped and not deleted.
-/

namespace BrowserFlow

namespace World

/-- The id has been given to something. -/
def Used (w : World) (id : String) : Prop := ∃ n < w.idsUsed, id = w.ids.id n

theorem Used.later {w after : World} {id : String} (used : w.Used id) (later : w.Later after) : after.Used id := by
  obtain ⟨n, used, same⟩ := used
  exact ⟨n, Nat.lt_of_lt_of_le used later.idsUsed, by rw [later.ids, same]⟩

theorem Used.not_next {w : World} {id : String} (used : w.Used id) : id ≠ w.ids.id w.idsUsed := by
  obtain ⟨n, used, rfl⟩ := used
  intro same
  have equal := w.ids.distinct _ _ same
  omega

end World

namespace Recorder

/-- The recordings of the recorder are filled in. -/
def Fills (r : Recorder) : Prop := ∀ x ∈ r.recordings, x.Filled

theorem filled_begun (id : String) (now : Instant) (name description : Option Value) :
    (Recording.begun id now name description).Filled where
  name := by
    cases named : name.bind Value.present? with
    | none => simp [Recording.begun, named, Recording.defaultName, Value.isPresent]
    | some v =>
      obtain ⟨given, _, present⟩ := Option.bind_eq_some_iff.mp named
      rw [Recording.begun, named, Option.getD_some, (Value.present?_some present).1]
      exact (Value.present?_some present).2
  description v there := by
    obtain ⟨given, _, present⟩ := Option.bind_eq_some_iff.mp there
    rw [(Value.present?_some present).1]
    exact (Value.present?_some present).2
  targetSite := by simp [Recording.begun]

theorem Fills.update {r : Recorder} (fills : r.Fills) (id : String) {change : Recording → Recording}
    (keeps : ∀ x : Recording, x.Filled → (change x).Filled) : (r.update id change).Fills := by
  intro x member
  obtain ⟨y, inside, rfl⟩ := List.mem_map.mp member
  split
  · exact keeps y (fills y inside)
  · exact fills y inside

theorem Fills.touch {r : Recorder} (fills : r.Fills) {x : Recording} (current : r.current? = some x) (now : Instant) :
    (r.touch x now).Fills := by
  obtain ⟨_, found⟩ := current?_found current
  obtain ⟨name, description, targetSite⟩ := fills x (List.mem_of_find?_eq_some found)
  exact fills.update x.id fun _ _ => ⟨name, description, targetSite⟩

theorem Change.fills {r r' : Recorder} {w after : World} (change : Change r w r' after) (fills : r.Fills) : r'.Fills := by
  cases change with
  | stays | refusing | paused | resumed | reset => exact fills
  | begun name description idle =>
    intro x member
    rcases List.mem_append.mp member with member | member
    · exact fills x member
    · rw [List.mem_singleton.mp member]
      exact filled_begun _ _ name description
  | noted id filled =>
    refine fills.update id fun x whole => ⟨whole.name, whole.description, fun url there => ?_⟩
    cases there
    exact filled
  | appended count current valid later =>
    exact fills.update _ fun x whole => ⟨whole.name, whole.description, whole.targetSite⟩
  | touched current later => exact fills.touch current w.now
  | stopped current later => exact fills.touch current w.now

theorem Ends.fills {t : Transition} {replies : List (PageRequest × Reply)} {result : Except Fault Outcome}
    {r' : Recorder} {after : World} (ends : Ends t replies result r' after) (fills : t.1.Fills) : r'.Fills := by
  induction ends with
  | finish => exact fills
  | ask passes next ih => exact ih ((step_change _ _).fills fills)

/-- A stop has stored this recording, and has then turned to the page. -/
structure Stores (r : Recorder) (w : World) (result : Except Fault Outcome) (r' : Recorder) (after : World)
    (x : Recording) (script : String) : Prop where
  current : r.current = some x.id
  found : r'.recording? x.id = some x
  rendered : Script.ofRecording x = .ok script
  written : (w.onFiles (r.store.write x.id script)).1 = .ok ()
  files : after.files = (w.onFiles (r.store.write x.id script)).2.files
  leaves : ∀ outcome, result = .ok outcome → outcome = .stopped x.id ∧ r'.current = none

theorem stop_stores {r r' : Recorder} {w after : World} {replies : List (PageRequest × Reply)}
    {result : Except Fault Outcome} (consistent : Consistent r w) (ends : Ends (r.stop w) replies result r' after) :
    replies = [] ∧ (∃ fault, result = .error fault) ∧ after.files = w.files ∨
      replies ≠ [] ∧ ∃ x script, Stores r w result r' after x script := by
  rcases stop_cases r w with refused | ⟨x, active, current⟩
  · rw [refused] at ends
    obtain ⟨rfl, _, rfl, rfl⟩ := ends.of_finish
    exact .inl ⟨rfl, ⟨_, rfl⟩, rfl⟩
  · have page : r.hasPage = true := consistent.page.mpr active
    obtain ⟨shown, found⟩ := current?_found current
    rw [stop_eq active current] at ends
    split at ends
    · obtain ⟨rfl, _, rfl, rfl⟩ := ends.of_finish
      exact .inl ⟨rfl, ⟨_, rfl⟩, rfl⟩
    · rename_i script rendered
      split at ends
      · rename_i failed
        obtain ⟨rfl, _, rfl, rfl⟩ := ends.of_finish
        exact .inl ⟨rfl, ⟨_, rfl⟩, by rw [World.onFiles_failed (r.store.write_isAtomic x.id script) failed]⟩
      · rename_i written
        rw [if_pos page] at ends
        obtain ⟨w₁, reply, rest, rfl, waited, next⟩ := ends.of_ask
        refine .inr ⟨by simp, touched x w.now, script, ?_⟩
        have held : (r.touch x w.now).recording? x.id = some (touched x w.now) := recording?_touch found w.now
        have stays (fault : Fault) {last : World} (same : last.files = w₁.files) :
            Stores r w (.error fault) (r.touch x w.now) last (touched x w.now) script :=
          ⟨shown, held, rendered, written, same.trans waited.files, fun _ same => by cases same⟩
        have leaves {last : World} (same : last.files = w₁.files) :
            Stores r w (.ok (.stopped x.id)) (r.touch x w.now).reset last (touched x w.now) script :=
          ⟨shown, held, rendered, written, same.trans waited.files, fun _ same => ⟨(Except.ok.inj same).symm, rfl⟩⟩
        cases reply with
        | error fault =>
          obtain ⟨rfl, rfl, rfl, _⟩ := next.of_finish
          exact stays fault rfl
        | ok answer =>
          obtain ⟨w₂, reply, rest, rfl, waited', next⟩ := next.of_ask
          cases reply with
          | ok answer =>
            obtain ⟨rfl, rfl, rfl, _⟩ := next.of_finish
            exact leaves waited'.files
          | error fault => cases fault with
            | cancelled =>
              obtain ⟨rfl, rfl, rfl, _⟩ := next.of_finish
              exact stays _ waited'.files
            | _ =>
              obtain ⟨rfl, rfl, rfl, _⟩ := next.of_finish
              exact leaves waited'.files

/-- Recorders that share a store, and what has become of their recordings. -/
structure Library (ι : Type) where
  recorders : ι → Recorder
  world : World
  /-- what has been stopped and not deleted -/
  stopped : List Recording := []
  /-- what has been stored and not deleted by stops that did not come to their end, because the page did not let go of
      its listener or they were cancelled -/
  interrupted : List Recording := []

namespace Library

variable {ι : Type}

/-- What the store has. A stop stores the recording before it turns to the page, so one that fails there leaves it. -/
def kept (l : Library ι) : List Recording := l.stopped ++ l.interrupted

/-- New recorders that share a store. -/
def fresh (s : ScriptStore) (takesScreenshots : ι → Bool) (w : World) : Library ι :=
  { recorders := fun i => Recorder.fresh s (takesScreenshots i), world := w }

/-- The recording that an operation has stored. A stop turns to the page only when the store has the script. -/
def stored? (r r' : Recorder) : Call → List (PageRequest × Reply) → Option Recording
  | .stop, _ :: _ => r.current.bind r'.recording?
  | _, _ => none

/-- After an operation of one of the recorders. -/
def after [DecidableEq ι] (l : Library ι) (i : ι) (call : Call) (replies : List (PageRequest × Reply))
    (result : Except Fault Outcome) (r' : Recorder) (world : World) : Library ι :=
  let recorders := Function.update l.recorders i r'
  match stored? (l.recorders i) r' call replies, result with
  | none, _ => { l with recorders, world }
  | some x, .ok _ =>
    { recorders, world, stopped := l.stopped ++ [x], interrupted := l.interrupted.filter (·.id != x.id) }
  | some x, .error _ => { l with recorders, world, interrupted := l.interrupted.filter (·.id != x.id) ++ [x] }

/-- After one of the recorders has deleted a recording, or has failed to. -/
def afterDelete (l : Library ι) (i : ι) (id : String) : Library ι :=
  match l.world.onFiles ((l.recorders i).store.delete id) with
  | (.ok (), world) =>
    { l with world, stopped := l.stopped.filter (·.id != id), interrupted := l.interrupted.filter (·.id != id) }
  | (.error _, world) => { l with world }

/-- Time passes, and the store begins or ceases to refuse writing; an operation of one of the recorders runs to its end;
    or one of them deletes a recording. -/
inductive Move [DecidableEq ι] : Library ι → Library ι → Prop
  | elapse (l : Library ι) (refusal : Option String) {world : World} (passes : l.world.Passes world) :
      Move l { l with recorders := fun i => { l.recorders i with store := { (l.recorders i).store with refusal } }, world }
  | call {l : Library ι} {i : ι} {call : Call} {replies : List (PageRequest × Reply)} {result : Except Fault Outcome}
      {r' : Recorder} {world : World} (ends : Ends (call.begin (l.recorders i) l.world) replies result r' world) :
      Move l (l.after i call replies result r' world)
  | delete (l : Library ι) (i : ι) (id : String) : Move l (l.afterDelete i id)

/-- The recorders keep apart from each other. -/
structure Apart (s : ScriptStore) (recorders : ι → Recorder) (w : World) : Prop where
  consistent : ∀ i, Consistent (recorders i) w
  sharing : ∀ i, ∃ refusal, (recorders i).store = { s with refusal }
  fills : ∀ i, (recorders i).Fills
  apart : ∀ i j id, (recorders i).current = some id → (recorders j).current = some id → i = j

theorem used_of_current {r : Recorder} {w : World} (consistent : Consistent r w) {id : String}
    (current : r.current = some id) : w.Used id := by
  obtain ⟨x, found⟩ := consistent.present id current
  have same := recording?_id found
  subst same
  exact consistent.known x (List.mem_of_find?_eq_some found)

theorem Apart.fresh (s : ScriptStore) (takesScreenshots : ι → Bool) (w : World) :
    Apart s (fun i => Recorder.fresh s (takesScreenshots i)) w where
  consistent i := .fresh s (takesScreenshots i) w
  sharing i := ⟨s.refusal, rfl⟩
  fills i x member := by cases member
  apart i j id current := by cases current

theorem Apart.call [DecidableEq ι] {s : ScriptStore} {recorders : ι → Recorder} {w : World}
    (apart : Apart s recorders w) {i : ι} {call : Call} {replies : List (PageRequest × Reply)}
    {result : Except Fault Outcome} {r' : Recorder} {after : World}
    (ends : Ends (call.begin (recorders i) w) replies result r' after) :
    Apart s (Function.update recorders i r') after := by
  have effect := Call.effect (apart.consistent i).unclaimed ends
  have each {motive : Recorder → Prop} (others : ∀ j, motive (recorders j)) (this : motive r') (j : ι) :
      motive (Function.update recorders i r' j) := by
    by_cases same : j = i
    · rw [same, Function.update_self]
      exact this
    · rw [Function.update_of_ne same]
      exact others j
  have meets {j : ι} {id : String} (here : r'.current = some id) (there : (recorders j).current = some id) : i = j := by
    rcases effect.current with same | none | new
    · exact apart.apart i j id (same ▸ here) there
    · rw [none] at here
      cases here
    · rw [new] at here
      cases here
      exact absurd rfl (used_of_current (apart.consistent j) there).not_next
  refine ⟨each (motive := (Consistent · after)) (fun j => (apart.consistent j).later effect.later) ((apart.consistent i).effect effect),
    each (motive := fun r => ∃ refusal, r.store = { s with refusal }) apart.sharing (effect.store ▸ apart.sharing i),
    each (motive := Fills) apart.fills (ends.fills (call.begin_change.fills (apart.fills i))), fun j k id first second => ?_⟩
  by_cases here : j = i
  · subst here
    by_cases there : k = j
    · exact there.symm
    · rw [Function.update_self] at first
      rw [Function.update_of_ne there] at second
      exact meets first second
  · rw [Function.update_of_ne here] at first
    by_cases there : k = i
    · subst there
      rw [Function.update_self] at second
      exact (meets second first).symm
    · rw [Function.update_of_ne there] at second
      exact apart.apart j k id first second

/-- The recorders keep apart, and the store has the recordings that are kept. -/
structure Sound (s : ScriptStore) (l : Library ι) : Prop where
  apart : Apart s l.recorders l.world
  free : ∀ i id, (l.recorders i).current = some id → id ∉ l.stopped.map (·.id)
  used : ∀ x ∈ l.kept, l.world.Used x.id
  shelf : ∃ base m, Shelf s l.world.files l.kept base m

theorem stored?_cases {r r' : Recorder} {w after : World} {call : Call} {replies : List (PageRequest × Reply)}
    {result : Except Fault Outcome} (consistent : Consistent r w) (ends : Ends (call.begin r w) replies result r' after) :
    stored? r r' call replies = none ∧ after.files = w.files ∨
      ∃ x script, stored? r r' call replies = some x ∧ Stores r w result r' after x script := by
  have effect := Call.effect consistent.unclaimed ends
  cases call with
  | stop =>
    rcases stop_stores consistent ends with ⟨rfl, _, files⟩ | ⟨asked, x, script, stores⟩
    · exact .inl ⟨rfl, files⟩
    · refine .inr ⟨x, script, ?_, stores⟩
      cases replies with
      | nil => contradiction
      | cons first rest => rw [stored?, stores.current, Option.bind_some, stores.found]
  | _ => exact .inl ⟨rfl, effect.files nofun⟩

/-- A stop that returns has stopped the recording that it returns. -/
theorem after_stop [DecidableEq ι] {l : Library ι} {i : ι} (consistent : Consistent (l.recorders i) l.world)
    {replies : List (PageRequest × Reply)} {outcome : Outcome} {r' : Recorder} {world : World}
    (ends : Ends ((l.recorders i).stop l.world) replies (.ok outcome) r' world) : ∃ x, outcome = .stopped x.id ∧
      r'.recording? x.id = some x ∧ l.after i .stop replies (.ok outcome) r' world =
        { recorders := Function.update l.recorders i r', world, stopped := l.stopped ++ [x],
          interrupted := l.interrupted.filter (·.id != x.id) } := by
  rcases stop_stores consistent ends with ⟨_, ⟨_, failed⟩, _⟩ | ⟨asked, x, script, stores⟩
  · cases failed
  · refine ⟨x, (stores.leaves outcome rfl).1, stores.found, ?_⟩
    cases replies with
    | nil => contradiction
    | cons first rest =>
      have stored : stored? (l.recorders i) r' .stop (first :: rest) = some x := by
        rw [stored?, stores.current, Option.bind_some, stores.found]
      unfold after
      rw [stored]

variable {s : ScriptStore} {l : Library ι} (sound : Sound s l)

include sound

theorem Sound.stored {x : Recording} {script : String} {i : ι} {r' : Recorder} {after : World}
    {result : Except Fault Outcome} (stores : Stores (l.recorders i) l.world result r' after x script)
    (fills : r'.Fills) {kept : List Recording}
    (perm : (l.stopped ++ l.interrupted.filter (·.id != x.id) ++ [x]).Perm kept) :
    ∃ base m, Shelf s after.files kept base m := by
  obtain ⟨base, m, shelf⟩ := sound.shelf
  obtain ⟨refusal, shared⟩ := sound.apart.sharing i
  obtain ⟨n, _, supplied⟩ := used_of_current (sound.apart.consistent i) stores.current
  have done := World.onFiles_ok stores.written
  rw [← stores.files, shared] at done
  have shelf := ((shelf.refusing refusal).written stores.rendered ⟨_, n, supplied⟩
    (fills x (List.mem_of_find?_eq_some stores.found)) done).refusing s.refusal
  have apart : l.stopped.filter (·.id != x.id) = l.stopped := by
    rw [List.filter_eq_self]
    intro y member
    refine bne_iff_ne.mpr fun same => sound.free i x.id stores.current ?_
    rw [← same]
    exact List.mem_map_of_mem member
  rw [Library.kept, List.filter_append, apart] at shelf
  exact ⟨base, _, shelf.perm perm⟩

/-- What comes to be current has not been stopped before. -/
theorem Sound.free_after [DecidableEq ι] {i j : ι} {call : Call} {result : Except Fault Outcome} {r' : Recorder}
    {world : World} (effect : Effect (l.recorders i) l.world call result r' world) {id : String}
    (current : (Function.update l.recorders i r' j).current = some id) : id ∉ l.stopped.map (·.id) := by
  by_cases here : j = i
  · rw [here, Function.update_self] at current
    rcases effect.current with same | none | new
    · exact sound.free i id (same ▸ current)
    · rw [none] at current
      cases current
    · rw [new] at current
      cases current
      intro inside
      obtain ⟨x, member, same⟩ := List.mem_map.mp inside
      exact (sound.used x (List.mem_append_left _ member)).not_next same
  · rw [Function.update_of_ne here] at current
    exact sound.free j id current

theorem Sound.used_after {world : World} (later : l.world.Later world) {x : Recording} (used : l.world.Used x.id)
    {kept : List Recording} (perm : (l.stopped ++ l.interrupted.filter (·.id != x.id) ++ [x]).Perm kept) :
    ∀ y ∈ kept, world.Used y.id := by
  intro y member
  rcases List.mem_append.mp (perm.mem_iff.mpr member) with old | new
  · rcases List.mem_append.mp old with stopped | interrupted
    · exact (sound.used y (List.mem_append_left _ stopped)).later later
    · exact (sound.used y (List.mem_append_right _ (List.mem_filter.mp interrupted).1)).later later
  · rw [List.mem_singleton.mp new]
    exact used.later later

theorem Sound.call [DecidableEq ι] {i : ι} {call : Call} {replies : List (PageRequest × Reply)}
    {result : Except Fault Outcome} {r' : Recorder} {world : World}
    (ends : Ends (call.begin (l.recorders i) l.world) replies result r' world) :
    Sound s (l.after i call replies result r' world) := by
  have effect := Call.effect (sound.apart.consistent i).unclaimed ends
  have apart := sound.apart.call ends
  have free (j : ι) (id : String) (current : (Function.update l.recorders i r' j).current = some id) :
      id ∉ l.stopped.map (·.id) := sound.free_after effect current
  rcases stored?_cases (sound.apart.consistent i) ends with ⟨none, files⟩ | ⟨x, script, some, stores⟩
  · unfold Library.after
    rw [none]
    refine ⟨apart, free, fun x member => (sound.used x member).later effect.later, ?_⟩
    obtain ⟨base, m, shelf⟩ := sound.shelf
    exact ⟨base, m, files ▸ shelf⟩
  · have used : l.world.Used x.id := used_of_current (sound.apart.consistent i) stores.current
    have fills : r'.Fills := by
      have fills := apart.fills i
      rwa [Function.update_self] at fills
    unfold Library.after
    rw [some]
    cases result with
    | error fault =>
      have perm := List.Perm.of_eq (List.append_assoc l.stopped (l.interrupted.filter (·.id != x.id)) [x])
      exact ⟨apart, free, sound.used_after effect.later used perm, sound.stored stores fills perm⟩
    | ok outcome =>
      have perm : (l.stopped ++ l.interrupted.filter (·.id != x.id) ++ [x]).Perm
          (l.stopped ++ [x] ++ l.interrupted.filter (·.id != x.id)) := by
        rw [List.append_assoc, List.append_assoc]
        exact List.perm_append_comm.append_left l.stopped
      refine ⟨apart, fun j id current inside => ?_, sound.used_after effect.later used perm,
        sound.stored stores fills perm⟩
      rw [List.map_append, List.mem_append] at inside
      rcases inside with old | new
      · exact free j id current old
      · -- what has just been stopped was current for this recorder alone, and now is for none
        rw [List.map_singleton, List.mem_singleton] at new
        subst new
        by_cases here : j = i
        · rw [here] at current
          dsimp only at current
          rw [Function.update_self, (stores.leaves outcome rfl).2] at current
          cases current
        · dsimp only at current
          rw [Function.update_of_ne here] at current
          exact here (sound.apart.apart j i x.id current stores.current)

/-- A recording can be deleted just if it is kept, and then it is gone and nothing else. -/
theorem Sound.delete (i : ι) (id : String) :
    ((l.world.onFiles ((l.recorders i).store.delete id)).1 = .ok () ↔ id ∈ l.kept.map (·.id)) ∧
      (l.afterDelete i id).kept = l.kept.filter (·.id != id) ∧
      (l.afterDelete i id).world = (l.world.onFiles ((l.recorders i).store.delete id)).2 ∧
      Sound s (l.afterDelete i id) := by
  obtain ⟨base, m, shelf⟩ := sound.shelf
  obtain ⟨refusal, shared⟩ := sound.apart.sharing i
  unfold afterDelete
  by_cases there : id ∈ l.kept.map (·.id)
  · obtain ⟨files, done, shelf⟩ := (shelf.refusing refusal).deleted there
    have deleted : l.world.onFiles ((l.recorders i).store.delete id) = (.ok (), { l.world with files }) := by
      rw [shared]
      exact World.onFiles_eq done
    rw [deleted]
    have kept : (l.stopped ++ l.interrupted).filter (·.id != id) =
        l.stopped.filter (·.id != id) ++ l.interrupted.filter (·.id != id) := List.filter_append _ _
    refine ⟨iff_of_true rfl there, kept.symm, rfl, ⟨?_, fun j other current inside => ?_, fun x member => ?_, base, _,
      (shelf.refusing s.refusal).perm (.of_eq kept)⟩⟩
    · exact ⟨fun j => (sound.apart.consistent j).later ⟨rfl, Nat.le_refl _⟩, sound.apart.sharing, sound.apart.fills,
        sound.apart.apart⟩
    · obtain ⟨x, member, same⟩ := List.mem_map.mp inside
      exact sound.free j other current (same ▸ List.mem_map_of_mem (List.mem_filter.mp member).1)
    · rw [Library.kept, ← kept] at member
      exact sound.used x (List.mem_filter.mp member).1
  · obtain ⟨fault, failed⟩ := (shelf.refusing refusal).not_deleted there
    have refused : l.world.onFiles ((l.recorders i).store.delete id) = (.error fault, l.world) := by
      rw [shared]
      exact World.onFiles_eq failed
    rw [refused]
    refine ⟨iff_of_false nofun there, ?_, rfl, sound⟩
    refine (List.filter_eq_self.mpr fun x member => bne_iff_ne.mpr ?_).symm
    rintro rfl
    exact there (List.mem_map_of_mem member)

theorem Sound.move [DecidableEq ι] {l' : Library ι} (move : Move l l') : Sound s l' := by
  cases move with
  | elapse refusal passes =>
    obtain ⟨base, m, shelf⟩ := sound.shelf
    refine ⟨⟨fun i => ((sound.apart.consistent i).later passes.toLater).refusing refusal, fun i => ?_, sound.apart.fills,
      sound.apart.apart⟩, sound.free, fun x member => ?_, base, m, passes.files ▸ shelf⟩
    · obtain ⟨_, shared⟩ := sound.apart.sharing i
      exact ⟨refusal, congrArg (fun store : ScriptStore => { store with refusal }) shared⟩
    · exact (sound.used x member).later passes.toLater
  | call ends => exact sound.call ends
  | delete i id => exact (sound.delete i id).2.2.2

omit sound

theorem Sound.fresh {w : World} (empty : w.files.names s.directory = .ok []) (takesScreenshots : ι → Bool) :
    Sound s (Library.fresh s takesScreenshots w) := by
  obtain ⟨base, holds⟩ := ScriptStore.holds_empty empty
  have none {motive : Recording → Prop} : ∀ x ∈ (Library.fresh s takesScreenshots w).kept, motive x :=
    List.forall_mem_nil motive
  exact ⟨.fresh s takesScreenshots w, fun i id _ => List.not_mem_nil, none, base, ∅,
    ⟨holds, none, fun id there => absurd there Finmap.notMem_empty, List.nodup_nil, none, none, none⟩⟩

theorem Sound.moves [DecidableEq ι] {l' : Library ι} (sound : Sound s l) (moves : Relation.ReflTransGen Move l l') :
    Sound s l' := by
  induction moves with
  | refl => exact sound
  | tail _ move ih => exact ih.move move

theorem get?_eq {s : ScriptStore} {files : Files} {entries : List Recording} (listed : list s files = .ok entries)
    (id : String) : ∃ found, get? s files (.str id) = .ok found ∧ (found.isSome = true ↔ id ∈ entries.map (·.id)) := by
  refine ⟨_, by rw [get?, listed]; rfl, ?_⟩
  rw [List.find?_isSome, List.mem_map]
  refine exists_congr fun x => and_congr_right fun _ => ?_
  rw [Value.same]
  exact beq_iff_eq.trans eq_comm

/-- The library is consistent: the store lists what has been stopped and not deleted, each once and the newest first,
    with what the script tells of it, and besides only what an interrupted stop has left. What is listed can be found
    and deleted, nothing else can, and when it has been deleted all others are still listed. -/
theorem listing_exact [DecidableEq ι] {s : ScriptStore} {takesScreenshots : ι → Bool} {w : World}
    (empty : w.files.names s.directory = .ok []) {l : Library ι}
    (run : Relation.ReflTransGen Move (Library.fresh s takesScreenshots w) l)
    (legible : ∀ x ∈ l.kept, x.Legible ∧ 1000 ≤ x.createdAt.date.year) (i : ι) : ∃ entries,
      list (l.recorders i).store l.world.files = .ok entries ∧ entries.Perm (l.kept.map Recording.summary) ∧
      (entries.map (·.id)).Nodup ∧ (entries.Pairwise fun a b => b.createdAt.micros ≤ a.createdAt.micros) ∧
      (∀ id, ∃ found, get? (l.recorders i).store l.world.files (.str id) = .ok found ∧
        (found.isSome = true ↔ id ∈ entries.map (·.id))) ∧
      ∀ id, ((l.world.onFiles ((l.recorders i).store.delete id)).1 = .ok () ↔ id ∈ entries.map (·.id)) ∧ ∃ left,
        list (l.recorders i).store (l.world.onFiles ((l.recorders i).store.delete id)).2.files = .ok left ∧
        left.Perm (entries.filter (·.id != id)) := by
  have sound : Sound s l := (Sound.fresh empty takesScreenshots).moves run
  have lists {l : Library ι} (sound : Sound s l) (legible : ∀ x ∈ l.kept, x.Legible ∧ 1000 ≤ x.createdAt.date.year) :
      ∃ entries, list (l.recorders i).store l.world.files = .ok entries ∧
        entries.Perm (l.kept.map Recording.summary) ∧ (l.kept.map (·.id)).Nodup ∧
        entries.Pairwise fun a b => b.createdAt.micros ≤ a.createdAt.micros := by
    obtain ⟨base, m, shelf⟩ := sound.shelf
    obtain ⟨refusal, shared⟩ := sound.apart.sharing i
    obtain ⟨entries, listed, perm, sorted⟩ := (shelf.refusing refusal).list legible
    exact ⟨entries, shared ▸ listed, perm, shelf.distinct, sorted⟩
  obtain ⟨entries, listed, perm, distinct, sorted⟩ := lists sound legible
  have ids : (entries.map (·.id)).Perm (l.kept.map (·.id)) := by
    have ids := perm.map (·.id)
    rwa [List.map_map] at ids
  refine ⟨entries, listed, perm, ids.nodup_iff.mpr distinct, sorted, get?_eq listed, fun id => ?_⟩
  obtain ⟨deletes, kept, world, sound⟩ := sound.delete i id
  refine ⟨deletes.trans ids.mem_iff.symm, ?_⟩
  obtain ⟨left, listed, rest, _⟩ := lists sound fun x member => by
    rw [kept] at member
    exact legible x (List.mem_filter.mp member).1
  have store : ((l.afterDelete i id).recorders i).store = (l.recorders i).store := by
    unfold afterDelete
    split <;> rfl
  rw [world, store] at listed
  refine ⟨left, listed, rest.trans ?_⟩
  rw [kept]
  have summaries : (l.kept.filter (·.id != id)).map Recording.summary =
      (l.kept.map Recording.summary).filter (·.id != id) := by
    rw [List.filter_map]
    rfl
  rw [summaries]
  exact (perm.filter _).symm

/-- One of two recordings has been stopped. -/
theorem listing_exact_two : ∃ (l : Library Bool) (x : Recording) (entries : List Recording),
    Relation.ReflTransGen Move (Library.fresh ⟨⟨["recordings"]⟩, ".ts", none⟩ (fun _ => false)
      { files := ⟨[(["recordings"], .directory)]⟩ }) l ∧
    l.kept = [x] ∧ x.Legible ∧ 1000 ≤ x.createdAt.date.year ∧ (l.recorders true).state = .recording ∧
    list (l.recorders true).store l.world.files = .ok entries ∧ entries.Perm [x.summary] ∧
    (l.world.onFiles ((l.recorders true).store.delete x.id)).1 = .ok () := by
  have taken (text : String) : (({ files := ⟨[(["recordings"], .directory)]⟩, idsUsed := 2 } : World).onFiles
      (ScriptStore.write ⟨⟨["recordings"]⟩, ".ts", none⟩ "id-1" text)).1 = .ok () := by rfl
  let store : ScriptStore := ⟨⟨["recordings"]⟩, ".ts", none⟩
  let w : World := { files := ⟨[(["recordings"], .directory)]⟩ }
  let new : Library Bool := Library.fresh store (fun _ => false) w
  let begun : Recorder := (Recorder.fresh store false).begin w (some (.str "login")) none none
  let x : Recording := .begun (w.ids.id 0) w.now (some (.str "login")) none
  have unclaimed (v : World) : (Recorder.fresh store false).Unclaimed v := by simp [Unclaimed, Recorder.fresh]
  have records : begun.Records x := .begin (unclaimed w) (some (.str "login")) none none
  let other : Recorder := (Recorder.fresh store false).begin w.freshId.2 none none none
  let one : Library Bool := { new with recorders := Function.update new.recorders false begun, world := w.freshId.2 }
  let two : Library Bool :=
    { one with recorders := Function.update one.recorders true other, world := { w with idsUsed := 2 } }
  have first : Move new one := by
    have ends : Ends (Call.begin (new.recorders false) new.world (.start (some (.str "login")) none)) _ _ _ _ :=
      starts rfl (unclaimed w) (some (.str "login")) none .nothing .nothing .nothing .nothing
    exact .call ends
  have second : Move one two := by
    have ends : Ends (Call.begin (one.recorders true) one.world (.start none none)) _ _ _ _ :=
      starts rfl (unclaimed w.freshId.2) none none .nothing .nothing .nothing .nothing
    exact .call ends
  obtain ⟨script, rendered⟩ : ∃ script, Script.ofRecording (touched x two.world.now) = .ok script :=
    Script.render_total ⟨⟨_, rfl⟩, Value.textual_none⟩ (List.forall_mem_nil _) (List.forall_mem_nil _)
  have written : (two.world.onFiles (begun.store.write x.id script)).1 = .ok () := by
    have id : x.id = "id-1" := by decide
    rw [id]
    exact taken script
  have stopped : Ends (Call.begin (two.recorders false) two.world .stop) _ _ _ _ :=
    @stops begun two.world x script (by simp [records.state]) records.current? records.page rendered written .nothing
      .nothing
  have consistent : Consistent (two.recorders false) two.world :=
    ((Consistent.fresh store false w).begin (some (.str "login")) none none (.refl _)).later ⟨rfl, Nat.le_succ _⟩
  obtain ⟨y, same, found, shape⟩ := after_stop (l := two) (i := false) consistent stopped
  have third := Move.call stopped
  rw [← Outcome.stopped.inj same] at found
  cases found.symm.trans (recording?_touch records.found two.world.now)
  rw [shape] at third
  have run := ((Relation.ReflTransGen.single first).tail second).tail third
  have legible : (touched x two.world.now).Legible ∧ 1000 ≤ (touched x two.world.now).createdAt.date.year :=
    ⟨⟨by decide, by decide, by decide, List.forall_mem_nil _, by decide⟩, by decide⟩
  obtain ⟨entries, listed, perm, _, _, _, deletes⟩ := listing_exact (s := store) rfl run
    (by simpa [Library.kept, two, one, new, Library.fresh] using legible) true
  refine ⟨_, touched x two.world.now, entries, run, rfl, legible.1, legible.2, rfl, listed, perm, ?_⟩
  rw [(deletes _).1, (perm.map _).mem_iff]
  exact List.mem_singleton_self _

end Library

end Recorder

end BrowserFlow
