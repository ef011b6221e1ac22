import BrowserFlow.Rehearsal.Scene

/-!
Listeners for loads. The adapter keeps in mind which ones it has added; the page has a list of handlers of its own,
each of which calls a listener after a load. The two agree after any requests.
-/

namespace BrowserFlow

/-- The listener that a request is about. -/
def PageRequest.listener? : PageRequest → Option String
  | .addLoadListener name | .removeLoadListener name => some name
  | _ => none

structure Wiring where
  adapter : Adapter := {}
  /-- the listener of every handler of the page -/
  handlers : List String := []

namespace Wiring

/-- The handlers of the page when a request has reached it. -/
def reached (wiring : Wiring) : PageRequest → List String
  | .addLoadListener name => wiring.handlers ++ [name]
  | .removeLoadListener name => wiring.handlers.erase name
  | _ => wiring.handlers

/-- The page adds and removes handlers at once. To anything else it may reply as it likes. -/
inductive Answers (wiring : Wiring) (request : PageRequest) : Reply → Wiring → Prop
  | held (held : wiring.adapter.forward? request = none) : Answers wiring request (.ok .nothing) wiring
  | sent {sent : PageRequest} (reply : Reply) (sends : wiring.adapter.forward? request = some sent)
      (atOnce : sent.listener?.isSome → reply = .ok .nothing) :
      Answers wiring request (wiring.adapter.settle sent reply).2
        ⟨(wiring.adapter.settle sent reply).1, wiring.reached sent⟩

inductive Serves : Wiring → List (PageRequest × Reply) → Wiring → Prop
  | done (wiring : Wiring) : Serves wiring [] wiring
  | next {wiring between after : Wiring} {request : PageRequest} {reply : Reply} {replies : List (PageRequest × Reply)}
      (answers : wiring.Answers request reply between) (rest : Serves between replies after) :
      Serves wiring ((request, reply) :: replies) after

/-- The last request about a listener, if there is one. -/
def last? (name : String) (requests : List PageRequest) : Option PageRequest :=
  (requests.filter fun request => request.listener? == some name).getLast?

variable {wiring after : Wiring} {request : PageRequest} {reply : Reply} {replies : List (PageRequest × Reply)}

theorem Serves.of_nil (serves : wiring.Serves [] after) : after = wiring := by
  cases serves
  rfl

theorem Serves.of_cons (serves : wiring.Serves ((request, reply) :: replies) after) :
    ∃ between, wiring.Answers request reply between ∧ between.Serves replies after := by
  cases serves with
  | next answers rest => exact ⟨_, answers, rest⟩

theorem settle_listeners (adapter : Adapter) (other : request.listener? = none) (reply : Reply) :
    (adapter.settle request reply).1.listeners = adapter.listeners := by
  have granted : (adapter.granted request).listeners = adapter.listeners := by
    cases request with
    | addLoadListener | removeLoadListener => cases other
    | _ => rfl
  unfold Adapter.settle
  split
  · exact granted
  · split
    · rfl
    · exact granted

theorem forward?_same {adapter : Adapter} {sent : PageRequest} (sends : adapter.forward? request = some sent) :
    sent = request := by
  cases request with
  | expose | addLoadListener | removeLoadListener =>
    simp only [Adapter.forward?] at sends
    split at sends
    · cases sends <;> rfl
    · cases sends <;> rfl
  | _ => exact (Option.some.inj sends).symm

/-- The adapter and the page have the same listeners, none twice. -/
structure Sound (wiring : Wiring) : Prop where
  distinct : wiring.adapter.listeners.Nodup
  same : wiring.handlers.Perm wiring.adapter.listeners

theorem Sound.mem (sound : wiring.Sound) (name : String) :
    name ∈ wiring.handlers ↔ name ∈ wiring.adapter.listeners := sound.same.mem_iff

theorem Sound.count (sound : wiring.Sound) (name : String) :
    wiring.handlers.count name = if name ∈ wiring.handlers then 1 else 0 := by
  rw [sound.same.count_eq, sound.distinct.count]
  simp only [sound.mem]

theorem Answers.quiet (answers : wiring.Answers request reply after) (other : request.listener? = none) :
    after.adapter.listeners = wiring.adapter.listeners ∧ after.handlers = wiring.handlers := by
  cases answers with
  | held => exact ⟨rfl, rfl⟩
  | sent reply sends atOnce =>
    cases forward?_same sends
    refine ⟨settle_listeners _ other reply, ?_⟩
    cases request with
    | addLoadListener | removeLoadListener => cases other
    | _ => rfl

theorem Answers.added {name : String} (answers : wiring.Answers (.addLoadListener name) reply after) :
    reply = .ok .nothing ∧
      if name ∈ wiring.adapter.listeners then after = wiring
      else after.adapter.listeners = name :: wiring.adapter.listeners ∧ after.handlers = wiring.handlers ++ [name] := by
  cases answers with
  | held held =>
    have known : name ∈ wiring.adapter.listeners := by
      simpa [Adapter.forward?] using held
    exact ⟨rfl, by rw [if_pos known]⟩
  | sent reply sends atOnce =>
    cases forward?_same sends
    have unknown : name ∉ wiring.adapter.listeners := by
      simpa [Adapter.forward?] using sends
    cases atOnce rfl
    exact ⟨rfl, by rw [if_neg unknown]; exact ⟨rfl, rfl⟩⟩

theorem Answers.removed {name : String} (answers : wiring.Answers (.removeLoadListener name) reply after) :
    reply = .ok .nothing ∧
      if name ∈ wiring.adapter.listeners then
        after.adapter.listeners = wiring.adapter.listeners.erase name ∧ after.handlers = wiring.handlers.erase name
      else after = wiring := by
  cases answers with
  | held held =>
    have unknown : name ∉ wiring.adapter.listeners := by
      simpa [Adapter.forward?] using held
    exact ⟨rfl, by rw [if_neg unknown]⟩
  | sent reply sends atOnce =>
    cases forward?_same sends
    have known : name ∈ wiring.adapter.listeners := by
      simpa [Adapter.forward?] using sends
    cases atOnce rfl
    exact ⟨rfl, by rw [if_pos known]; exact ⟨rfl, rfl⟩⟩

theorem Answers.sound (answers : wiring.Answers request reply after) (sound : wiring.Sound) : after.Sound := by
  cases about : request with
  | addLoadListener name =>
    subst about
    have changed := answers.added.2
    split at changed
    · rw [changed]
      exact sound
    · rename_i unknown
      obtain ⟨listeners, handlers⟩ := changed
      refine ⟨?_, ?_⟩
      · rw [listeners]
        exact List.nodup_cons.mpr ⟨unknown, sound.distinct⟩
      · rw [listeners, handlers]
        exact (List.perm_append_singleton name wiring.handlers).trans (sound.same.cons name)
  | removeLoadListener name =>
    subst about
    have changed := answers.removed.2
    split at changed
    · obtain ⟨listeners, handlers⟩ := changed
      refine ⟨?_, ?_⟩
      · rw [listeners]
        exact sound.distinct.erase name
      · rw [listeners, handlers]
        exact sound.same.erase name
    · rw [changed]
      exact sound
  | _ =>
    obtain ⟨listeners, handlers⟩ := answers.quiet (by rw [about]; rfl)
    exact ⟨by rw [listeners]; exact sound.distinct, by rw [listeners, handlers]; exact sound.same⟩

/-- A request matters to the listener that it is about, and to no other. -/
theorem Answers.mem (answers : wiring.Answers request reply after) (sound : wiring.Sound) (name : String) :
    name ∈ after.handlers ↔
      if request.listener? = some name then request = .addLoadListener name else name ∈ wiring.handlers := by
  cases about : request with
  | addLoadListener other =>
    subst about
    have changed := answers.added.2
    by_cases same : other = name
    · subst same
      split at changed
      · rename_i known
        simpa [PageRequest.listener?, changed] using (sound.mem other).mpr known
      · simp [PageRequest.listener?, changed.2]
    · have apart : name ≠ other := fun equal => same equal.symm
      split at changed
      · simp [PageRequest.listener?, changed, same]
      · simp [PageRequest.listener?, changed.2, same, apart]
  | removeLoadListener other =>
    subst about
    have distinct := sound.same.nodup_iff.mpr sound.distinct
    have changed := answers.removed.2
    by_cases same : other = name
    · subst same
      split at changed
      · simpa [PageRequest.listener?, changed.2] using distinct.not_mem_erase
      · rename_i unknown
        simpa [PageRequest.listener?, changed] using fun inside => unknown ((sound.mem other).mp inside)
    · have apart : name ≠ other := fun equal => same equal.symm
      split at changed
      · simpa [PageRequest.listener?, changed.2, same] using List.mem_erase_of_ne apart
      · simp [PageRequest.listener?, changed, same]
  | _ => rw [(answers.quiet (by rw [about]; rfl)).2, if_neg nofun]

theorem Serves.sound (serves : wiring.Serves replies after) (sound : wiring.Sound) : after.Sound := by
  induction serves with
  | done => exact sound
  | next answers rest ih => exact ih (answers.sound sound)

/-- What the last request about a listener has said, holds. -/
theorem Serves.mem (serves : wiring.Serves replies after) (sound : wiring.Sound) (name : String) :
    name ∈ after.handlers ↔
      match last? name (replies.map (·.1)) with
      | some request => request = .addLoadListener name
      | none => name ∈ wiring.handlers := by
  induction serves with
  | done => rfl
  | @next wiring between after request reply replies answers rest ih =>
    have latest : last? name (((request, reply) :: replies).map (·.1)) =
        (last? name (replies.map (·.1))).or (if request.listener? = some name then some request else none) := by
      rw [last?, last?, List.map_cons, List.filter_cons]
      by_cases about : request.listener? = some name
      · simp [about, List.getLast?_cons]
      · simp [about]
    rw [ih (answers.sound sound), latest]
    cases last? name (replies.map (·.1)) with
    | some request => rfl
    | none =>
      rw [Option.none_or]
      refine (answers.mem sound name).trans ?_
      by_cases about : request.listener? = some name
      · rw [if_pos about, if_pos about]
      · rw [if_neg about, if_neg about]

theorem Serves.quiet (serves : wiring.Serves replies after) (quiet : ∀ pair ∈ replies, pair.1.listener? = none) :
    after.adapter.listeners = wiring.adapter.listeners ∧ after.handlers = wiring.handlers := by
  induction serves with
  | done => exact ⟨rfl, rfl⟩
  | next answers rest ih =>
    obtain ⟨listeners, handlers⟩ := answers.quiet (quiet _ List.mem_cons_self)
    obtain ⟨kept, same⟩ := ih fun pair member => quiet pair (List.mem_cons_of_mem _ member)
    exact ⟨kept.trans listeners, same.trans handlers⟩

theorem Answers.granted (wiring : Wiring) {request : PageRequest} {sent : PageRequest}
    (sends : wiring.adapter.forward? request = some sent) :
    wiring.Answers request (.ok .nothing) ⟨wiring.adapter.granted sent, wiring.reached sent⟩ :=
  .sent (.ok .nothing) sends fun _ => rfl

/-- Whatever is added and removed, the adapter and the page follow. -/
theorem exists_served (requests : List PageRequest) (wiring : Wiring) :
    ∃ later, wiring.Serves (requests.map fun request => (request, .ok .nothing)) later := by
  induction requests generalizing wiring with
  | nil => exact ⟨wiring, .done wiring⟩
  | cons request requests ih =>
    cases sends : wiring.adapter.forward? request with
    | none =>
      obtain ⟨later, rest⟩ := ih wiring
      exact ⟨later, .next (.held sends) rest⟩
    | some sent =>
      obtain ⟨later, rest⟩ := ih ⟨wiring.adapter.granted sent, wiring.reached sent⟩
      exact ⟨later, .next (.granted wiring sends) rest⟩

theorem runScript_listeners (tab : Rehearsal.Tab) (script : PageScript) :
    (tab.runScript script).2.listeners = tab.listeners := by
  cases script with
  | find selector =>
    rw [Rehearsal.Tab.runScript]
    split <;> rfl
  | _ => rfl

theorem reply_listeners {tab : Rehearsal.Tab} (removes : tab.isSticky = false) (adapter : Adapter)
    (request : PageRequest) :
    (tab.reply request).2.listeners = reached ⟨adapter, tab.listeners⟩ request ∧
      (request.listener?.isSome → (tab.reply request).1 = .ok .nothing) := by
  cases request with
  | run script => exact ⟨runScript_listeners tab script, nofun⟩
  | removeLoadListener name => exact ⟨by simp [Rehearsal.Tab.reply, removes, reached], fun _ => rfl⟩
  | addLoadListener name => exact ⟨rfl, fun _ => rfl⟩
  | _ =>
    refine ⟨?_, nofun⟩
    rw [Rehearsal.Tab.reply]
    split <;> rfl

theorem sleep_page (scene : Rehearsal.Scene) (seconds : Float) : (scene.sleep seconds).page = scene.page := by
  rw [Rehearsal.Scene.sleep]
  split <;> rfl

/-- A tab that is rehearsed with is such a page, unless it has been told to keep its listeners. -/
theorem answers_ask {scene : Rehearsal.Scene} {adapter : Adapter} (adapted : scene.page.adapter = some adapter)
    (removes : scene.page.tab.isSticky = false) (request : PageRequest) :
    ∃ known, (scene.ask request).2.page.adapter = some known ∧
      Answers ⟨adapter, scene.page.tab.listeners⟩ request (scene.ask request).1
        ⟨known, (scene.ask request).2.page.tab.listeners⟩ := by
  have forwards : scene.page.forward? request = adapter.forward? request := by
    unfold Rehearsal.Page.forward?
    rw [adapted]
  cases sends : adapter.forward? request with
  | none =>
    rw [Rehearsal.Scene.ask, forwards, sends]
    exact ⟨adapter, adapted, .held sends⟩
  | some sent =>
    let noted := scene.page.note sent
    have replied : (scene.ask request).1 = (noted.reply sent false).1 ∧
        (scene.ask request).2.page = (noted.reply sent false).2 := by
      rw [Rehearsal.Scene.ask, forwards, sends]
      simp only [sleep_page]
      exact ⟨rfl, rfl⟩
    have settled : noted.reply sent false = ((adapter.settle sent (noted.tab.reply sent).1).2,
        { noted with
          tab := (noted.tab.reply sent).2, adapter := some (adapter.settle sent (noted.tab.reply sent).1).1 }) := by
      have same : noted.adapter = some adapter := adapted
      simp only [Rehearsal.Page.reply, same, Bool.false_eq_true, if_false]
    obtain ⟨listeners, atOnce⟩ := @reply_listeners noted.tab removes adapter sent
    rw [replied.1, replied.2, settled]
    refine ⟨_, rfl, ?_⟩
    dsimp only
    rw [listeners]
    exact .sent _ sends atOnce

theorem sound_unused : Sound {} := ⟨.nil, .nil⟩

theorem Serves.count (serves : Serves {} replies after) (name : String) :
    after.handlers.count name = if last? name (replies.map (·.1)) = some (.addLoadListener name) then 1 else 0 := by
  have here := serves.mem sound_unused name
  rw [(serves.sound sound_unused).count]
  congr 1
  rw [eq_iff_iff, here]
  cases last? name (replies.map (·.1)) with
  | some request => simp
  | none => simp

/-- The one listener that there can be is there, or there is none. -/
structure Holds (wiring : Wiring) (names : List String) : Prop where
  listeners : wiring.adapter.listeners = names
  handlers : wiring.handlers = names

theorem Holds.answered {names : List String} (holds : wiring.Holds names)
    (answers : wiring.Answers request reply after) (other : request.listener? = none) : after.Holds names := by
  obtain ⟨listeners, handlers⟩ := answers.quiet other
  exact ⟨listeners.trans holds.listeners, handlers.trans holds.handlers⟩

theorem Holds.quiet {names : List String} (holds : wiring.Holds names) (serves : wiring.Serves replies after)
    (quiet : ∀ pair ∈ replies, pair.1.listener? = none) : after.Holds names := by
  obtain ⟨listeners, handlers⟩ := serves.quiet quiet
  exact ⟨listeners.trans holds.listeners, handlers.trans holds.handlers⟩

theorem Holds.added {name : String} (holds : wiring.Holds [])
    (answers : wiring.Answers (.addLoadListener name) reply after) : reply = .ok .nothing ∧ after.Holds [name] := by
  obtain ⟨granted, changed⟩ := answers.added
  rw [holds.listeners, if_neg List.not_mem_nil, holds.handlers] at changed
  exact ⟨granted, changed.1, changed.2⟩

theorem Holds.removed {name : String} (holds : wiring.Holds [name])
    (answers : wiring.Answers (.removeLoadListener name) reply after) : reply = .ok .nothing ∧ after.Holds [] := by
  obtain ⟨granted, changed⟩ := answers.removed
  rw [holds.listeners, if_pos List.mem_cons_self, holds.handlers, List.erase_cons_head] at changed
  exact ⟨granted, changed.1, changed.2⟩

end Wiring

end BrowserFlow
