import BrowserFlow.Proofs.Record.Run

/-!
All that one operation of a recorder can do, in a run without interleaving.
-/

namespace BrowserFlow

namespace World

theorem Later.refl (w : World) : w.Later w := ⟨rfl, Nat.le_refl _⟩

theorem Later.trans {first second third : World} (h : first.Later second) (h' : second.Later third) :
    first.Later third := ⟨h'.ids.trans h.ids, Nat.le_trans h.idsUsed h'.idsUsed⟩

theorem Passes.refl (w : World) : w.Passes w := ⟨.refl w, rfl⟩

theorem Passes.trans {first second third : World} (h : first.Passes second) (h' : second.Passes third) :
    first.Passes third := ⟨h.toLater.trans h'.toLater, h'.files.trans h.files⟩

theorem passes_freshId (w : World) : w.Passes w.freshId.2 := ⟨⟨rfl, Nat.le_succ _⟩, rfl⟩

theorem Later.used {w after : World} (later : w.freshId.2.Later after) : w.idsUsed < after.idsUsed := later.idsUsed

theorem later_onFiles {α : Type} (w : World) (action : FileM α) : w.Later (w.onFiles action).2 := ⟨rfl, Nat.le_refl _⟩

theorem onFiles_eq {α : Type} {w : World} {action : FileM α} {result : Except Fault α} {files : Files}
    (outcome : action.outcome w.files = (result, files)) : w.onFiles action = (result, { w with files }) :=
  congrArg (fun run => (run.1, { w with files := run.2 })) outcome

theorem onFiles_ok {α : Type} {w : World} {action : FileM α} {a : α} (done : (w.onFiles action).1 = .ok a) :
    action.outcome w.files = (.ok a, (w.onFiles action).2.files) := Prod.ext done rfl

end World

namespace Recorder

theorem Ends.of_finish {r r' : Recorder} {w after : World} {result result' : Except Fault Outcome}
    {replies : List (PageRequest × Reply)} (ends : Ends (r, w, .finish result) replies result' r' after) :
    result' = result ∧ r' = r ∧ after = w ∧ replies = [] := by
  cases ends
  exact ⟨rfl, rfl, rfl, rfl⟩

theorem Ends.of_ask {r r' : Recorder} {w after : World} {request : PageRequest} {pending : Pending}
    {result : Except Fault Outcome} {replies : List (PageRequest × Reply)}
    (ends : Ends (r, w, .ask request pending) replies result r' after) :
    ∃ w' reply rest, replies = (request, reply) :: rest ∧ w.Passes w' ∧
      Ends (r.step w' pending reply) rest result r' after := by
  cases ends with
  | ask passes next => exact ⟨_, _, _, rfl, passes, next⟩

theorem Ends.reply {r r' : Recorder} {w after : World} {request : PageRequest} {pending : Pending} (reply : Reply)
    {replies : List (PageRequest × Reply)} {result : Except Fault Outcome}
    (next : Ends (r.step w pending reply) replies result r' after) :
    Ends (r, w, .ask request pending) ((request, reply) :: replies) result r' after := .ask (.refl w) next

/-- A recording with one more action, and so many more steps by hand. -/
def grown (action : Action) (count : Nat) (x : Recording) : Recording :=
  { x.append action with manualSteps := x.manualSteps + count }

def appendTo (r : Recorder) (id : String) (action : Action) (count : Nat) : Recorder :=
  r.update id (grown action count)

def touched (x : Recording) (now : Instant) : Recording := { x with updatedAt := now }

def touch (r : Recorder) (x : Recording) (now : Instant) : Recorder := r.update x.id fun _ => touched x now

/-- The recorder with a recording that has begun on a page. -/
def begin (r : Recorder) (w : World) (name description : Option Value) (targetSite : Option String) : Recorder :=
  let recording := Recording.begun (w.ids.id w.idsUsed) w.now name description
  { r with state := .recording, recordings := r.recordings ++ [{ recording with targetSite }],
           current := some (w.ids.id w.idsUsed), hasPage := true }

@[simp] theorem appendTo_current (r : Recorder) (id : String) (action : Action) (count : Nat) :
    (r.appendTo id action count).current = r.current := rfl

@[simp] theorem touch_current (r : Recorder) (x : Recording) (now : Instant) : (r.touch x now).current = r.current := rfl

@[simp] theorem begin_current (r : Recorder) (w : World) (name description : Option Value) (targetSite : Option String) :
    (r.begin w name description targetSite).current = some (w.ids.id w.idsUsed) := rfl

/-- What an operation can do to a recorder. -/
inductive Effect (r : Recorder) (w : World) : Call → Except Fault Outcome → Recorder → World → Prop
  | refused (call : Call) (fault : Fault) {after : World} (passes : w.Passes after) :
      Effect r w call (.error fault) r after
  | dropped {call : Call} (capture : call.isCapture = true) : Effect r w call (.ok .dropped) r w
  | loaded {after : World} (passes : w.Passes after) : Effect r w .load (.ok .done) r after
  | paused (recording : r.state = .recording) : Effect r w .pause (.ok .done) { r with state := .paused } w
  | resumed (paused : r.state = .paused) : Effect r w .resume (.ok .done) { r with state := .recording } w
  | started {name description : Option Value} (targetSite : Option String) {after : World} (idle : r.state = .idle)
      (passes : w.freshId.2.Passes after) : Effect r w (.start name description) (.ok (.started (w.ids.id w.idsUsed)))
        (r.begin w name description targetSite) after
  | notStarted {name description : Option Value} (targetSite : Option String) (fault : Fault) {after : World}
      (idle : r.state = .idle) (passes : w.freshId.2.Passes after) :
      Effect r w (.start name description) (.error fault) (r.begin w name description targetSite).reset after
  | recorded {call : Call} {id : String} {action : Action} {after : World} (capture : call.isCapture = true)
      (recording : r.state = .recording) (current : r.current = some id) (valid : action.validate = .ok action)
      (passes : w.Passes after) :
      Effect r w call (.ok (.appended action)) (r.appendTo id action 0) after
  | stepped {description : Value} {id : String} {action : Action} {after : World} (active : r.state ≠ .idle)
      (current : r.current = some id) (byHand : action.kind = .manualStep) (valid : action.validate = .ok action)
      (passes : w.Passes after) :
      Effect r w (.manualStep description) (.ok (.appended action)) (r.appendTo id action 1) after
  | notStopped {x : Recording} {after : World} (fault : Fault) (current : r.current? = some x) (later : w.Later after) :
      Effect r w .stop (.error fault) (r.touch x w.now) after
  | stopped {x : Recording} {after : World} {script : String} {path : Path} (active : r.state ≠ .idle)
      (current : r.current? = some x) (rendered : Script.ofRecording (touched x w.now) = .ok script)
      (named : r.store.path x.id = .ok path)
      (written : after.files.find path = .ok (some (.file (Utf8.encode script.toList)))) (later : w.Later after) :
      Effect r w .stop (.ok (.stopped x.id)) (r.touch x w.now).reset after

theorem validate_ok {a b : Action} (valid : a.validate = .ok b) : b = a := by
  unfold Action.validate at valid
  split at valid
  · cases valid
  · exact (Except.ok.inj valid).symm

theorem append_ends {r r' : Recorder} {w after : World} {action : Action} {count : Nat}
    {replies : List (PageRequest × Reply)} {result : Except Fault Outcome}
    (ends : Ends (r.append w action count) replies result r' after) : after = w ∧
      ((∃ fault, result = .error fault ∧ r' = r) ∨ ∃ id, r.current = some id ∧ action.validate = .ok action ∧
        result = .ok (.appended action) ∧ r' = r.appendTo id action count) := by
  unfold append at ends
  split at ends
  · obtain ⟨rfl, rfl, rfl, _⟩ := ends.of_finish
    exact ⟨rfl, .inl ⟨_, rfl, rfl⟩⟩
  · obtain ⟨rfl, rfl, rfl, _⟩ := ends.of_finish
    exact ⟨rfl, .inl ⟨_, rfl, rfl⟩⟩
  · rename_i id checked current valid
    obtain ⟨rfl, rfl, rfl, _⟩ := ends.of_finish
    have same := validate_ok valid
    subst same
    exact ⟨rfl, .inr ⟨id, current, valid, rfl, rfl⟩⟩

theorem recordAction_ends {r r' : Recorder} {w after : World} {kind : Value} {locator : Option Locator}
    {value description : Option Value} {replies : List (PageRequest × Reply)} {result : Except Fault Outcome}
    {call : Call} (capture : call.isCapture = true)
    (ends : Ends (r.recordAction w kind locator value description) replies result r' after) :
    Effect r w call result r' after := by
  unfold recordAction at ends
  split at ends
  · obtain ⟨rfl, rfl, rfl, _⟩ := ends.of_finish
    exact .dropped capture
  · rename_i recording
    have state : r.state = .recording := by simp_all
    split at ends
    · obtain ⟨w', reply, rest, rfl, passes, next⟩ := ends.of_ask
      cases reply with
      | error fault =>
        obtain ⟨rfl, rfl, rfl, _⟩ := next.of_finish
        exact .refused call fault passes
      | ok answer =>
        obtain ⟨rfl, ⟨fault, rfl, rfl⟩ | ⟨id, current, valid, rfl, rfl⟩⟩ := append_ends next
        · exact .refused call fault (passes.trans (World.passes_freshId w'))
        · exact .recorded capture state current valid (passes.trans (World.passes_freshId w'))
    · obtain ⟨rfl, rfl, rfl, _⟩ := ends.of_finish
      exact .refused call _ (.refl _)

theorem recordAction_dropped {r r' : Recorder} {w after : World} {kind : Value} {locator : Option Locator}
    {value description : Option Value} {replies : List (PageRequest × Reply)} {result : Except Fault Outcome}
    (other : r.state ≠ .recording)
    (ends : Ends (r.recordAction w kind locator value description) replies result r' after) : result = .ok .dropped := by
  have off : (r.state != .recording || r.current.isNone || !r.hasPage) = true := by simp [other]
  rw [recordAction, if_pos off] at ends
  exact ends.of_finish.1

theorem handleEvent_ends {r r' : Recorder} {w after : World} {payload : String} {replies : List (PageRequest × Reply)}
    {result : Except Fault Outcome} (ends : Ends (r.handleEvent w payload) replies result r' after) :
    Effect r w (.event payload) result r' after := by
  unfold handleEvent at ends
  split at ends
  · exact recordAction_ends rfl ends
  · obtain ⟨rfl, rfl, rfl, _⟩ := ends.of_finish
    exact .dropped rfl

theorem handleEvent_dropped {r r' : Recorder} {w after : World} {payload : String}
    {replies : List (PageRequest × Reply)} {result : Except Fault Outcome} (other : r.state ≠ .recording)
    (ends : Ends (r.handleEvent w payload) replies result r' after) : result = .ok .dropped := by
  unfold handleEvent at ends
  split at ends
  · exact recordAction_dropped other ends
  · exact ends.of_finish.1

theorem askUrl_ends {r r' : Recorder} {w start after : World} {description : Value} {screenshot : Option String}
    {replies : List (PageRequest × Reply)} {result : Except Fault Outcome} (active : r.state ≠ .idle)
    (passes : w.Passes start) (ends : Ends (r.askUrl start (.stepUrl description screenshot)) replies result r' after) :
    Effect r w (.manualStep description) result r' after := by
  unfold askUrl at ends
  split at ends
  · obtain ⟨w', reply, rest, rfl, waited, next⟩ := ends.of_ask
    have passes := passes.trans waited
    cases reply with
    | error fault =>
      obtain ⟨rfl, rfl, rfl, _⟩ := next.of_finish
      exact .refused _ fault passes
    | ok answer =>
      obtain ⟨rfl, ⟨fault, rfl, rfl⟩ | ⟨id, current, valid, rfl, rfl⟩⟩ := append_ends next
      · exact .refused _ fault (passes.trans (World.passes_freshId w'))
      · exact .stepped active current rfl valid (passes.trans (World.passes_freshId w'))
  · obtain ⟨rfl, rfl, rfl, _⟩ := ends.of_finish
    exact .refused _ _ passes

theorem addManualStep_ends {r r' : Recorder} {w after : World} {description : Value}
    {replies : List (PageRequest × Reply)} {result : Except Fault Outcome}
    (ends : Ends (r.addManualStep w description) replies result r' after) :
    Effect r w (.manualStep description) result r' after := by
  unfold addManualStep at ends
  split at ends
  · obtain ⟨rfl, rfl, rfl, _⟩ := ends.of_finish
    exact .refused _ _ (.refl _)
  · rename_i on
    have active : r.state ≠ .idle := by
      intro idle
      simp [idle] at on
    split at ends
    · obtain ⟨w', reply, rest, rfl, waited, next⟩ := ends.of_ask
      cases reply with
      | ok answer => exact askUrl_ends active waited next
      | error fault =>
        -- an image that cannot be taken is left out, unless the operation is cancelled
        cases fault with
        | cancelled =>
          obtain ⟨rfl, rfl, rfl, _⟩ := next.of_finish
          exact .refused _ _ waited
        | _ => exact askUrl_ends active waited next
    · exact askUrl_ends active (.refl w) ends

theorem afterLoad_ends {r r' : Recorder} {w after : World} {replies : List (PageRequest × Reply)}
    {result : Except Fault Outcome} (ends : Ends (r.afterLoad w) replies result r' after) :
    Effect r w .load result r' after := by
  unfold afterLoad at ends
  split at ends
  · obtain ⟨rfl, rfl, rfl, _⟩ := ends.of_finish
    exact .loaded (.refl _)
  · obtain ⟨w', reply, rest, rfl, waited, next⟩ := ends.of_ask
    cases reply with
    | ok answer =>
      obtain ⟨rfl, rfl, rfl, _⟩ := next.of_finish
      exact .loaded waited
    | error fault =>
      cases fault with
      | cancelled =>
        obtain ⟨rfl, rfl, rfl, _⟩ := next.of_finish
        exact .refused _ _ waited
      | _ =>
        obtain ⟨rfl, rfl, rfl, _⟩ := next.of_finish
        exact .loaded waited

theorem pause_ends {r r' : Recorder} {w after : World} {replies : List (PageRequest × Reply)}
    {result : Except Fault Outcome} (ends : Ends (r.settle w r.pause) replies result r' after) :
    Effect r w .pause result r' after := by
  unfold pause at ends
  split at ends
  · rename_i recording
    obtain ⟨rfl, rfl, rfl, _⟩ := ends.of_finish
    exact .paused (beq_iff_eq.mp recording)
  · obtain ⟨rfl, rfl, rfl, _⟩ := ends.of_finish
    exact .refused _ _ (.refl _)

theorem resume_ends {r r' : Recorder} {w after : World} {replies : List (PageRequest × Reply)}
    {result : Except Fault Outcome} (ends : Ends (r.settle w r.resume) replies result r' after) :
    Effect r w .resume result r' after := by
  unfold resume at ends
  split at ends
  · rename_i paused
    obtain ⟨rfl, rfl, rfl, _⟩ := ends.of_finish
    exact .resumed (beq_iff_eq.mp paused)
  · obtain ⟨rfl, rfl, rfl, _⟩ := ends.of_finish
    exact .refused _ _ (.refl _)

theorem stop_eq {r : Recorder} {w : World} {x : Recording} (active : r.state ≠ .idle) (current : r.current? = some x) :
    r.stop w = match Script.ofRecording x with
    | .error fault => (r.touch x w.now, w, .finish (.error fault))
    | .ok script =>
      match (w.onFiles (r.store.write x.id script)).1 with
      | .error fault => (r.touch x w.now, (w.onFiles (r.store.write x.id script)).2, .finish (.error fault))
      | .ok _ =>
        if r.hasPage then (r.touch x w.now, (w.onFiles (r.store.write x.id script)).2,
          .ask (.removeLoadListener loadListener) (.stopListen x.id))
        else ((r.touch x w.now).reset, (w.onFiles (r.store.write x.id script)).2, .finish (.ok (.stopped x.id))) := by
  unfold stop
  split
  · contradiction
  · simp_all
  · rename_i shown _
    cases current.symm.trans shown
    -- the script does not depend on when the recording was last touched
    rfl

theorem stop_cases (r : Recorder) (w : World) :
    r.stop w = (r, w, .finish (.error (r.notRecording "Cannot stop: not recording"))) ∨
      ∃ x, r.state ≠ .idle ∧ r.current? = some x := by
  unfold stop
  split
  · exact .inl rfl
  · exact .inl rfl
  · rename_i x current active
    exact .inr ⟨x, active, current⟩

theorem stop_ends {r r' : Recorder} {w after : World} {replies : List (PageRequest × Reply)}
    {result : Except Fault Outcome} (ends : Ends (r.stop w) replies result r' after) :
    Effect r w .stop result r' after := by
  rcases stop_cases r w with refused | ⟨x, active, current⟩
  · rw [refused] at ends
    obtain ⟨rfl, rfl, rfl, _⟩ := ends.of_finish
    exact .refused _ _ (.refl _)
  · rw [stop_eq active current] at ends
    split at ends
    · obtain ⟨rfl, rfl, rfl, _⟩ := ends.of_finish
      exact .notStopped _ current (.refl _)
    · rename_i script rendered
      have rendered : Script.ofRecording (touched x w.now) = .ok script := rendered
      have moved := World.later_onFiles w (r.store.write x.id script)
      split at ends
      · rename_i fault failed
        obtain ⟨rfl, rfl, rfl, _⟩ := ends.of_finish
        exact .notStopped fault current moved
      · rename_i written
        obtain ⟨path, named, kept⟩ := ScriptStore.write_ok (World.onFiles_ok written)
        split at ends
        · obtain ⟨w₁, reply, rest, rfl, waited, next⟩ := ends.of_ask
          cases reply with
          | error fault =>
            obtain ⟨rfl, rfl, rfl, _⟩ := next.of_finish
            exact .notStopped fault current (moved.trans waited.toLater)
          | ok answer =>
            obtain ⟨w₂, reply, rest, rfl, waited', next⟩ := next.of_ask
            have waited := waited.trans waited'
            have stays : w₂.files.find path = .ok (some (.file (Utf8.encode script.toList))) := by
              rw [waited.files]
              exact kept
            have stopped : Effect r w .stop (.ok (.stopped x.id)) (r.touch x w.now).reset w₂ :=
              .stopped active current rendered named stays (moved.trans waited.toLater)
            cases reply with
            | ok answer =>
              obtain ⟨rfl, rfl, rfl, _⟩ := next.of_finish
              exact stopped
            | error fault =>
              -- a listener that cannot be taken out of the page stays there, unless the operation is cancelled
              cases fault with
              | cancelled =>
                obtain ⟨rfl, rfl, rfl, _⟩ := next.of_finish
                exact .notStopped _ current (moved.trans waited.toLater)
              | _ =>
                obtain ⟨rfl, rfl, rfl, _⟩ := next.of_finish
                exact stopped
        · obtain ⟨rfl, rfl, rfl, _⟩ := ends.of_finish
          exact .stopped active current rendered named kept moved

/-- When the script has been written, nothing holds up the stop, unless the listener for loads stays or the stop is
    cancelled. -/
theorem stop_written {r : Recorder} {w : World} {x : Recording} {script : String} (active : r.state ≠ .idle)
    (current : r.current? = some x) (page : r.hasPage = true) (rendered : Script.ofRecording x = .ok script)
    (written : (w.onFiles (r.store.write x.id script)).1 = .ok ()) (first : Answer) {second : Reply}
    (uncancelled : second ≠ .error .cancelled) :
    Ends (r.stop w) [(.removeLoadListener loadListener, .ok first), (.run .uninstall, second)]
      (.ok (.stopped x.id)) (r.touch x w.now).reset (w.onFiles (r.store.write x.id script)).2 := by
  have asks : r.stop w = (r.touch x w.now, (w.onFiles (r.store.write x.id script)).2,
      .ask (.removeLoadListener loadListener) (.stopListen x.id)) := by
    simp only [stop_eq active current, rendered, written, page, if_true]
  rw [asks]
  refine .reply (.ok first) (.reply second ?_)
  cases second with
  | ok answer => exact .finish _ _ _
  | error fault => cases fault with
    | cancelled => contradiction
    | _ => exact .finish _ _ _

theorem stops {r : Recorder} {w : World} {x : Recording} {script : String} (active : r.state ≠ .idle)
    (current : r.current? = some x) (page : r.hasPage = true)
    (rendered : Script.ofRecording (touched x w.now) = .ok script)
    (written : (w.onFiles (r.store.write x.id script)).1 = .ok ()) (first second : Answer) :
    Ends (r.stop w) [(.removeLoadListener loadListener, .ok first), (.run .uninstall, .ok second)]
      (.ok (.stopped x.id)) (r.touch x w.now).reset (w.onFiles (r.store.write x.id script)).2 :=
  stop_written active current page rendered written first nofun

/-- The rest of a start: it succeeds, or the recorder is idle again. -/
structure Settles (r : Recorder) (w : World) (id : String) (result : Except Fault Outcome) (r' : Recorder)
    (after : World) : Prop where
  passes : w.Passes after
  settled : result = .ok (.started id) ∧ r' = r ∨ (∃ fault, result = .error fault) ∧ r' = r.reset

theorem failStart_ends {r r' : Recorder} {w after : World} {id : String} {fault : Fault}
    {replies : List (PageRequest × Reply)} {result : Except Fault Outcome}
    (ends : Ends (r.failStart w id fault) replies result r' after) : Settles r w id result r' after := by
  obtain ⟨rfl, rfl, rfl, _⟩ := ends.of_finish
  exact ⟨.refl _, .inr ⟨⟨_, rfl⟩, rfl⟩⟩

theorem startListen_ends {r r' : Recorder} {w after : World} {id : String} {reply : Reply}
    {replies : List (PageRequest × Reply)} {result : Except Fault Outcome}
    (ends : Ends (r.step w (.startListen id) reply) replies result r' after) : Settles r w id result r' after := by
  cases reply with
  | error fault => exact failStart_ends ends
  | ok answer =>
    obtain ⟨rfl, rfl, rfl, _⟩ := ends.of_finish
    exact ⟨.refl _, .inl ⟨rfl, rfl⟩⟩

theorem startInstall_ends {r r' : Recorder} {w after : World} {id : String} {reply : Reply}
    {replies : List (PageRequest × Reply)} {result : Except Fault Outcome}
    (ends : Ends (r.step w (.startInstall id) reply) replies result r' after) : Settles r w id result r' after := by
  cases reply with
  | error fault => exact failStart_ends ends
  | ok answer =>
    obtain ⟨w', reply, rest, rfl, waited, next⟩ := ends.of_ask
    have settles := startListen_ends next
    exact ⟨waited.trans settles.passes, settles.settled⟩

theorem startExpose_ends {r r' : Recorder} {w after : World} {id : String} {reply : Reply}
    {replies : List (PageRequest × Reply)} {result : Except Fault Outcome}
    (ends : Ends (r.step w (.startExpose id) reply) replies result r' after) : Settles r w id result r' after := by
  cases reply with
  | error fault => exact failStart_ends ends
  | ok answer =>
    obtain ⟨w', reply, rest, rfl, waited, next⟩ := ends.of_ask
    have settles := startInstall_ends next
    exact ⟨waited.trans settles.passes, settles.settled⟩

/-- No earlier recording has the id that comes next. -/
def Unclaimed (r : Recorder) (w : World) : Prop := ∀ x ∈ r.recordings, x.id ≠ w.ids.id w.idsUsed

theorem begin_update {r : Recorder} {w : World} (unclaimed : r.Unclaimed w) (name description : Option Value)
    (url : String) : (r.begin w name description none).update (w.ids.id w.idsUsed) (fun x =>
      { x with targetSite := some url }) = r.begin w name description (some url) := by
  have others : r.recordings.map (fun x => if x.id == w.ids.id w.idsUsed then { x with targetSite := some url } else x) =
      r.recordings := by
    rw [List.map_congr_left (g := id)]
    · exact List.map_id _
    · intro x member
      have other : (x.id == w.ids.id w.idsUsed) = false := beq_eq_false_iff_ne.mpr (unclaimed x member)
      rw [other]
      rfl
  simp only [begin, update, List.map_append, others]
  simp [Recording.begun]

theorem start_ends {r r' : Recorder} {w after : World} {name description : Option Value} (unclaimed : r.Unclaimed w)
    {replies : List (PageRequest × Reply)} {result : Except Fault Outcome}
    (ends : Ends (r.start w name description) replies result r' after) :
    Effect r w (.start name description) result r' after := by
  unfold start at ends
  split at ends
  · obtain ⟨rfl, rfl, rfl, _⟩ := ends.of_finish
    exact .refused _ _ (.refl _)
  · rename_i notActive
    have idle : r.state = .idle := by simpa using notActive
    obtain ⟨w₁, reply, rest, rfl, waited, next⟩ := ends.of_ask
    cases reply with
    | error fault =>
      obtain ⟨rfl, rfl, rfl, _⟩ := next.of_finish
      exact .notStarted none _ idle waited
    | ok answer =>
      have noted : ∃ site, Ends (r.begin w name description site, w₁,
          .ask (.expose PageCode.bindingName) (.startExpose (w.ids.id w.idsUsed))) rest result r' after := by
        cases site : targetSite? answer with
        | none =>
          simp only [step, site] at next
          exact ⟨none, next⟩
        | some url =>
          simp only [step, site] at next
          exact ⟨some url, by rw [← begin_update unclaimed]; exact next⟩
      obtain ⟨site, next⟩ := noted
      obtain ⟨w₂, reply, rest, rfl, waited', next⟩ := next.of_ask
      obtain ⟨passes, ⟨rfl, rfl⟩ | ⟨⟨fault, rfl⟩, rfl⟩⟩ := startExpose_ends next
      · exact .started site idle (waited.trans (waited'.trans passes))
      · exact .notStarted site fault idle (waited.trans (waited'.trans passes))

theorem starts {r : Recorder} {w : World} (idle : r.state = .idle) (unclaimed : r.Unclaimed w)
    (name description : Option Value) (first second third fourth : Answer) :
    Ends (r.start w name description)
      [(.url, .ok first), (.expose PageCode.bindingName, .ok second), (.run .install, .ok third),
        (.addLoadListener loadListener, .ok fourth)]
      (.ok (.started (w.ids.id w.idsUsed))) (r.begin w name description (targetSite? first)) w.freshId.2 := by
  have asks : r.start w name description = (r.begin w name description none, w.freshId.2,
      .ask .url (.startUrl (w.ids.id w.idsUsed))) := by
    rw [start, if_neg (by simp [idle])]
    rfl
  have noted : (r.begin w name description none).step w.freshId.2 (.startUrl (w.ids.id w.idsUsed)) (.ok first) =
      (r.begin w name description (targetSite? first), w.freshId.2,
        .ask (.expose PageCode.bindingName) (.startExpose (w.ids.id w.idsUsed))) := by
    rw [step]
    cases site : targetSite? first with
    | none => rfl
    | some url =>
      dsimp only
      rw [begin_update unclaimed]
  rw [asks]
  refine .reply (.ok first) ?_
  rw [noted]
  exact .reply (.ok second) (.reply (.ok third) (.reply (.ok fourth) (.finish _ _ _)))

/-- A run that has begun, on a page that says nothing of itself. -/
theorem Reaches.begun (store : ScriptStore) (takesScreenshots : Bool) (w : World) :
    Reaches store takesScreenshots w [⟨.start none none, .idle, .ok (.started (w.ids.id w.idsUsed))⟩]
      ((Recorder.fresh store takesScreenshots).begin w none none none) w.freshId.2 :=
  .call (.start none none) [] .fresh (by simp)
    (starts rfl (by simp [Unclaimed, Recorder.fresh]) none none .nothing .nothing .nothing .nothing)

theorem ofValue_word (kind : ActionKind) : ActionKind.ofValue (.str kind.word) = .ok kind := by
  cases kind <;> rfl

theorem recordAction_appends {r : Recorder} {w : World} {id : String} (recording : r.state = .recording)
    (current : r.current = some id) (page : r.hasPage = true) (kind : ActionKind) {locator : Option Locator}
    {value description : Option Value} (answer : Answer) {action : Action}
    (made : action =
      { kind, pageUrl := pageUrl answer, locator, value, description, time := w.freshId.2.now, id := w.freshId.1 })
    (valid : action.validate = .ok action) :
    Ends (r.recordAction w (.str kind.word) locator value description) [(.url, .ok answer)] (.ok (.appended action))
      (r.appendTo id action 0) w.freshId.2 := by
  have asks : r.recordAction w (.str kind.word) locator value description =
      (r, w, .ask .url (.actionUrl kind locator value description)) := by
    rw [recordAction, if_neg (by simp [recording, current, page]), ofValue_word]
  have appended : r.step w (.actionUrl kind locator value description) (.ok answer) =
      (r.appendTo id action 0, w.freshId.2, .finish (.ok (.appended action))) := by
    rw [step]
    dsimp only
    rw [append, ← made, current, valid]
    rfl
  rw [asks]
  refine .reply (.ok answer) ?_
  rw [appended]
  exact .finish _ _ _

theorem Call.effect {r r' : Recorder} {w after : World} {call : Call} (unclaimed : r.Unclaimed w)
    {replies : List (PageRequest × Reply)} {result : Except Fault Outcome}
    (ends : Ends (call.begin r w) replies result r' after) : Effect r w call result r' after := by
  cases call with
  | start name description => exact start_ends unclaimed ends
  | pause => exact pause_ends ends
  | resume => exact resume_ends ends
  | record kind locator value description => exact recordAction_ends rfl ends
  | event payload => exact handleEvent_ends ends
  | manualStep description => exact addManualStep_ends ends
  | stop => exact stop_ends ends
  | load => exact afterLoad_ends ends

namespace Effect

variable {r r' : Recorder} {w after : World} {call : Call} {result : Except Fault Outcome}
  (effect : Effect r w call result r' after)

include effect

theorem later : w.Later after := by
  cases effect with
  | dropped | paused | resumed => exact .refl w
  | started _ _ passes | notStarted _ _ _ passes => exact (World.passes_freshId w).toLater.trans passes.toLater
  | notStopped _ _ later | stopped _ _ _ _ _ later => exact later
  | refused _ _ passes | loaded passes | recorded _ _ _ _ passes | stepped _ _ _ _ passes => exact passes.toLater

/-- Only a stop changes files. -/
theorem files (other : call ≠ .stop) : after.files = w.files := by
  cases effect with
  | dropped | paused | resumed => rfl
  | notStopped | stopped => contradiction
  | started _ _ passes | notStarted _ _ _ passes => exact passes.files
  | refused _ _ passes | loaded passes | recorded _ _ _ _ passes | stepped _ _ _ _ passes => exact passes.files

theorem store : r'.store = r.store := by cases effect <;> rfl

theorem current : r'.current = r.current ∨ r'.current = none ∨ r'.current = some (w.ids.id w.idsUsed) := by
  cases effect with
  | started => exact .inr (.inr rfl)
  | notStarted | stopped => exact .inr (.inl rfl)
  | refused | dropped | loaded | paused | resumed | recorded | stepped | notStopped => exact .inl rfl

end Effect

theorem Call.dropped {r r' : Recorder} {w after : World} {call : Call} (capture : call.isCapture = true)
    (other : r.state ≠ .recording) {replies : List (PageRequest × Reply)} {result : Except Fault Outcome}
    (ends : Ends (call.begin r w) replies result r' after) : result = .ok .dropped := by
  cases call with
  | record kind locator value description => exact recordAction_dropped other ends
  | event payload => exact handleEvent_dropped other ends
  | _ => cases capture

end Recorder

end BrowserFlow
