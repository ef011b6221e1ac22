import BrowserFlow.Proofs.Record.Ownership

/-!
What a stop stores while other operations are under way. The script has the actions that the recording has when the
stop begins; what is appended while the stop waits for the page is in the recording that it returns, but not in the
script.
-/

namespace BrowserFlow.Recorder

theorem announce_appended {observers : List Observer} {result : Except Fault Outcome} {action : Action}
    (reported : hear observers result = .ok (.appended action)) : result = .ok (.appended action) := by
  unfold hear at reported
  split at reported
  · rename_i own
    cases told : announce observers own with
    | error fault =>
      rw [told] at reported
      cases reported
    | ok done =>
      rw [told] at reported
      exact reported
  · exact reported

namespace Course

variable {c d c' : Course} {id : String} {notes before after : List Note} {note : Option Note}

theorem Noted.reported (consistent : Consistent c.recorder c.world) (noted : Noted c note c') {action : Action}
    (given : .ok (.appended action) ∈ c'.given) : .ok (.appended action) ∈ c.given ∨
      ∃ id, note = some (.appended id action) := by
  cases noted.turn consistent with
  | passes refusal recorder waiting same world => exact .inl (same ▸ given)
  | deed observers deed others recorder world waiting same =>
    rw [same, List.mem_append] at given
    rcases given with old | new
    · exact .inl old
    · right
      have told {result : Except Fault Outcome}
          (new : .ok (.appended action) ∈ (Step.finish result).given observers) : result = .ok (.appended action) :=
        announce_appended (List.mem_singleton.mp new).symm
      cases deed with
      | @other _ _ _ step _ _ _ _ _ _ unreported => cases step with
        | ask request p => cases new
        | finish result =>
          rw [told new] at unreported
          exact absurd rfl (unreported action)
      | appended own current count =>
        cases told new
        exact ⟨_, rfl⟩
      | begun | starting | persisted | stopping => cases new
      | started | abandoned | unwritten | interrupted | stopped => cases told new

theorem Noted.store_path (consistent : Consistent c.recorder c.world) (noted : Noted c note c') (id : String) :
    c'.recorder.store.path id = c.recorder.store.path id := by
  cases noted.turn consistent with
  | passes refusal recorder waiting given world => rw [recorder]; rfl
  | deed observers deed others recorder world waiting given => rw [recorder, deed.store]

/-- A script stays as it is unless it is written again or somebody else changes the files. -/
theorem Noted.keeps (consistent : Consistent c.recorder c.world) (noted : Noted c note c')
    (quiet : .disturbed ∉ note.toList) (once : ∀ actions, .persisted id actions ∉ note.toList) {path : Path}
    (named : c.recorder.store.path id = .ok path) {bytes : List UInt8}
    (held : c.world.files.find path = .ok (some (.file bytes))) :
    c'.world.files.find path = .ok (some (.file bytes)) := by
  cases noted.turn consistent with
  | passes refusal recorder waiting given world =>
    rcases world with ⟨_, passes⟩ | same
    · rw [passes.files, held]
    · rw [same] at quiet
      exact absurd (List.mem_singleton_self _) quiet
  | deed observers deed others recorder world waiting given =>
    rw [world]
    cases deed with
    | other _ _ _ _ passes _ _ => rw [passes.files, held]
    | @persisted x script current rendered written =>
      have apart : id ≠ x.id := by
        rintro rfl
        exact once _ (List.mem_singleton_self _)
      exact ScriptStore.write_keeps (World.onFiles_ok written) apart named held
    | _ => exact held

theorem Log.keeps (consistent : Consistent c.recorder c.world) (log : Log c notes d) (quiet : .disturbed ∉ notes)
    (once : ∀ actions, .persisted id actions ∉ notes) {path : Path} (named : c.recorder.store.path id = .ok path)
    {bytes : List UInt8} (held : c.world.files.find path = .ok (some (.file bytes))) :
    d.recorder.store.path id = .ok path ∧ d.world.files.find path = .ok (some (.file bytes)) := by
  induction log with
  | start => exact ⟨named, held⟩
  | move log noted ih =>
    have consistent := log.consistent consistent
    obtain ⟨named, held⟩ := ih (fun inside => quiet (List.mem_append_left _ inside))
      fun actions inside => once actions (List.mem_append_left _ inside)
    refine ⟨(noted.store_path consistent id).trans named, noted.keeps consistent ?_ ?_ named held⟩
    · exact fun inside => quiet (List.mem_append_right _ inside)
    · exact fun actions inside => once actions (List.mem_append_right _ inside)

/-- The recording is there, but not current any more. -/
def Gone (id : String) (c : Course) : Prop := c.recorder.current ≠ some id ∧ ∃ x, c.recorder.recording? id = some x

/-- No entry that only a current recording has. -/
def Untouched (id : String) (notes : List Note) : Prop :=
  (∀ action, .appended id action ∉ notes) ∧ ∀ actions, .persisted id actions ∉ notes

theorem Untouched.append {more : List Note} (untouched : Untouched id notes) (later : Untouched id more) :
    Untouched id (notes ++ more) := by
  constructor
  · exact fun action inside => (List.mem_append.mp inside).elim (untouched.1 action) (later.1 action)
  · exact fun actions inside => (List.mem_append.mp inside).elim (untouched.2 actions) (later.2 actions)

theorem actionsOf_eq_nil (unappended : ∀ action, .appended id action ∉ notes) : actionsOf id notes = [] := by
  refine List.filterMap_eq_nil_iff.mpr fun note member => ?_
  cases note with
  | appended other action =>
    by_cases same : other = id
    · exact absurd (same ▸ member) (unappended action)
    · exact if_neg same
  | _ => rfl

theorem Gone.turn (consistent : Consistent c.recorder c.world) (gone : Gone id c) (noted : Noted c note c') :
    Gone id c' ∧ Untouched id note.toList := by
  obtain ⟨elsewhere, there⟩ := gone
  have current := noted.current consistent
  constructor
  · refine ⟨fun back => ?_, noted.found there⟩
    cases note with
    | none => exact elsewhere (current.symm.trans back)
    | some n => cases n with
      | begun other =>
        -- the id of a new recording has not been used before
        obtain ⟨x, found⟩ := there
        have new := (noted.of_begun consistent).2.1
        cases current.symm.trans back
        exact consistent.unclaimed x (List.mem_of_find?_eq_some found) ((recording?_id found).trans new)
      | abandoned | stopped => cases current.symm.trans back
      | started | appended | persisted | disturbed => exact elsewhere (current.symm.trans back)
  · constructor
    · intro action inside
      cases Option.mem_toList.mp inside
      exact elsewhere (noted.of_appended consistent)
    · intro actions inside
      cases Option.mem_toList.mp inside
      exact elsewhere (noted.of_persisted consistent).1

theorem Log.gone (consistent : Consistent c.recorder c.world) (gone : Gone id c) (log : Log c notes d) :
    Gone id d ∧ Untouched id notes := by
  induction log with
  | start => exact ⟨gone, fun _ => List.not_mem_nil, fun _ => List.not_mem_nil⟩
  | move log noted ih =>
    obtain ⟨gone, untouched⟩ := ih
    obtain ⟨gone, later⟩ := gone.turn (log.consistent consistent) noted
    exact ⟨gone, untouched.append later⟩

/-- As long as nothing is begun, the recording that is current stays so or is taken away. -/
theorem Log.current_or_none (consistent : Consistent c.recorder c.world) (log : Log c notes d)
    (old : ∀ id, .begun id ∉ notes) : d.recorder.current = c.recorder.current ∨ d.recorder.current = none := by
  induction log with
  | start => exact .inl rfl
  | @move notes d e note log noted ih =>
    rw [noted.current (log.consistent consistent)]
    have before := ih fun id inside => old id (List.mem_append_left _ inside)
    cases note with
    | none => exact before
    | some n => cases n with
      | begun id => exact absurd (List.mem_append_right _ (List.mem_singleton_self _)) (old id)
      | abandoned | stopped => exact .inr rfl
      | started | appended | persisted | disturbed => exact before

/-- The last time that a recording has been written. -/
theorem last_persisted (there : ∃ actions, .persisted id actions ∈ notes) : ∃ first actions last,
    notes = first ++ .persisted id actions :: last ∧ ∀ others, .persisted id others ∉ last := by
  induction notes with
  | nil =>
    obtain ⟨_, member⟩ := there
    cases member
  | cons note notes ih =>
    by_cases later : ∃ actions, .persisted id actions ∈ notes
    · obtain ⟨first, actions, last, rfl, once⟩ := ih later
      exact ⟨note :: first, actions, last, rfl, once⟩
    · obtain ⟨actions, member⟩ := there
      rcases List.mem_cons.mp member with rfl | inside
      · exact ⟨[], actions, notes, rfl, fun others inside => later ⟨others, inside⟩⟩
      · exact absurd ⟨actions, inside⟩ later

/-- What the journal of a course tells of the recordings and their scripts. -/
structure Accounts (start : Course) (notes : List Note) (c : Course) : Prop where
  /-- What an operation gives as appended has been appended. -/
  reported : ∀ action, .ok (.appended action) ∈ c.given → ∃ id, .appended id action ∈ notes
  /-- It has been appended to the recording that was current when the operation was called, if none has been begun
      since. -/
  target : ∀ earlier d later, Log start earlier d → Log d later c → (∀ id, .begun id ∉ later) →
    ∀ id action, .appended id action ∈ later → d.recorder.current = some id
  /-- A script is written with the actions appended so far, and stays until it is written again. -/
  written : ∀ before id actions after, notes = before ++ .persisted id actions :: after →
    actions = actionsOf id before ∧ (.disturbed ∉ after → (∀ others, .persisted id others ∉ after) →
      ∃ x script path, x.id = id ∧ x.actions = actions ∧ Script.ofRecording x = .ok script ∧
        start.recorder.store.path id = .ok path ∧
        c.world.files.find path = .ok (some (.file (Utf8.encode script.toList))))
  /-- A recording that has been stopped has the actions of its script and what has been appended while the stop
      waited, and it does not change any more. -/
  returned : ∀ before id after, notes = before ++ .stopped id :: after → Untouched id after ∧
    ∃ first actions waiting, before = first ++ .persisted id actions :: waiting ∧
      (∀ others, .persisted id others ∉ waiting) ∧
      ∃ x, c.recorder.recording? id = some x ∧ x.actions = actions ++ actionsOf id waiting

theorem Log.store_path (consistent : Consistent c.recorder c.world) (log : Log c notes d) (id : String) :
    d.recorder.store.path id = c.recorder.store.path id := by
  induction log with
  | start => rfl
  | move log noted ih => exact (noted.store_path (log.consistent consistent) id).trans ih

theorem Log.reported (consistent : Consistent c.recorder c.world) (log : Log c notes d) {action : Action}
    (given : .ok (.appended action) ∈ d.given) : .ok (.appended action) ∈ c.given ∨
      ∃ id, .appended id action ∈ notes := by
  induction log with
  | start => exact .inl given
  | move log noted ih =>
    rcases noted.reported (log.consistent consistent) given with old | ⟨id, rfl⟩
    · rcases ih old with old | ⟨id, inside⟩
      · exact .inl old
      · exact .inr ⟨id, List.mem_append_left _ inside⟩
    · exact .inr ⟨id, List.mem_append_right _ (List.mem_singleton_self _)⟩

/-- The actions that operations have appended around a stop, in whatever order operations are called and the page
    answers. The script of a recording has just the actions that had been appended to it when it was written. Those that
    are appended between that and the end of the stop are reported and returned, but they are not in the script; the
    recording that a stop returns is that of the script just if there are none. -/
theorem accounts {store : ScriptStore} {takesScreenshots : Bool} {w : World}
    (log : Log (fresh store takesScreenshots w) notes c) : Accounts (fresh store takesScreenshots w) notes c := by
  have new := Consistent.fresh store takesScreenshots w
  have from_start {notes : List Note} {d : Course} (log : Log (fresh store takesScreenshots w) notes d) (id : String) :
      d.recorder.actions id = actionsOf id notes := log.actions new id
  constructor
  · intro action given
    rcases log.reported new given with old | noted
    · exact absurd old List.not_mem_nil
    · exact noted
  · intro earlier d later first last old id action inside
    have consistent := first.consistent new
    obtain ⟨before, after, rfl⟩ := List.append_of_mem inside
    obtain ⟨e, e', early, noted, _⟩ := last.split
    have current := noted.of_appended (early.consistent consistent)
    rcases early.current_or_none consistent fun id inside => old id (List.mem_append_left _ inside) with same | none
    · exact same.symm.trans current
    · cases none.symm.trans current
  · rintro before id actions after rfl
    obtain ⟨d, d', early, noted, late⟩ := log.split
    have consistent := early.consistent new
    obtain ⟨_, same, x, script, path, own, all, rendered, named, held⟩ := noted.of_persisted consistent
    refine ⟨same.trans (from_start early id), fun quiet once => ?_⟩
    have named' : d'.recorder.store.path id = .ok path := (noted.store_path consistent id).trans named
    obtain ⟨_, held⟩ := late.keeps (noted.consistent consistent) quiet once named' held
    exact ⟨x, script, path, own, all, rendered, (early.store_path new id).symm.trans named, held⟩
  · rintro before id after rfl
    obtain ⟨d, d', early, noted, late⟩ := log.split
    have consistent := early.consistent new
    obtain ⟨p, waits, stops⟩ := noted.of_stopped consistent
    have idle : d'.recorder.current = none := noted.current consistent
    have there : ∃ x, d.recorder.recording? id = some x :=
      early.known new (fun p waits => absurd waits List.not_mem_nil) p waits id (.inr stops)
    have gone : Gone id d' := by
      refine ⟨?_, noted.found there⟩
      rw [idle]
      nofun
    obtain ⟨⟨_, x, found⟩, untouched⟩ := late.gone (noted.consistent consistent) gone
    have written := early.written new (fun p waits => absurd waits List.not_mem_nil) p waits id stops
    obtain ⟨first, actions, waiting, rfl, once⟩ := last_persisted written
    refine ⟨untouched, first, actions, waiting, rfl, once, x, found, ?_⟩
    obtain ⟨e, e', earlier, wrote, _⟩ := early.split
    have same := ((wrote.of_persisted (earlier.consistent new)).2.1).trans (from_start earlier id)
    have whole := (actions_of_found found).symm.trans (from_start log id)
    rw [whole, same]
    simp [actionsOf_cons, Note.action?, actionsOf_eq_nil untouched.1]

/-- A step by hand is added while the stop waits for the page. It is reported and is in the recording that the stop
    returns, but the script is that of a recording without actions. -/
theorem accounts_late_step : ∃ (c : Course) (id : String) (step : Action) (x stored : Recording) (path : Path)
    (script : String), Log (fresh ⟨⟨["recordings"]⟩, ".ts", none⟩ false { files := ⟨[(["recordings"], .directory)]⟩ })
      [.begun id, .started id, .persisted id [], .appended id step, .stopped id] c ∧
    .ok (.appended step) ∈ c.given ∧ c.recorder.recording? id = some x ∧ x.actions = [step] ∧
    stored.actions = [] ∧ Script.ofRecording stored = .ok script ∧
    c.world.files.find path = .ok (some (.file (Utf8.encode script.toList))) := by
  have takes (text : String) : (({ files := ⟨[(["recordings"], .directory)]⟩, idsUsed := 1 } : World).onFiles
      (ScriptStore.write ⟨⟨["recordings"]⟩, ".ts", none⟩ "id-1" text)).1 = .ok () := by rfl
  let store : ScriptStore := ⟨⟨["recordings"]⟩, ".ts", none⟩
  let w : World := { files := ⟨[(["recordings"], .directory)]⟩ }
  let begun : Recorder := (Recorder.fresh store false).begin w none none none
  let x : Recording := .begun (w.ids.id 0) w.now none none
  let step : Action :=
    { kind := .manualStep, pageUrl := none, description := some (.str "log in"), time := w.now, id := w.ids.id 1 }
  have records : begun.Records x := .begin (by simp [Unclaimed, Recorder.fresh]) none none none
  obtain ⟨script, rendered⟩ : ∃ script, Script.ofRecording x = .ok script :=
    Script.render_total ⟨⟨_, rfl⟩, Value.textual_none⟩ (List.forall_mem_nil _) (List.forall_mem_nil _)
  have written : (w.freshId.2.onFiles (store.write x.id script)).1 = .ok () := by
    have id : x.id = "id-1" := by decide
    rw [id]
    exact takes script
  let c₀ : Course := fresh store false w
  let starting (p : Pending) : Course := ⟨begun, w.freshId.2, [p], [.start none none], []⟩
  let started : Course := ⟨begun, w.freshId.2, [], [.start none none], [.ok (.started x.id)]⟩
  have log : Log c₀ [.begun x.id, .started x.id] started := by
    have begins : Noted c₀ (some (.begun x.id)) (starting (.startUrl x.id)) := .call c₀ (.start none none) []
    have first : Noted _ none (starting (.startExpose x.id)) :=
      @Noted.reply (starting (.startUrl x.id)) [] [] _ rfl (.ok .nothing) []
    have second : Noted _ none (starting (.startInstall x.id)) :=
      @Noted.reply (starting (.startExpose x.id)) [] [] _ rfl (.ok .nothing) []
    have third : Noted _ none (starting (.startListen x.id)) :=
      @Noted.reply (starting (.startInstall x.id)) [] [] _ rfl (.ok .nothing) []
    have last : Noted _ (some (.started x.id)) started :=
      @Noted.reply (starting (.startListen x.id)) [] [] _ rfl (.ok .nothing) []
    exact ((((Log.start.move begins).move first).move second).move third).move last
  let v : World := (w.freshId.2.onFiles (store.write x.id script)).2
  let r : Recorder := begun.touch x w.now
  let stopping (waiting : List Pending) (calls : List Call) : Course :=
    ⟨r, v, waiting, [.start none none, .stop] ++ calls, [.ok (.started x.id)]⟩
  let byHand : Call := .manualStep (.str "log in")
  let asking : Pending := .stepUrl (.str "log in") none
  let done : Course := ⟨(r.appendTo x.id step 1).reset, v.freshId.2, [], [.start none none, .stop, byHand],
    [.ok (.started x.id), .ok (.appended step), .ok (.stopped x.id)]⟩
  have log : Log c₀ [.begun x.id, .started x.id, .persisted x.id [], .appended x.id step, .stopped x.id] done := by
    have stops : Noted started (some (.persisted x.id [])) (stopping [.stopListen x.id] []) :=
      noted_stop (c := started) records rendered written
    have listened : Noted _ none (stopping [.stopUninstall x.id] []) :=
      @Noted.reply (stopping [.stopListen x.id] []) [] [] _ rfl (.ok .nothing) []
    have called : Noted _ none (stopping [.stopUninstall x.id, asking] [byHand]) :=
      Noted.call (stopping [.stopUninstall x.id] []) byHand []
    have added : Noted _ (some (.appended x.id step)) ⟨r.appendTo x.id step 1, v.freshId.2, [.stopUninstall x.id],
        [.start none none, .stop, byHand], [.ok (.started x.id), .ok (.appended step)]⟩ :=
      @Noted.reply (stopping [.stopUninstall x.id, asking] [byHand]) [.stopUninstall x.id] [] _ rfl (.ok .nothing) []
    have stopped : Noted _ (some (.stopped x.id)) done :=
      @Noted.reply ⟨r.appendTo x.id step 1, v.freshId.2, [.stopUninstall x.id], [.start none none, .stop, byHand],
        [.ok (.started x.id), .ok (.appended step)]⟩ [] [] _ rfl (.ok .nothing) []
    exact ((((log.move stops).move listened).move called).move added).move stopped
  have told := accounts log
  obtain ⟨_, _, _, _, _, _, y, found, _⟩ :=
    told.returned [.begun x.id, .started x.id, .persisted x.id [], .appended x.id step] x.id [] rfl
  obtain ⟨_, kept⟩ := told.written [.begun x.id, .started x.id] x.id [] [.appended x.id step, .stopped x.id] rfl
  obtain ⟨stored, script', path, _, none, rendered', _, held⟩ := kept (by simp) (by simp)
  have actions : y.actions = [step] := by
    have whole := (actions_of_found found).symm.trans (log.actions (.fresh store false w) x.id)
    have none : c₀.recorder.actions x.id = [] := rfl
    simpa [none, actionsOf_cons, Note.action?] using whole
  exact ⟨done, x.id, step, y, stored, path, script', log, by simp [done], found, actions, none, rendered', held⟩

end Course

end BrowserFlow.Recorder
