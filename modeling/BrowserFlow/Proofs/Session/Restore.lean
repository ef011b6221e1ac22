import BrowserFlow.Cli.Replay
import BrowserFlow.Proofs.Session.Saved
import BrowserFlow.Proofs.Store

/-!
A session that has been saved is read back as it was, and what a restore gives to the browser is decided by the
deadlines of its cookies.
-/

namespace BrowserFlow

namespace SavedSession

theorem checkCookies_dicts (cookies : List Entries) (i : ℕ) :
    ((cookies.map Value.dict).zipIdx i).mapA (fun (v, i) => checkCookie v i) = ⟨[], some cookies⟩ := by
  induction cookies generalizing i with
  | nil => rfl
  | cons cookie cookies ih =>
    rw [List.map_cons, List.zipIdx_cons, List.mapA, ih]
    rfl

theorem check_entries (s : SavedSession) : (check (.dict s.entries)).run = .ok s := by
  obtain ⟨domain, cookies, savedAt, expiresAt⟩ := s
  have list : checkCookies (some (.list (cookies.map Value.dict))) = ⟨[], some cookies⟩ := checkCookies_dicts cookies 0
  have held : Entries.get? (entries ⟨domain, cookies, savedAt, expiresAt⟩) "cookies" =
      some (.list (cookies.map .dict)) := rfl
  rw [check, held, list]
  cases expiresAt <;> rfl

theorem entries_storable {s : SavedSession} (cookies : ∀ cookie ∈ s.cookies, Value.Storable (.dict cookie))
    (savedAt : s.savedAt.natAbs < tenTo Numeral.maxDigits)
    (expiresAt : ∀ t ∈ s.expiresAt, t.natAbs < tenTo Numeral.maxDigits) : Value.Storable (.dict s.entries) := by
  have keys : s.entries.map (·.1) = ["domain", "cookies", "savedAt", "expiresAt"] := rfl
  refine .dict (by rw [keys]; decide) ?_
  have list : Value.Storable (.list (s.cookies.map .dict)) := by
    refine .list fun v member => ?_
    obtain ⟨cookie, among, rfl⟩ := List.mem_map.mp member
    exact cookies cookie among
  unfold entries
  simp only [List.forall_mem_cons]
  refine ⟨.str _, list, .int savedAt, ?_, fun _ member => absurd member List.not_mem_nil⟩
  split
  · rename_i t same
    exact .int (expiresAt t same)
  · exact .null

theorem text_reads {s : SavedSession} (storable : Value.Storable (.dict s.entries)) :
    ((Json.parse? s.text.toList).bind fun v => (check v).run.toOption) = some s := by
  rw [text, Json.parse?_pretty storable, Option.bind_some, check_entries]
  rfl

theorem millis_short (t : Instant) : t.millis.natAbs < tenTo Numeral.maxDigits := by
  unfold Instant.millis
  cases cut : (Binary.ofFloat (t.seconds * 1000.0)).truncate? with
  | none => exact tenTo_pos _
  | some n => exact Value.double_short (Binary.truncate?_lt cut)

/-- A session that is made of such cookies can be written and read again. -/
theorem ofCookies_storable {domain : String} {held : List Value} (storable : ∀ v ∈ held, v.Storable)
    (short : ∀ cookie ∈ ofHost domain held, ∀ t ∈ deadline? cookie, t.natAbs < tenTo Numeral.maxDigits) {now : Instant}
    {session : SavedSession} (made : ofCookies domain held now.millis = .ok session) :
    Value.Storable (.dict session.entries) := by
  obtain ⟨cookies, savedAt, expiresAt, _⟩ := ofCookies_ok storable made
  refine entries_storable ?_ ?_ fun t least => ?_
  · rw [cookies]
    exact ofHost_storable storable
  · rw [savedAt]
    exact millis_short now
  · rw [expiresAt] at least
    obtain ⟨cookie, member, deadline⟩ := List.mem_filterMap.mp (List.min?_mem least)
    exact short cookie member t deadline

theorem isExpired_iff {s : SavedSession} {cookies : List Entries}
    (first : s.expiresAt = (cookies.filterMap deadline?).min?) (now : ℤ) :
    s.isExpired now = true ↔ HasExpired cookies now := by
  rw [isExpired, HasExpired, ← first]
  cases s.expiresAt with
  | none => simp
  | some t => simp

end SavedSession

namespace SessionStore

open SavedSession

theorem load_written {store : SessionStore} {files : Files} {domain : String} {session : SavedSession}
    (storable : Value.Storable (.dict session.entries))
    (written : files.find (store.path domain) = .ok (some (.file (Utf8.encode session.text.toList)))) :
    store.load files domain = .ok (some session) := by
  -- reading a file changes its line ends, but the text has only line feeds
  have plain : Text.unifyNewlines session.text.toList = session.text.toList := by
    apply Text.unifyNewlines_plain
    intro c member
    rintro rfl
    exact Json.carriage_pretty 0 _ member
  have text : files.readText (store.path domain) = .ok session.text := by
    rw [ScriptStore.readText_encoded written, plain, String.ofList_toList]
  rw [load, written]
  simp only [Bind.bind, Except.bind, text]
  rw [← SavedSession.text_reads storable]
  rfl

/-- What a save has written is at its path. -/
theorem save_ok {store : SessionStore} {domain : String} {held : List Value} {now : Instant} {files after : Files}
    (h : (store.save domain held now).outcome files = (.ok (), after)) : ∃ session,
      SavedSession.ofCookies domain held now.millis = .ok session ∧
        after.find (store.path domain) = .ok (some (.file (Utf8.encode session.text.toList))) := by
  obtain ⟨session, made, h⟩ := FileM.lift_bind_ok h
  refine ⟨session, made, ?_⟩
  have written : (FileM.writeText (store.path domain) session.text).outcome files = (.ok (), after) := by
    refine ScriptStore.tryCatch_throws (fun fault mid b end' thrown => ?_) h
    split at thrown <;> cases thrown
  obtain ⟨place, reached, file, rfl⟩ := FileM.writeBytes_ok written
  have keeps := Files.keepsDirectories_put file (.file (Utf8.encode session.text.toList))
  rw [Files.find_of_locate (Files.locate_keeps keeps reached), Files.node?_put _ _ (Files.not_base_of_file file)]

/-- What is restorable after a save: nothing if the first deadline has passed, else what is current. -/
theorem restorable_saved {store : SessionStore} {domain : String} {held : List Value} {before now : Instant}
    {files after : Files} (saved : (store.save domain held before).outcome files = (.ok (), after))
    (storable : ∀ v ∈ held, v.Storable)
    (short : ∀ cookie ∈ ofHost domain held, ∀ t ∈ deadline? cookie, t.natAbs < tenTo Numeral.maxDigits)
    {s : ℚ} (clock : (Binary.ofFloat now.seconds).value? = some s) :
    (HasExpired (ofHost domain held) now.millis → store.restorable after domain now = ([], none)) ∧
      (¬ HasExpired (ofHost domain held) now.millis →
        store.restorable after domain now = (currentOf domain held s, none)) := by
  obtain ⟨session, made, written⟩ := save_ok saved
  obtain ⟨cookies, _, expiresAt, numbers⟩ := ofCookies_ok storable made
  have loaded := load_written (ofCookies_storable storable short made) written
  -- the gate on the first deadline comes before any cookie is looked at
  rw [restorable, loaded, ← isExpired_iff expiresAt, currentOf, ← cookies]
  constructor
  · intro expired
    exact if_pos expired
  · intro current
    rw [← cookies] at numbers
    exact (if_neg current).trans (live_eq numbers clock)

end SessionStore

namespace Cli.Watch

open SavedSession

/-- One call for each of the cookies, in their order, and nothing else. -/
def addAll (q : WatchPlay) (cookies : List Entries) : WatchPlay :=
  let calls := cookies.map fun cookie => .browser "add_cookies" [("cookies", .list [.dict cookie])]
  { q with page := { q.page with tab := { q.page.tab with log := q.page.tab.log ++ calls } } }

theorem foldl_addCookie (q : WatchPlay) (cookies : List Entries) : cookies.foldl addCookie q = addAll q cookies := by
  induction cookies generalizing q with
  | nil => simp [addAll]
  | cons cookie cookies ih =>
    rw [List.foldl_cons, ih]
    simp [addAll, addCookie]

theorem isOk_map {β : Type} {x : Except Fault Unit} {f : Unit → β} (h : (x.map f).isOk = true) : x = .ok () := by
  cases x with
  | error fault => cases h
  | ok _ => rfl

theorem save_outcome {p : WatchPlay} {store : SessionStore} {domain : String} (opened : p.state.sessions = some store)
    (saved : (save p domain).2.isOk = true) :
    (store.save domain p.state.engine.cookies p.world.now).outcome p.world.files =
      (.ok (), (save p domain).1.world.files) := by
  rw [save, opened] at saved ⊢
  exact Prod.ext (isOk_map saved) rfl

theorem addAll_nil (q : WatchPlay) : addAll q [] = q := by simp [addAll]

theorem restore_restorable {q : WatchPlay} {store : SessionStore} {domain : String} {cookies : List Entries}
    (opened : q.state.sessions = some store)
    (found : store.restorable q.world.files domain q.world.now = (cookies, none))
    (accepts : ∀ cookie, q.state.engine.refuses cookie = false) :
    restore q domain = (addAll q cookies, .ok (.value (.bool !cookies.isEmpty))) := by
  have accepted : (cookies.any fun cookie => !q.state.engine.refuses (.dict cookie)) = !cookies.isEmpty := by
    cases cookies with
    | nil => rfl
    | cons cookie cookies => simp [accepts]
  rw [restore, opened]
  dsimp only
  rw [found]
  dsimp only
  rw [accepted, foldl_addCookie]

/-- After a save a restore gives the browser the cookies of the host that are current, in their order, and says whether
    there are any; but nothing at all once the first deadline has passed. The cookies are data that JSON can hold, and
    no deadline is longer than an integer that is read. -/
theorem restore_saved {p q : WatchPlay} {store : SessionStore} {domain : String}
    (opened : p.state.sessions = some store ∧ q.state.sessions = some store)
    (saved : (save p domain).2.isOk = true) (unchanged : q.world.files = (save p domain).1.world.files)
    (accepts : ∀ cookie, q.state.engine.refuses cookie = false)
    (storable : ∀ cookie ∈ p.state.engine.cookies, cookie.Storable)
    (short : ∀ cookie ∈ ofHost domain p.state.engine.cookies,
      ∀ t ∈ deadline? cookie, t.natAbs < tenTo Numeral.maxDigits)
    {now : ℚ} (clock : (Binary.ofFloat q.world.now.seconds).value? = some now) :
    (HasExpired (ofHost domain p.state.engine.cookies) q.world.now.millis →
      restore q domain = (q, .ok (.value (.bool false)))) ∧
    (¬ HasExpired (ofHost domain p.state.engine.cookies) q.world.now.millis →
      restore q domain = (addAll q (currentOf domain p.state.engine.cookies now),
        .ok (.value (.bool !(currentOf domain p.state.engine.cookies now).isEmpty)))) := by
  obtain ⟨expired, current⟩ := SessionStore.restorable_saved (save_outcome opened.1 saved) storable short clock
  rw [← unchanged] at expired current
  constructor
  · intro passed
    rw [restore_restorable opened.2 (expired passed) accepts, addAll_nil]
    rfl
  · intro notPassed
    exact restore_restorable opened.2 (current notPassed) accepts

/-- A cookie of the host `e.com`. -/
def cookieNamed (name : String) (expires : Value) : Entries :=
  [("name", .str name), ("domain", .str "e.com"), ("expires", expires)]

def namesOf (cookies : List Entries) : List (Option String) := cookies.map fun cookie => (cookie.getD "name").str?

/-- Half a millisecond after the epoch. -/
def longAgo : Value := .float 0.00048828125

/-- One second into 2025. -/
def soon : Value := .int 1735689601

/-- At the start of 2025 a browser holds three cookies; the expiry of the first is open. -/
def morning (first : Value) : WatchPlay where
  world := { files := ⟨[(["sessions"], .directory)]⟩, now := ⟨1735689600000000⟩ }
  origin := ⟨1735689600000000⟩
  state :=
    { mode := {}
      sessions := some ⟨Path.ofText "sessions"⟩
      engine := { cookies :=
        [.dict (cookieNamed "a" first), .dict (cookieNamed "b" (.int (-1))),
          .dict (cookieNamed "c" (.float 1735689700.5))] } }

/-- Two seconds after the cookies have been saved. -/
def afterwards (first : Value) : WatchPlay :=
  let p := (save (morning first) "e.com").1
  { p with world := { p.world with now := ⟨1735689602000000⟩ } }

theorem afterwards_accepts (first cookie : Value) : (afterwards first).state.engine.refuses cookie = false := by
  cases cookie <;> rfl

theorem afterwards_clock (first : Value) :
    (Binary.ofFloat (afterwards first).world.now.seconds).value? = some 1735689602 := by
  change (Binary.ofFloat (Instant.seconds ⟨1735689602000000⟩)).value? = _
  decide +kernel

theorem cookieNamed_storable (name : String) {expires : Value} (storable : expires.Storable) :
    Value.Storable (.dict (cookieNamed name expires)) := by
  have keys : (cookieNamed name expires).map (·.1) = ["name", "domain", "expires"] := rfl
  refine .dict (by rw [keys]; decide) ?_
  simp only [cookieNamed, List.forall_mem_cons]
  exact ⟨.str _, .str _, storable, fun _ member => absurd member List.not_mem_nil⟩

theorem morning_storable {first : Value} (storable : first.Storable) :
    ∀ cookie ∈ (morning first).state.engine.cookies, cookie.Storable := by
  have never : Value.Storable (.int (-1)) := .int (Value.double_short (by decide +kernel))
  have later : Value.Storable (.float 1735689700.5) := .ofNumber (t := 3471379401 / 2) (by decide +kernel)
  simp only [morning, List.forall_mem_cons]
  exact ⟨cookieNamed_storable "a" storable, cookieNamed_storable "b" never, cookieNamed_storable "c" later,
    fun _ member => absurd member List.not_mem_nil⟩

/-- A deadline of zero is none: the cookie that expired just after the epoch is left out, and the others come back. -/
theorem restore_saved_partly :
    restore (afterwards longAgo) "e.com" =
      (addAll (afterwards longAgo) (currentOf "e.com" (morning longAgo).state.engine.cookies 1735689602),
        .ok (.value (.bool true))) ∧
    namesOf (currentOf "e.com" (morning longAgo).state.engine.cookies 1735689602) = [some "b", some "c"] := by
  have storable : longAgo.Storable := .ofNumber (t := 1 / 2048) (by decide +kernel)
  have saved : (save (morning longAgo) "e.com").2.isOk = true := by decide +kernel
  have given := (restore_saved (p := morning longAgo) (q := afterwards longAgo) ⟨rfl, rfl⟩ saved rfl
    (afterwards_accepts _) (morning_storable storable) (by decide +kernel) (afterwards_clock _)).2 (by decide +kernel)
  have filled : (currentOf "e.com" (morning longAgo).state.engine.cookies 1735689602).isEmpty = false := by
    decide +kernel
  rw [filled] at given
  exact ⟨given, by decide +kernel⟩

/-- One cookie has expired, two have not, and none is restored. -/
theorem restore_withholds :
    (save (morning soon) "e.com").2.isOk = true ∧
      (Binary.ofFloat (afterwards soon).world.now.seconds).value? = some 1735689602 ∧
      namesOf (currentOf "e.com" (morning soon).state.engine.cookies 1735689602) = [some "b", some "c"] ∧
      restore (afterwards soon) "e.com" = (afterwards soon, .ok (.value (.bool false))) := by
  have storable : soon.Storable := .int (Value.double_short (by decide +kernel))
  have saved : (save (morning soon) "e.com").2.isOk = true := by decide +kernel
  refine ⟨saved, afterwards_clock _, by decide +kernel, ?_⟩
  have nothing := (SessionStore.restorable_saved (save_outcome rfl saved) (morning_storable storable)
    (by decide +kernel) (afterwards_clock soon)).1 (by decide +kernel)
  have given := restore_restorable (q := afterwards soon) rfl nothing (afterwards_accepts _)
  rw [given, addAll_nil]
  rfl

end Cli.Watch

end BrowserFlow
