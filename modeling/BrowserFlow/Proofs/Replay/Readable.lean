import BrowserFlow.Proofs.Replay.Course
import BrowserFlow.Proofs.Replay.Site
import BrowserFlow.Proofs.Script.Header

/-!
Which scripts can be replayed. A script that can be read is, unless its header loses its time or the host of the first
page that it goes to cannot be taken; one that cannot be read is told as such, unless its name is too long for a file.
-/

namespace BrowserFlow

/-- The header keeps its time, and the first page has a host or none. -/
structure Script.Startable (text : String) : Prop where
  created : ∀ line ∈ headerLines text, ¬LosesTime line
  site : ∀ url ∈ firstPage? text, Host.WellFormed (Host.authority url.toList)

theorem WaitStrategy.withSpeed_positive (wait : WaitStrategy) {speed : Option Value}
    (positive : ∀ v ∈ speed, v.isAtMostZero = .ok false) : ∃ wait', wait.withSpeed speed = .ok wait' := by
  cases wait with
  | fixed d =>
    cases speed with
    | none => exact ⟨_, rfl⟩
    | some v =>
      refine ⟨.fixed { d with speed := v }, ?_⟩
      simp only [withSpeed, FixedDelay.validate, positive v rfl, Bind.bind, Except.bind, Bool.false_eq_true, if_false]
      rfl
  | polling p => exact ⟨_, rfl⟩
  | own o => exact ⟨_, rfl⟩

namespace Replayer

/-- The replay runs, and whatever comes then, every command that has been attempted has its result. -/
def Replays (text : String) (t : Replayer × Except Fault Run) : Prop :=
  ∃ r run, t = (r, .ok run) ∧ r.status.state = .running ∧ run.remaining = Script.commands text ∧
    ∀ c, Relation.ReflTransGen Course.Move (.ofStart r run) c →
      Course.BestEffort (Script.commands text) run.wait r.speed c

/-- The start fails with the fault as it is. The observer is told nothing, and no command is attempted. -/
def Raises (fault : Fault) (t : Replayer × Except Fault Run) : Prop := t.2 = .error fault ∧ t.1.status.state = .idle

/-- The replay ends at once with the fault, after the observer has been told. -/
def EndsWith (fault : Fault) (t : Replayer × Except Fault Run) : Prop :=
  ∃ r run, t = (r, .ok run) ∧ r.status.state = .error ∧ ∀ w reply, run.step r w reply = (r, run, .finish (.error fault))

section Readable

variable {r : Replayer} {w : World} {o : ReplayOptions} {id : String} (inactive : r.isActive = false)

include inactive

theorem start_idle {observer : Option Nat} {fault : Fault} (fails : (r.start w o observer).2 = .error fault) :
    Raises fault (r.start w o observer) := by
  refine ⟨fails, ?_⟩
  unfold start at fails ⊢
  rw [if_neg (by simp [inactive])] at fails ⊢
  dsimp only at fails ⊢
  split
  · rename_i unread
    rw [unread] at fails
    cases fails
  · rfl
  · rename_i read
    rw [read] at fails
    dsimp only at fails
    split
    · rfl
    · rename_i prepared
      rw [prepared] at fails
      cases fails

variable (asked : o.recordingId = .str id)

include asked

theorem start_unread (observer : Option Nat) {fault : Fault} (unread : r.store.read w.files id = .error fault)
    (foreign : ∀ e, fault ≠ .flow e) : (r.start w o observer).2 = .error fault := by
  have store : ∀ r : Replayer, r.openGate.store = r.store := fun r => rfl
  unfold start
  rw [if_neg (by simp [inactive])]
  dsimp only
  simp only [store, asked, ScriptStore.idOfValue, Bind.bind, Except.bind, unread, Except.map]

theorem start_unloaded (observer : Option Nat) {e : FlowError} (unread : r.store.read w.files id = .error (.flow e)) :
    EndsWith (.flow (.scriptLoad ("Failed to load script: " ++ e.message) (.str id))) (r.start w o observer) := by
  have store : ∀ r : Replayer, r.openGate.store = r.store := fun r => rfl
  unfold start
  rw [if_neg (by simp [inactive])]
  dsimp only
  simp only [store, asked, ScriptStore.idOfValue, Bind.bind, Except.bind, unread, Except.map]
  exact ⟨_, _, rfl, rfl, fun _ _ => rfl⟩

theorem start_lost (observer : Option Nat) {text : String} (read : r.store.read w.files id = .ok text) {fault : Fault}
    (fails : Script.summary id text "" = .error fault) : (r.start w o observer).2 = .error fault := by
  have store : ∀ r : Replayer, r.openGate.store = r.store := fun r => rfl
  unfold start
  rw [if_neg (by simp [inactive])]
  dsimp only
  simp only [store, asked, ScriptStore.idOfValue, Bind.bind, Except.bind, read, Except.map, fails]

end Readable

/-- What comes of the start of a replay: either the script can be read and replayed, its header loses its time, the
    first page that it goes to has no host that could be taken, the store has an error of its own, or the name is too
    long for a file. -/
inductive Starts (id : String) (read : Except Fault String) (t : Replayer × Except Fault Run) : Prop
  | runs {text : String} (readable : read = .ok text) (startable : Script.Startable text) (replays : Replays text t)
  | lost {text : String} (readable : read = .ok text) (loses : ∃ line ∈ Script.headerLines text, Script.LosesTime line)
      (raises : Raises .dateOutOfRange t)
  | malformed {text url shown : String} (readable : read = .ok text)
      (created : ∀ line ∈ Script.headerLines text, ¬Script.LosesTime line) (page : Script.firstPage? text = some url)
      (site : ¬Host.WellFormed (Host.authority url.toList)) (raises : Raises (.malformedHost shown) t)
  | unloaded {e : FlowError} (unreadable : read = .error (.flow e))
      (ends : EndsWith (.flow (.scriptLoad ("Failed to load script: " ++ e.message) (.str id))) t)
  | unnamed {shown : String} (unreadable : read = .error (.file .nameTooLong shown))
      (raises : Raises (.file .nameTooLong shown) t)

namespace Starts

variable {id text : String} {t : Replayer × Except Fault Run}

theorem replays (starts : Starts id (.ok text) t) (startable : Script.Startable text) : Replays text t := by
  cases starts with
  | runs readable _ replays =>
    cases readable
    exact replays
  | lost readable loses =>
    cases readable
    obtain ⟨line, member, loses⟩ := loses
    exact absurd loses (startable.created line member)
  | malformed readable _ page site =>
    cases readable
    exact absurd (startable.site _ page) site
  | unloaded unreadable => cases unreadable
  | unnamed unreadable => cases unreadable

theorem raises_lost (starts : Starts id (.ok text) t)
    (loses : ∃ line ∈ Script.headerLines text, Script.LosesTime line) : Raises .dateOutOfRange t := by
  obtain ⟨line, member, loses⟩ := loses
  cases starts with
  | runs readable startable =>
    cases readable
    exact absurd loses (startable.created line member)
  | lost _ _ raises => exact raises
  | malformed readable created =>
    cases readable
    exact absurd loses (created line member)
  | unloaded unreadable => cases unreadable
  | unnamed unreadable => cases unreadable

theorem raises_malformed (starts : Starts id (.ok text) t)
    (created : ∀ line ∈ Script.headerLines text, ¬Script.LosesTime line) {url : String}
    (page : Script.firstPage? text = some url) (site : ¬Host.WellFormed (Host.authority url.toList)) :
    ∃ shown, Raises (.malformedHost shown) t := by
  cases starts with
  | runs readable startable =>
    cases readable
    exact absurd (startable.site url page) site
  | lost readable loses =>
    cases readable
    obtain ⟨line, member, loses⟩ := loses
    exact absurd loses (created line member)
  | malformed _ _ _ _ raises => exact ⟨_, raises⟩
  | unloaded unreadable => cases unreadable
  | unnamed unreadable => cases unreadable

theorem ends {e : FlowError} (starts : Starts id (.error (.flow e)) t) :
    EndsWith (.flow (.scriptLoad ("Failed to load script: " ++ e.message) (.str id))) t := by
  cases starts with
  | runs readable => cases readable
  | lost readable => cases readable
  | malformed readable => cases readable
  | unloaded unreadable ends =>
    cases unreadable
    exact ends
  | unnamed unreadable => cases unreadable

end Starts

section Starts

variable {r : Replayer} {w : World} {o : ReplayOptions} {id : String} (inactive : r.isActive = false)
  (asked : o.recordingId = .str id)

include inactive asked

theorem start_replays (observer : Option Nat) {text : String} (read : r.store.read w.files id = .ok text)
    {summary : Recording} (told : Script.summary id text "" = .ok summary) {domain : Option String}
    (site : Host.ofUrl (summary.targetSite.getD "") = .ok domain) {wait : WaitStrategy}
    (accepted : r.wait.withSpeed (o.speed.bind Value.present?) = .ok wait) : Replays text (r.start w o observer) := by
  obtain ⟨r', run, started, _, _, _, _, _, remaining, _, _, running⟩ :=
    start_runs inactive asked read told observer site accepted
  refine ⟨r', run, started, running, remaining, fun c moves => ?_⟩
  obtain ⟨_, _, named, found, sound⟩ := Course.Sound.ofRunning started running
  rw [asked] at named
  cases named
  cases read.symm.trans found
  exact (sound.moves moves).bestEffort

/-- A replayer without a replay under way, asked for one at no speed in particular or at a positive one. A script that
    can be read is replayed if its header keeps its time and the first page that it goes to has a host or none. If not,
    the start fails before the replay runs, and the observer is not told. -/
theorem start_outcome (positive : ∀ v ∈ o.speed, v.isAtMostZero = .ok false) (observer : Option Nat) :
    Starts id (r.store.read w.files id) (r.start w o observer) := by
  cases read : r.store.read w.files id with
  | error fault =>
    rcases ScriptStore.read_fault read with ⟨e, rfl⟩ | ⟨shown, rfl⟩
    · exact .unloaded rfl (start_unloaded inactive asked observer read)
    · exact .unnamed rfl (start_idle inactive (start_unread inactive asked observer read nofun))
  | ok text =>
    rcases Script.summary_cases id text "" with ⟨summary, told, page, kept⟩ | ⟨fails, loses⟩
    · cases site : Host.ofUrl (summary.targetSite.getD "") with
      | error fault =>
        have malformed : ¬Host.WellFormed (Host.authority (summary.targetSite.getD "").toList) := by
          rw [← Host.ofUrl_ok, site]
          nofun
        obtain ⟨shown, rfl⟩ := Host.ofUrl_error site
        have raises := start_idle inactive (start_error inactive asked read told observer site)
        cases found : summary.targetSite with
        | none =>
          rw [found] at site
          cases site
        | some url =>
          rw [found] at malformed
          exact .malformed rfl kept (page.symm.trans found) malformed raises
      | ok domain =>
        have formed : Host.WellFormed (Host.authority (summary.targetSite.getD "").toList) := by
          rw [← Host.ofUrl_ok, site]
          exact ⟨_, rfl⟩
        have startable : Script.Startable text := by
          refine ⟨kept, fun url first => ?_⟩
          rw [page, first] at formed
          exact formed
        have positive : ∀ v ∈ o.speed.bind Value.present?, v.isAtMostZero = .ok false := by
          intro v present
          obtain ⟨u, given, present⟩ := Option.bind_eq_some_iff.mp present
          rw [(Value.present?_some present).1]
          exact positive u given
        obtain ⟨wait, accepted⟩ := r.wait.withSpeed_positive positive
        exact .runs rfl startable (start_replays inactive asked observer read told site accepted)
    · exact .lost rfl loses (start_idle inactive (start_lost inactive asked observer read fails))

end Starts

/-- A visit is replayed. A page without a host, a time that is lost and a script that is not there are not. -/
theorem start_outcome_visit : ∃ (p : Replayer) (visit page late : String),
    Replays visit (p.start { files := storing visit } { recordingId := .str "x", speed := some (.int 2) } none) ∧
    (∃ shown, Raises (.malformedHost shown)
      (p.start { files := storing page } { recordingId := .str "x" } none)) ∧
    Raises .dateOutOfRange (p.start { files := storing late } { recordingId := .str "x" } none) ∧
    ∃ e : FlowError, EndsWith (.flow (.scriptLoad ("Failed to load script: " ++ e.message) (.str "y")))
      (p.start { files := storing visit } { recordingId := .str "y" } none) := by
  let p : Replayer := { store := ⟨⟨["recordings"]⟩, ".ts", none⟩ }
  let visit := "await page.goto('https://e.com/');"
  let page := "await page.goto('http://[');"
  let late := "// Created: 0001-01-01T00:00:00+23:59\n\nawait page.click('#a');"
  have named : ScriptStore.path ⟨⟨["recordings"]⟩, ".ts", none⟩ "x" = .ok ⟨["recordings", "x.ts"]⟩ := by rfl
  have read (text : String) (plain : Text.unifyNewlines text.toList = text.toList) :
      p.store.read (storing text) "x" = .ok text := ScriptStore.read_written named rfl plain
  have missing : ScriptStore.read ⟨⟨["recordings"]⟩, ".ts", none⟩ (storing visit) "y" =
      .error (.flow (.recordingNotFound (.str "y"))) := by rfl
  have slow : ∀ v ∈ (none : Option Value), v.isAtMostZero = .ok false := nofun
  have twice : ∀ v ∈ some (Value.int 2), v.isAtMostZero = .ok false := by
    rintro _ ⟨⟩
    rfl
  refine ⟨p, visit, page, late, ?_, ?_, ?_, ?_⟩
  · have starts := start_outcome (r := p) (w := { files := storing visit })
      (o := { recordingId := .str "x", speed := some (.int 2) }) rfl rfl twice none
    rw [show p.store.read { files := storing visit : World }.files "x" = .ok visit from read visit (by decide +kernel)]
      at starts
    have noHeader : Script.headerLines visit = [] := by decide +kernel
    have first : Script.firstPage? visit = some "https://e.com/" := by decide +kernel
    have host : Host.ofUrl "https://e.com/" = .ok (some "e.com") := by rfl
    refine starts.replays ⟨by simp [noHeader], ?_⟩
    rw [first]
    rintro _ ⟨⟩
    exact Host.ofUrl_ok.mp ⟨_, host⟩
  · have starts := start_outcome (r := p) (w := { files := storing page }) (o := { recordingId := .str "x" }) rfl rfl
      slow none
    rw [show p.store.read { files := storing page : World }.files "x" = .ok page from read page (by decide +kernel)]
      at starts
    have noHeader : Script.headerLines page = [] := by decide +kernel
    have first : Script.firstPage? page = some "http://[" := by decide +kernel
    refine starts.raises_malformed (by simp [noHeader]) first fun formed => ?_
    exact absurd formed.paired (by decide +kernel)
  · have starts := start_outcome (r := p) (w := { files := storing late }) (o := { recordingId := .str "x" }) rfl rfl
      slow none
    rw [show p.store.read { files := storing late : World }.files "x" = .ok late from read late (by decide +kernel)]
      at starts
    exact starts.raises_lost ⟨"// Created: 0001-01-01T00:00:00+23:59".toList, by decide +kernel,
      " 0001-01-01T00:00:00+23:59".toList, rfl, ⟨-62135596800000000, some 86340000000⟩, by decide +kernel, rfl⟩
  · have starts := start_outcome (r := p) (w := { files := storing visit }) (o := { recordingId := .str "y" }) rfl rfl
      slow none
    rw [show p.store.read { files := storing visit : World }.files "y" = _ from missing] at starts
    exact ⟨_, starts.ends⟩

end Replayer

end BrowserFlow
