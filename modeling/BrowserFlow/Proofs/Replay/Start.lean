import BrowserFlow.Proofs.Replay.Requests
import BrowserFlow.Proofs.Store

/-!
How a replay of a script that can be read starts, or fails to.
-/

namespace BrowserFlow

theorem WaitStrategy.withSpeed_polling {w : WaitStrategy} {speed : Option Value} {poll : Polling}
    (accepted : w.withSpeed speed = .ok (.polling poll)) : w = .polling poll := by
  unfold withSpeed at accepted
  split at accepted
  · obtain ⟨d, _, same⟩ := map_ok accepted
    cases same
  · exact Except.ok.inj accepted

theorem WaitStrategy.withSpeed_usable {w w' : WaitStrategy} {speed : Option Value}
    (accepted : w.withSpeed speed = .ok w') (usable : w.Usable) : w'.Usable := by
  unfold withSpeed at accepted
  split at accepted
  · obtain ⟨d, _, same⟩ := map_ok accepted
    cases same
    trivial
  · cases accepted
    exact usable

namespace Replayer

def speedOf (r : Replayer) (o : ReplayOptions) : Value := (o.speed.bind Value.present?).getD r.wait.speed

theorem isOpen_opened (g : Gate) : g.opened.isOpen = true := by
  unfold Gate.opened
  split
  · assumption
  · rfl

section Start

variable {r : Replayer} {w : World} {o : ReplayOptions} {id script : String} {summary : Recording}
  (inactive : r.isActive = false) (asked : o.recordingId = .str id) (read : r.store.read w.files id = .ok script)
  (told : Script.summary id script "" = .ok summary)

include inactive asked read told

/-- A target site that is no URL is no fault of the script's, but the replay fails before it has asked for anything. -/
theorem start_error (observer : Option Nat) {fault : Fault}
    (site : Host.ofUrl (summary.targetSite.getD "") = .error fault) : (r.start w o observer).2 = .error fault := by
  have store : ∀ r : Replayer, r.openGate.store = r.store := fun r => rfl
  unfold start
  rw [if_neg (by simp [inactive])]
  dsimp only
  simp only [store, asked, ScriptStore.idOfValue, Bind.bind, Except.bind, read, Except.map, told, site]

theorem start_eq (observer : Option Nat) {domain : Option String}
    (site : Host.ofUrl (summary.targetSite.getD "") = .ok domain) {wait : WaitStrategy}
    (accepted : r.wait.withSpeed (o.speed.bind Value.present?) = .ok wait) :
    r.start w o observer =
      ({ r with
          observer
          stopRequested := false
          speed := r.speedOf o
          gate := r.gate.opened
          status := { state := .running, recordingId := o.recordingId, total := (Script.commands script).length,
                      message := some ("Replaying '" ++ summary.name.text ++ "'") } },
        .ok { report := { recordingId := o.recordingId, startedAt := w.now, total := (Script.commands script).length },
              remaining := Script.commands script, wait, domain, restoresSession := o.restoresSession }) := by
  have store : ∀ r : Replayer, r.openGate.store = r.store := fun r => rfl
  have strategy : ∀ r : Replayer, r.openGate.wait = r.wait := fun r => rfl
  unfold start
  rw [if_neg (by simp [inactive])]
  dsimp only
  simp only [store, strategy, asked, ScriptStore.idOfValue, Bind.bind, Except.bind, read, Except.map, told, site,
    accepted]
  rfl

theorem start_runs (observer : Option Nat) {domain : Option String}
    (site : Host.ofUrl (summary.targetSite.getD "") = .ok domain) {wait : WaitStrategy}
    (accepted : r.wait.withSpeed (o.speed.bind Value.present?) = .ok wait) : ∃ r' run,
      r.start w o observer = (r', .ok run) ∧ r'.gate.isOpen = true ∧ r'.stopRequested = false ∧
        r'.pausesOnManualStep = r.pausesOnManualStep ∧ r'.speed = r.speedOf o ∧ run.phase = .announcing ∧
        run.remaining = Script.commands script ∧ run.wait = wait ∧ run.domain = domain ∧
        r'.status.state = .running :=
  ⟨_, _, start_eq inactive asked read told observer site accepted, isOpen_opened _, rfl, rfl, rfl, rfl, rfl, rfl, rfl,
    rfl⟩

end Start

section Stored

/-- Files with one script, in the directory of recordings. -/
def storing (text : String) : Files :=
  ⟨[(["recordings"], .directory), (["recordings", "x.ts"], .file (Utf8.encode text.toList))]⟩

/-- A replayer of these scripts, with waits of the caller's own. -/
def ofRecordings (wait : OwnWait) (hasSession : Bool) : Replayer :=
  { store := ⟨⟨["recordings"]⟩, ".ts", none⟩, hasSession, wait := .own wait }

variable {text : String} (plain : Text.unifyNewlines text.toList = text.toList) (wait : OwnWait) (hasSession : Bool)

include plain

theorem read_storing : (ofRecordings wait hasSession).store.read (storing text) "x" = .ok text := by
  have named : ScriptStore.path ⟨⟨["recordings"]⟩, ".ts", none⟩ "x" = .ok ⟨["recordings", "x.ts"]⟩ := by rfl
  exact ScriptStore.read_written named rfl plain

theorem script_storing {id script : String} (named : ScriptStore.idOfValue (.str "x") = .ok id)
    (read : (ofRecordings wait hasSession).store.read (storing text) id = .ok script) : script = text := by
  cases named
  exact Except.ok.inj (read.symm.trans (read_storing plain wait hasSession))

theorem start_storing {cs : List Script.Command} (commands : Script.commands text = cs) {summary : Recording}
    (told : Script.summary "x" text "" = .ok summary) {domain : Option String}
    (site : Host.ofUrl (summary.targetSite.getD "") = .ok domain) :
    (ofRecordings wait hasSession).start { files := storing text } { recordingId := .str "x" } none =
      ({ ofRecordings wait hasSession with
          speed := wait.speed
          status := { state := .running, recordingId := .str "x", total := cs.length,
                      message := some ("Replaying '" ++ summary.name.text ++ "'") } },
        .ok { report := { recordingId := .str "x", startedAt := .epoch, total := cs.length },
              remaining := cs, wait := .own wait, domain }) := by
  subst commands
  exact start_eq rfl rfl (read_storing plain wait hasSession) told none site rfl

end Stored

/-- A script of two clicks, on no site in particular. -/
theorem exists_clicks : ∃ text, Text.unifyNewlines text.toList = text.toList ∧
    Script.commands text =
      [⟨.click "#a", 1, "await page.click('#a');"⟩, ⟨.click "#b", 2, "await page.click('#b');"⟩] ∧
    ∃ summary, Script.summary "x" text "" = .ok summary ∧ Host.ofUrl (summary.targetSite.getD "") = .ok none :=
  ⟨"await page.click('#a');\nawait page.click('#b');", by decide +kernel, by decide +kernel, _, rfl, rfl⟩

/-- A script that loads a page and clicks there. -/
theorem exists_visit : ∃ text, Text.unifyNewlines text.toList = text.toList ∧
    Script.commands text =
      [⟨.navigate "https://e.com/", 1, "await page.goto('https://e.com/');"⟩,
        ⟨.click "#a", 2, "await page.click('#a');"⟩] ∧
    ∃ summary, Script.summary "x" text "" = .ok summary ∧
      Host.ofUrl (summary.targetSite.getD "") = .ok (some "e.com") :=
  ⟨"await page.goto('https://e.com/');\nawait page.click('#a');\n", by decide +kernel, by decide +kernel, _, rfl, rfl⟩

/-- A replay that has entered the running state has the commands of a script that could be read before it. -/
theorem start_running {r r' : Replayer} {w : World} {o : ReplayOptions} {observer : Option Nat} {run : Run}
    (started : r.start w o observer = (r', .ok run)) (runs : r'.status.state = .running) : ∃ id script,
      ScriptStore.idOfValue o.recordingId = .ok id ∧ r.store.read w.files id = .ok script ∧
        r'.gate.isOpen = true ∧ run.phase = .announcing ∧ run.remaining = Script.commands script ∧
        run.report = { recordingId := o.recordingId, startedAt := w.now, total := (Script.commands script).length } := by
  unfold start at started
  split at started
  · cases started
  · dsimp only at started
    split at started
    · cases started
      cases runs
    · cases started
    · rename_i id script found
      obtain ⟨name, named, found⟩ := bind_ok found
      obtain ⟨text, read, same⟩ := map_ok found
      cases same
      split at started
      · cases started
      · cases started
        exact ⟨id, script, named, read, isOpen_opened _, rfl, rfl, rfl⟩

end Replayer

end BrowserFlow
