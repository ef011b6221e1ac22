import BrowserFlow.Proofs.Record.Stored
import BrowserFlow.Proofs.Replay.Start
import BrowserFlow.Proofs.Script.Payload

/-!
What has been recorded is replayed: the replay of a recording asks for what its script says, and its script says what
has been accepted.
-/

namespace BrowserFlow

namespace Action

/-- The seconds that a wait takes in a replay. -/
def pause (speed : Value) (a : Action) : Except Fault Float :=
  Value.thousandth (.int a.duration) >>= fun seconds => Value.divide seconds speed

/-- What an action has the page do when it is replayed. A wait is a sleep, and a step by hand is passed over. -/
def request? (speed : Value) (a : Action) : Option Request :=
  match a.kind with
  | .click => some (.page (.run (.click a.selector)))
  | .input => some (.page (.run (.fill a.selector a.valueText)))
  | .select => some (.page (.run (.select a.selector a.valueText)))
  | .keypress => some (.page (.run (.press a.key)))
  | .scroll => some (.page (.run (.scroll a.target.1 a.target.2)))
  | .wait =>
    match a.pause speed with
    | .ok seconds => some (.sleep seconds)
    | .error _ => none
  | .manualStep => none

theorem duration_lt (a : Action) : a.duration.natAbs < twoTo 1024 := by
  unfold duration
  split
  · rename_i read
    exact Script.waitTime_lt read
  · exact Script.defaultWait_lt

end Action

theorem Value.intOfText_toString {n : Int} (short : n.natAbs < tenTo Numeral.maxDigits) :
    intOfText (toString n) = .ok n := by
  rw [intOfText, Numeral.readInt_toString n short]

def Value.Divides (speed : Value) : Prop := ∀ seconds, ∃ quotient, divide seconds speed = .ok quotient

theorem Value.divides_float {x : Float} (other : (x == 0.0) = false) : (Value.float x).Divides := by
  intro seconds
  exact ⟨seconds / x, by rw [divide, other]; rfl⟩

theorem Action.pause_ok {speed : Value} (divides : speed.Divides) (a : Action) :
    ∃ seconds quotient, Value.thousandth (.int a.duration) = .ok seconds ∧ Value.divide seconds speed = .ok quotient ∧
      a.pause speed = .ok quotient := by
  obtain ⟨seconds, read⟩ := Value.thousandth_ok a.duration_lt
  obtain ⟨quotient, divided⟩ := divides seconds
  refine ⟨seconds, quotient, read, divided, ?_⟩
  rw [pause, read]
  exact divided

namespace Script

theorem Statement.effect?_ofAction {speed : Value} (divides : speed.Divides) (a : Action) :
    (Statement.ofAction a).effect? speed = .ok (a.request? speed) := by
  unfold Statement.ofAction Action.request?
  cases a.kind with
  | keypress =>
    have filled : a.key.isEmpty = false := by simpa using a.key_filled
    simp only [Statement.effect?, filled]
    rfl
  | scroll =>
    obtain ⟨left, top⟩ := a.target_short
    simp only [Statement.effect?, Value.intOfText_toString left, Value.intOfText_toString top]
    rfl
  | wait =>
    have short := Value.double_short a.duration_lt
    obtain ⟨seconds, quotient, read, divided, paused⟩ := a.pause_ok divides
    simp only [Statement.effect?, Value.intOfText_toString short, read, divided, paused, Bind.bind, Except.bind]
    rfl
  | _ => rfl

theorem Statement.ofAction_acts {speed : Value} (divides : speed.Divides) {a : Action}
    (acts : (Statement.ofAction a).isExecutable = true) : ∃ request, a.request? speed = some request := by
  unfold Statement.ofAction at acts
  unfold Action.request?
  cases kind : a.kind with
  | manualStep =>
    rw [kind] at acts
    cases acts
  | wait =>
    obtain ⟨_, quotient, _, _, paused⟩ := a.pause_ok divides
    exact ⟨.sleep quotient, by rw [paused]⟩
  | _ => exact ⟨_, rfl⟩

theorem Statement.issued?_ofAction {speed : Value} (divides : speed.Divides) (a : Action) :
    (Statement.ofAction a).issued? speed = a.request? speed := by
  rw [Statement.issued?, effect?_ofAction divides]

/-- What a replay of actions asks for on their account: the start page, if there is one, and for each block of them
    what its last one has the page do. -/
def replayed (speed : Value) (targetSite : Option String) (as : List Action) : List Request :=
  ((targetSite.filter (!·.isEmpty)).map fun url => .page (.load url)).toList ++
    (blocks as).filterMap fun b => b.last.request? speed

section Replayed

variable {speed : Value} (divides : speed.Divides) {targetSite : Option String} {as : List Action}
  {cs : List Command} (statements : cs.map (·.statement) =
    startStatements targetSite ++ (blocks as).map fun b => Statement.ofAction b.last)

include divides statements

theorem effective_replayed : Run.Effective speed cs := by
  intro c member acts
  have said : c.statement ∈ startStatements targetSite ++ (blocks as).map fun b => Statement.ofAction b.last := by
    rw [← statements]
    exact List.mem_map_of_mem member
  rcases List.mem_append.mp said with start | step
  · obtain ⟨url, _, same⟩ := Option.map_eq_some_iff.mp (Option.mem_toList.mp start)
    exact ⟨.page (.load url), by rw [← same]; rfl⟩
  · obtain ⟨b, _, same⟩ := List.mem_map.mp step
    rw [← same] at acts ⊢
    obtain ⟨request, asked⟩ := Statement.ofAction_acts divides acts
    exact ⟨request, by rw [Statement.effect?_ofAction divides, asked]⟩

theorem issued_replayed : (cs.map (·.statement)).filterMap (·.issued? speed) = replayed speed targetSite as := by
  have start : (startStatements targetSite).filterMap (·.issued? speed) =
      ((targetSite.filter (!·.isEmpty)).map fun url => Request.page (.load url)).toList := by
    rw [startStatements]
    cases targetSite.filter (!·.isEmpty) <;> rfl
  have steps : ((blocks as).map fun b => Statement.ofAction b.last).filterMap (·.issued? speed) =
      (blocks as).filterMap fun b => b.last.request? speed := by
    rw [List.filterMap_map]
    congr 1
    funext b
    exact Statement.issued?_ofAction divides b.last
  rw [statements, List.filterMap_append, start, steps, replayed]

end Replayed

end Script

/-- A recording whose texts have no line boundaries but those that a script escapes, pages none at all, whose waits do
    not go back in time, and that was begun before the year 10000. -/
structure Recording.Replayable (x : Recording) : Prop where
  name : Script.Escapable (Script.Header.ofRecording x).nameText.toList
  description : ∀ text ∈ (Script.Header.ofRecording x).descriptionText?, Script.Escapable text.toList
  targetSite : ∀ url ∈ x.targetSite, Script.Escapable url.toList
  actions : ∀ a ∈ x.actions, a.LineSafe
  waits : ∀ a ∈ x.actions, a.kind = .wait → 0 ≤ a.duration
  created : x.createdAt.date.year ≤ 9999

theorem Recording.Replayable.legible {x : Recording} (replayable : x.Replayable) : x.Legible :=
  ⟨replayable.name, replayable.description, replayable.targetSite, replayable.actions, replayable.created⟩

/-- A replayer under way with nothing that does not step over steps by hand and can wait at the speed of the options. -/
structure Replayer.Paces (r : Replayer) (o : ReplayOptions) : Prop where
  inactive : r.isActive = false
  skips : r.pausesOnManualStep = false
  usable : r.wait.Usable
  accepted : ∃ wait, r.wait.withSpeed (o.speed.bind Value.present?) = .ok wait
  divides : (r.speedOf o).Divides

namespace Recorder

theorem Reaches.readable {store : ScriptStore} {takesScreenshots : Bool} {w after : World} {history : List Entry}
    {r : Recorder} (run : Reaches store takesScreenshots w history r after) {replies : List (PageRequest × Reply)}
    {id : String} {r' : Recorder} {final : World} (ends : Ends (r.stop after) replies (.ok (.stopped id)) r' final)
    {x : Recording} (found : r'.recording? id = some x) (replayable : x.Replayable) : ∃ script summary,
      r.store.read final.files id = .ok script ∧ Script.summary id script "" = .ok summary ∧
        summary.targetSite = x.targetSite.filter (!·.isEmpty) ∧
        (Script.commands script).map (·.statement) = Script.startStatements x.targetSite ++
          (Script.blocks (accepted history)).map fun b => Script.Statement.ofAction b.last := by
  obtain ⟨script, read, rendered, log, safe, told⟩ := run.stored ends found replayable.legible
  obtain ⟨summary, told, site, _⟩ := told id ""
  have statements := Script.commands_of_render rendered replayable.waits safe replayable.actions
  rw [log] at statements
  exact ⟨script, summary, read, told, site, statements⟩

/-- Record, store and replay: after a run that ends with a successful stop, a replay of the recording loads its start
    page and then does what has been accepted, one effect for each block of actions. Nothing else is asked of the page
    but the questions of a poll. Only a start page whose URL has a malformed host cannot be replayed. -/
theorem replay_recorded {store : ScriptStore} {takesScreenshots : Bool} {w after : World} {history : List Entry}
    {r : Recorder} (run : Reaches store takesScreenshots w history r after) {replies : List (PageRequest × Reply)}
    {id : String} {r' : Recorder} {final : World} (ends : Ends (r.stop after) replies (.ok (.stopped id)) r' final)
    {x : Recording} (found : r'.recording? id = some x) (replayable : x.Replayable) {p : Replayer} {o : ReplayOptions}
    (shared : p.store = r.store) (asked : o.recordingId = .str id) (paces : p.Paces o) {v : World}
    (kept : v.files = final.files) (observer : Option Nat) :
    (∀ fault, Host.ofUrl ((x.targetSite.filter (!·.isEmpty)).getD "") = .error fault →
      (p.start v o observer).2 = .error fault) ∧
    ∀ domain, Host.ofUrl ((x.targetSite.filter (!·.isEmpty)).getD "") = .ok domain → ∃ p' started requests,
      p.start v o observer = (p', .ok started) ∧ Run.Issues (p', started, .ask .tell) requests ∧
        Run.effects requests = Script.replayed (p.speedOf o) x.targetSite (accepted history) ∧
        (∀ question, (false, .page question) ∈ requests → question.isQuestion = true) ∧
        ∀ d, p.wait = .fixed d → Run.pageRequests requests =
          (Script.replayed (p.speedOf o) x.targetSite (accepted history)).filterMap Request.page? := by
  obtain ⟨script, summary, read, told, site, statements⟩ := run.readable ends found replayable
  rw [← shared, ← kept] at read
  rw [← site]
  refine ⟨fun fault malformed => Replayer.start_error paces.inactive asked read told observer malformed, ?_⟩
  intro domain host
  obtain ⟨wait, accepted⟩ := paces.accepted
  obtain ⟨p', started, runs, isOpen, goesOn, skips, speed, phase, remaining, strategy, _⟩ :=
    Replayer.start_runs paces.inactive asked read told observer host accepted
  have polls (poll : Polling) (same : started.wait = .polling poll) : p.wait = .polling poll := by
    rw [← strategy, same] at accepted
    exact WaitStrategy.withSpeed_polling accepted
  have effective : Run.Effective p'.speed started.remaining := by
    rw [speed, remaining]
    exact Script.effective_replayed paces.divides statements
  have usable : started.wait.Usable := by
    rw [strategy]
    exact WaitStrategy.withSpeed_usable accepted paces.usable
  have issues := Run.issues_announcing phase ⟨isOpen, goesOn, skips.trans paces.skips⟩ usable effective
  have effects : Run.effects ((false, .tell) :: Run.allRequests p' started) =
      Script.replayed (p.speedOf o) x.targetSite (Recorder.accepted history) := by
    rw [Run.effects_waiting, Run.effects_allRequests, speed, remaining]
    exact Script.issued_replayed paces.divides statements
  have questions (question : PageRequest)
      (member : (false, .page question) ∈ (false, .tell) :: Run.allRequests p' started) :
      question.isQuestion = true ∧ ∃ poll, p.wait = .polling poll := by
    rcases List.mem_cons.mp member with same | member
    · cases same
    · obtain ⟨isQuestion, poll, same⟩ := Run.questions_allRequests member
      exact ⟨isQuestion, poll, polls poll same⟩
  refine ⟨p', started, _, runs, issues, effects, fun question member => (questions question member).1, ?_⟩
  intro d fixed
  rw [← effects]
  apply Run.pageRequests_effects
  intro question member
  obtain ⟨_, poll, polling⟩ := questions question member
  rw [fixed] at polling
  cases polling

theorem replay_recorded_login : ∃ (history : List Entry) (r r' : Recorder) (after final : World)
    (replies : List (PageRequest × Reply)) (x : Recording) (p : Replayer) (run : Run) (requests : List (Bool × Request)),
    Reaches ⟨⟨["recordings"]⟩, ".ts", none⟩ false { files := ⟨[(["recordings"], .directory)]⟩ } history r after ∧
      Ends (r.stop after) replies (.ok (.stopped x.id)) r' final ∧
      Replayer.start { store := r.store } final { recordingId := .str x.id } none = (p, .ok run) ∧
      Run.Issues (p, run, .ask .tell) requests ∧
      Run.pageRequests requests = [.load "http://x/", .run (.fill "#q" "b"), .run (.click "#go")] := by
  have taken (text : String) : (({ files := ⟨[(["recordings"], .directory)]⟩, idsUsed := 4 } : World).onFiles
      (ScriptStore.write ⟨⟨["recordings"]⟩, ".ts", none⟩ "id-1" text)).1 = .ok () := by rfl
  let store : ScriptStore := ⟨⟨["recordings"]⟩, ".ts", none⟩
  let w : World := { files := ⟨[(["recordings"], .directory)]⟩ }
  let site : Answer := .value (.str "http://x/")
  let typed : Action := { kind := .input, locator := some { id := some (.str "q") }, value := some (.str "a"),
                          pageUrl := some "http://x/", time := w.now, id := w.ids.id 1 }
  let retyped : Action := { typed with value := some (.str "b"), id := w.ids.id 2 }
  let clicked : Action := { typed with kind := .click, locator := some { id := some (.str "go") }, value := none,
                                       id := w.ids.id 3 }
  let begun : Recording :=
    { Recording.begun (w.ids.id 0) w.now (some (.str "login")) none with targetSite := some "http://x/" }
  let x : Recording := grown clicked 0 (grown retyped 0 (grown typed 0 begun))
  obtain ⟨history, r, run, records, same⟩ : ∃ history r, Reaches store false w history r { w with idsUsed := 4 } ∧
      r.Records x ∧ r.store = store := by
    have unclaimed : (fresh store false).Unclaimed w := by simp [Unclaimed, fresh]
    have one : Records _ begun := .begin unclaimed (some (.str "login")) none (some "http://x/")
    have two := one.appendTo typed
    have three := two.appendTo retyped
    have first := Reaches.call (.start (some (.str "login")) none) [] .fresh (by simp)
      (starts rfl unclaimed (some (.str "login")) none site .nothing .nothing .nothing)
    have second := Reaches.call (.record (.str "input") typed.locator typed.value none) [] first (by simp)
      (recordAction_appends one.state one.current one.page .input site rfl rfl)
    have third := Reaches.call (.record (.str "input") typed.locator retyped.value none) [] second (by simp)
      (recordAction_appends two.state two.current two.page .input site rfl rfl)
    have fourth := Reaches.call (.record (.str "click") clicked.locator none none) [] third (by simp)
      (recordAction_appends three.state three.current three.page .click site rfl rfl)
    exact ⟨_, _, fourth, three.appendTo clicked, rfl⟩
  have actions {motive : Action → Prop} (first : motive typed) (second : motive retyped) (third : motive clicked) :
      ∀ a ∈ x.actions, motive a := by
    simpa [x, grown, Recording.append, begun, Recording.begun] using ⟨first, second, third⟩
  obtain ⟨script, rendered⟩ : ∃ script, Script.ofRecording (touched x w.now) = .ok script := by
    apply Script.render_total
    · exact ⟨⟨_, rfl⟩, Value.textual_none⟩
    · have textual (id : String) : Locator.Textual { id := some (.str id) } := by constructor <;> simp
      exact actions ⟨by simpa [typed] using textual "q", Value.textual_text _, Value.textual_none⟩
        ⟨by simpa [retyped, typed] using textual "q", Value.textual_text _, Value.textual_none⟩
        ⟨by simpa [clicked] using textual "go", Value.textual_none, Value.textual_none⟩
    · exact actions ⟨by simp [typed], by simp [typed]⟩ ⟨by simp [retyped, typed], by simp [retyped, typed]⟩
        ⟨by simp [clicked], by simp [clicked]⟩
  have replayable : (touched x w.now).Replayable := by
    refine ⟨by decide, by decide, by decide, ?_, ?_, by decide⟩
    · exact actions ⟨by decide, fun _ => by decide, fun _ => by decide, by simp [typed]⟩
        ⟨by decide, fun _ => by decide, fun _ => by decide, by simp [retyped, typed]⟩
        ⟨by decide, fun _ => by decide, by decide, by simp [clicked]⟩
    · exact actions (by simp [typed]) (by simp [retyped, typed]) (by simp [clicked])
  have written : ({ w with idsUsed := 4 }.onFiles (r.store.write x.id script)).1 = .ok () := by
    have id : x.id = "id-1" := by decide
    rw [id, same]
    exact taken script
  have active : r.state ≠ .idle := by
    simp [records.state]
  have stopped := @stops r { w with idsUsed := 4 } x script active records.current? records.page rendered written
    .nothing .nothing
  have found : (r.touch x w.now).reset.recording? x.id = some (touched x w.now) := recording?_touch records.found w.now
  have paces : Replayer.Paces { store := r.store } { recordingId := .str x.id } :=
    ⟨rfl, rfl, trivial, ⟨_, rfl⟩, Value.divides_float (by decide)⟩
  have host : Host.ofUrl (((touched x w.now).targetSite.filter (!·.isEmpty)).getD "") = .ok (some "x") := by
    have start : (touched x w.now).targetSite.filter (!·.isEmpty) = some "http://x/" := by decide
    rw [start]
    rfl
  obtain ⟨p, replay, requests, runs, issues, _, _, pages⟩ :=
    (replay_recorded run stopped found replayable rfl rfl paces rfl none).2 (some "x") host
  have log : accepted history = x.actions := (run.log x records.current?).symm
  rw [log] at pages
  exact ⟨history, r, _, _, _, _, touched x w.now, p, replay, requests, run, stopped, runs, issues, pages _ rfl⟩

example : Host.ofUrl "http://[" = .error (.malformedHost "Invalid IPv6 URL") := rfl

end Recorder

end BrowserFlow
