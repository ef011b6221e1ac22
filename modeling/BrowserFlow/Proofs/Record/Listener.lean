import BrowserFlow.Proofs.Record.Course
import BrowserFlow.Proofs.Record.Wiring

/-!
The listener that puts the capture script back after a load: in sequential runs on one page it is there just while a
recording is current.
-/

namespace BrowserFlow.Recorder

/-- What is asked for while an action or a step by hand is recorded, or after a load. -/
def Pending.isQuiet : Pending → Bool
  | .actionUrl .. | .stepImage _ | .stepUrl .. | .reinstall => true
  | _ => false

def Step.isQuiet : Step → Bool
  | .finish _ => true
  | .ask request pending => request.listener?.isNone && pending.isQuiet

theorem append_quiet (r : Recorder) (w : World) (action : Action) (count : Nat) :
    (r.append w action count).2.2.isQuiet = true := by
  unfold append
  split <;> rfl

theorem askUrl_quiet (r : Recorder) (w : World) {pending : Pending} (quiet : pending.isQuiet = true) :
    (r.askUrl w pending).2.2.isQuiet = true := by
  unfold askUrl
  split
  · exact quiet
  · rfl

theorem step_quiet (r : Recorder) (w : World) {pending : Pending} (reply : Reply) (quiet : pending.isQuiet = true) :
    (r.step w pending reply).2.2.isQuiet = true := by
  cases pending with
  | actionUrl =>
    cases reply with
    | ok answer => exact append_quiet _ _ _ _
    | error fault => rfl
  | stepImage description =>
    cases reply with
    | ok answer => exact askUrl_quiet _ _ rfl
    | error fault => cases fault with
      | cancelled => rfl
      | _ => exact askUrl_quiet _ _ rfl
  | stepUrl =>
    cases reply with
    | ok answer => exact append_quiet _ _ _ _
    | error fault => rfl
  | reinstall =>
    cases reply with
    | ok answer => rfl
    | error fault => cases fault <;> rfl
  | _ => cases quiet

theorem Ends.quiet {transition : Transition} {replies : List (PageRequest × Reply)} {result : Except Fault Outcome}
    {r' : Recorder} {after : World} (ends : Ends transition replies result r' after)
    (quiet : transition.2.2.isQuiet = true) : ∀ pair ∈ replies, pair.1.listener? = none := by
  induction ends with
  | finish => exact fun pair member => by cases member
  | ask passes next ih =>
    obtain ⟨other, waits⟩ := Bool.and_eq_true_iff.mp quiet
    intro pair member
    rcases List.mem_cons.mp member with rfl | member
    · exact Option.isNone_iff_eq_none.mp other
    · exact ih (step_quiet _ _ _ waits) pair member

theorem settle_quiet (r : Recorder) (w : World) (result : Except Fault Recorder) :
    (r.settle w result).2.2.isQuiet = true := by cases result <;> rfl

theorem recordAction_quiet (r : Recorder) (w : World) (kind : Value) (locator : Option Locator)
    (value description : Option Value) : (r.recordAction w kind locator value description).2.2.isQuiet = true := by
  unfold recordAction
  split
  · rfl
  · split <;> rfl

theorem handleEvent_quiet (r : Recorder) (w : World) (payload : String) :
    (r.handleEvent w payload).2.2.isQuiet = true := by
  unfold handleEvent
  split
  · exact recordAction_quiet _ _ _ _ _ _
  · rfl

theorem addManualStep_quiet (r : Recorder) (w : World) (description : Value) :
    (r.addManualStep w description).2.2.isQuiet = true := by
  unfold addManualStep
  split
  · rfl
  · split
    · rfl
    · exact askUrl_quiet _ _ rfl

theorem afterLoad_quiet (r : Recorder) (w : World) : (r.afterLoad w).2.2.isQuiet = true := by
  unfold afterLoad
  split <;> rfl

theorem begin_quiet (r : Recorder) (w : World) {call : Call} (other : ∀ name description, call ≠ .start name description)
    (goesOn : call ≠ .stop) : (call.begin r w).2.2.isQuiet = true := by
  cases call with
  | start name description => exact absurd rfl (other name description)
  | stop => exact absurd rfl goesOn
  | pause | resume => exact settle_quiet _ _ _
  | record kind locator value description => exact recordAction_quiet _ _ _ _ _ _
  | event payload => exact handleEvent_quiet _ _ _
  | manualStep description => exact addManualStep_quiet _ _ _
  | load => exact afterLoad_quiet _ _

theorem Consistent.current?_isSome {r : Recorder} {w : World} (consistent : Consistent r w) :
    r.current?.isSome = r.current.isSome := by
  rw [Bool.eq_iff_iff, Option.isSome_iff_ne_none, Option.isSome_iff_ne_none, Ne, Ne, ← consistent.idle_iff,
    consistent.idle]

/-- The listener for loads, if a recording is current. -/
def listening (r : Recorder) : List String := if r.current.isSome then [loadListener] else []

theorem listening_current {r : Recorder} {id : String} (current : r.current = some id) :
    r.listening = [loadListener] := by rw [listening, current]; rfl

theorem listening_none {r : Recorder} (none : r.current = none) : r.listening = [] := by rw [listening, none]; rfl

section Keeps

variable {r r' : Recorder} {w after : World} {replies : List (PageRequest × Reply)} {result : Except Fault Outcome}
  {wiring later : Wiring}

theorem finish_keeps {r₀ : Recorder} {outcome : Except Fault Outcome}
    (ends : Ends (r₀, w, .finish outcome) replies result r' after) (serves : wiring.Serves replies later)
    (holds : wiring.Holds r₀.listening) : later.Holds r'.listening := by
  obtain ⟨rfl, rfl, rfl, rfl⟩ := ends.of_finish
  rw [serves.of_nil]
  exact holds

theorem failStart_keeps {id : String} {fault : Fault} (ends : Ends (r.failStart w id fault) replies result r' after)
    (serves : wiring.Serves replies later) (holds : wiring.Holds []) : later.Holds r'.listening :=
  finish_keeps ends serves holds

theorem startInstall_keeps {id : String} {reply : Reply}
    (ends : Ends (r.step w (.startInstall id) reply) replies result r' after) (serves : wiring.Serves replies later)
    (current : r.current = some id) (holds : wiring.Holds []) : later.Holds r'.listening := by
  cases reply with
  | error fault => exact failStart_keeps ends serves holds
  | ok answer =>
    obtain ⟨w', reply, rest, rfl, -, next⟩ := ends.of_ask
    obtain ⟨between, answers, last⟩ := serves.of_cons
    obtain ⟨rfl, there⟩ := holds.added answers
    rw [← listening_current current] at there
    exact finish_keeps next last there

theorem startExpose_keeps {id : String} {reply : Reply}
    (ends : Ends (r.step w (.startExpose id) reply) replies result r' after) (serves : wiring.Serves replies later)
    (current : r.current = some id) (holds : wiring.Holds []) : later.Holds r'.listening := by
  cases reply with
  | error fault => exact failStart_keeps ends serves holds
  | ok answer =>
    obtain ⟨w', reply, rest, rfl, -, next⟩ := ends.of_ask
    obtain ⟨between, answers, serves⟩ := serves.of_cons
    exact startInstall_keeps next serves current (holds.answered answers rfl)

theorem startUrl_keeps {id : String} {reply : Reply}
    (ends : Ends (r.step w (.startUrl id) reply) replies result r' after) (serves : wiring.Serves replies later)
    (current : r.current = some id) (holds : wiring.Holds []) : later.Holds r'.listening := by
  cases reply with
  | error fault => exact failStart_keeps ends serves holds
  | ok answer =>
    obtain ⟨w', reply, rest, rfl, -, next⟩ := ends.of_ask
    obtain ⟨between, answers, serves⟩ := serves.of_cons
    refine startExpose_keeps next serves ?_ (holds.answered answers rfl)
    split <;> exact current

theorem start_keeps {name description : Option Value} (ends : Ends (r.start w name description) replies result r' after)
    (serves : wiring.Serves replies later) (consistent : Consistent r w) (holds : wiring.Holds r.listening) :
    later.Holds r'.listening := by
  unfold start at ends
  split at ends
  · exact finish_keeps ends serves holds
  · rename_i notActive
    have idle : r.state = .idle := by simpa using notActive
    rw [listening_none (consistent.idle.mp idle)] at holds
    obtain ⟨w', reply, rest, rfl, -, next⟩ := ends.of_ask
    obtain ⟨between, answers, serves⟩ := serves.of_cons
    exact startUrl_keeps next serves rfl (holds.answered answers rfl)

theorem stop_keeps (ends : Ends (r.stop w) replies result r' after)
    (serves : wiring.Serves replies later) (consistent : Consistent r w) (holds : wiring.Holds r.listening)
    (uncancelled : result ≠ .error .cancelled) : later.Holds r'.listening := by
  rcases stop_cases r w with refused | ⟨x, active, current⟩
  · rw [refused] at ends
    exact finish_keeps ends serves holds
  · simp only [stop_eq active current, consistent.page.mpr active, if_true] at ends
    split at ends
    · exact finish_keeps ends serves holds
    · split at ends
      · exact finish_keeps ends serves holds
      · obtain ⟨w₁, reply, rest, rfl, -, next⟩ := ends.of_ask
        obtain ⟨removed, answers, serves⟩ := serves.of_cons
        obtain ⟨chosen, _⟩ := current?_found current
        rw [listening_current chosen] at holds
        obtain ⟨granted, gone⟩ := holds.removed answers
        rw [granted] at next
        obtain ⟨w₂, reply, rest, rfl, -, next⟩ := next.of_ask
        obtain ⟨left, answered, last⟩ := serves.of_cons
        have gone := gone.answered answered rfl
        -- a script that cannot be removed stays in the page, but the listener does not
        cases reply with
        | ok answer => exact finish_keeps next last gone
        | error fault =>
          cases fault with
          | cancelled =>
            obtain ⟨rfl, rfl, rfl, rfl⟩ := next.of_finish
            contradiction
          | _ => exact finish_keeps next last gone

theorem quiet_keeps {call : Call} (ends : Ends (call.begin r w) replies result r' after)
    (serves : wiring.Serves replies later) (unclaimed : r.Unclaimed w) (holds : wiring.Holds r.listening)
    (other : ∀ name description, call ≠ .start name description) (goesOn : call ≠ .stop) :
    later.Holds r'.listening := by
  have same : r'.current = r.current := by
    cases Call.effect unclaimed ends with
    | started | notStarted => exact absurd rfl (other _ _)
    | notStopped | stopped => exact absurd rfl goesOn
    | refused | dropped | loaded | paused | resumed | recorded | stepped => rfl
  rw [listening, same]
  exact holds.quiet serves (ends.quiet (begin_quiet _ _ other goesOn))

theorem call_keeps {call : Call} (ends : Ends (call.begin r w) replies result r' after)
    (serves : wiring.Serves replies later) (consistent : Consistent r w) (holds : wiring.Holds r.listening)
    (uncancelled : call = .stop → result ≠ .error .cancelled) : later.Holds r'.listening := by
  cases call with
  | start name description => exact start_keeps ends serves consistent holds
  | stop => exact stop_keeps ends serves consistent holds (uncancelled rfl)
  | _ => exact quiet_keeps ends serves consistent.unclaimed holds nofun nofun

theorem afterLoad_requests (ends : Ends (r.afterLoad w) replies result r' after) (consistent : Consistent r w) :
    replies.map (·.1) = if r.current.isSome then [.run .install] else [] := by
  unfold afterLoad at ends
  split at ends
  · rename_i off
    have idle : r.state = .idle := by
      by_contra active
      simp [active, consistent.page.mpr active] at off
    obtain ⟨-, -, -, rfl⟩ := ends.of_finish
    rw [consistent.idle.mp idle]
    rfl
  · rename_i on
    have current : r.current ≠ none := by
      intro none
      simp [consistent.idle.mpr none] at on
    obtain ⟨w', reply, rest, rfl, -, next⟩ := ends.of_ask
    have none : rest = [] := by
      cases reply with
      | ok answer => exact next.of_finish.2.2.2
      | error fault => cases fault <;> exact next.of_finish.2.2.2
    rw [if_pos (Option.isSome_iff_ne_none.mpr current), none]
    rfl

end Keeps

/-- A document has been loaded: the handlers of the page call their listeners, one after the other. -/
inductive Loads : List String → Recorder → World → Wiring → List PageRequest → Recorder → World → Wiring → Prop
  | done (r : Recorder) (w : World) (wiring : Wiring) : Loads [] r w wiring [] r w wiring
  | ours {names : List String} {r between r' : Recorder} {w v after : World} {wiring served later : Wiring}
      {replies : List (PageRequest × Reply)} {result : Except Fault Outcome} {requests : List PageRequest}
      (ends : Ends (r.afterLoad w) replies result between v) (serves : wiring.Serves replies served)
      (rest : Loads names between v served requests r' after later) :
      Loads (loadListener :: names) r w wiring (replies.map (·.1) ++ requests) r' after later
  | other {name : String} {names : List String} {r r' : Recorder} {w after : World} {wiring later : Wiring}
      {requests : List PageRequest} (other : name ≠ loadListener)
      (rest : Loads names r w wiring requests r' after later) : Loads (name :: names) r w wiring requests r' after later

/-- The sequential runs of a new recorder on one page. A stop may fail, but it is not cancelled. -/
inductive Wired (store : ScriptStore) (takesScreenshots : Bool) (w : World) : Recorder → World → Wiring → Prop
  | fresh : Wired store takesScreenshots w (fresh store takesScreenshots) w {}
  | elapse {r : Recorder} {v after : World} {wiring : Wiring} (refusal : Option String)
      (run : Wired store takesScreenshots w r v wiring) (later : v.Later after) :
      Wired store takesScreenshots w { r with store := { r.store with refusal } } after wiring
  | call {r r' : Recorder} {v after : World} {wiring later : Wiring} {replies : List (PageRequest × Reply)}
      {result : Except Fault Outcome} (call : Call) (run : Wired store takesScreenshots w r v wiring)
      (ends : Ends (call.begin r v) replies result r' after) (serves : wiring.Serves replies later)
      (uncancelled : call = .stop → result ≠ .error .cancelled) : Wired store takesScreenshots w r' after later
  | load {r r' : Recorder} {v after : World} {wiring later : Wiring} {requests : List PageRequest}
      (run : Wired store takesScreenshots w r v wiring)
      (loads : Loads wiring.handlers r v wiring requests r' after later) : Wired store takesScreenshots w r' after later

section Run

variable {store : ScriptStore} {takesScreenshots : Bool} {w after : World} {r : Recorder} {wiring : Wiring}

theorem Loads.keeps {names : List String} {r' : Recorder} {v : World} {later : Wiring} {requests : List PageRequest}
    (loads : Loads names r v wiring requests r' after later) (consistent : Consistent r v)
    (holds : wiring.Holds r.listening) : Consistent r' after ∧ later.Holds r'.listening := by
  induction loads with
  | done => exact ⟨consistent, holds⟩
  | @ours names r between r' v v' after wiring served later replies result requests ends serves rest ih =>
    have effect : Effect r v .load result between v' := afterLoad_ends ends
    have begun : Ends (Call.begin r v .load) replies result between v' := ends
    have held := call_keeps begun serves consistent holds nofun
    exact ih (consistent.effect effect) held
  | other other rest ih => exact ih consistent holds

theorem Wired.keeps (run : Wired store takesScreenshots w r after wiring) :
    Consistent r after ∧ wiring.Holds r.listening := by
  induction run with
  | fresh => exact ⟨.fresh store takesScreenshots w, ⟨rfl, rfl⟩⟩
  | elapse refusal run later ih => exact ⟨(ih.1.later later).refusing refusal, ih.2⟩
  | call call run ends serves uncancelled ih =>
    exact ⟨ih.1.effect (Call.effect ih.1.unclaimed ends), call_keeps ends serves ih.1 ih.2 uncancelled⟩
  | load run loads ih => exact loads.keeps ih.1 ih.2

theorem Loads.requests {r' : Recorder} {v : World} {later : Wiring} {requests : List PageRequest}
    (loads : Loads wiring.handlers r v wiring requests r' after later) (consistent : Consistent r v)
    (holds : wiring.Holds r.listening) : requests = if r.current.isSome then [.run .install] else [] := by
  rw [holds.handlers] at loads
  cases current : r.current with
  | none =>
    rw [listening_none current] at loads
    cases loads
    rfl
  | some id =>
    rw [listening_current current] at loads
    cases loads with
    | other other rest => contradiction
    | ours ends serves rest =>
      cases rest
      rw [List.append_nil, afterLoad_requests ends consistent, current]

end Run

end BrowserFlow.Recorder
