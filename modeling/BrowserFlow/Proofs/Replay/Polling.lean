import BrowserFlow.Proofs.Value.Number
import BrowserFlow.Replay.Wait

/-!
A poll on an exact clock. Whatever the page answers and however long each answer takes, the poll ends without a fault:
every pause brings its deadline nearer by the interval, so the questions that it asks are bounded by how often the
interval goes into the timeout.
-/

namespace BrowserFlow

/-- Times and lengths in seconds, reckoned without rounding. -/
instance : Clock ℚ where
  add := (· + ·)
  reached deadline now := decide (deadline ≤ now)
  isPositive length := decide (0 < length)
  ofMillis v :=
    match v.number? with
    | some ms => .ok (ms / 1000)
    | none => .error (.wrongKind s!"unsupported operand type(s) for /: '{v.kind}' and 'int'")
  divide length v :=
    match v.number? with
    | some 0 => .error .divisionByZero
    | some n => .ok (length / n)
    | none => .error (.wrongKind s!"unsupported operand type(s) for /: 'float' and '{v.kind}'")

/-- What a wait meets: the reply to each of its requests, which may be any fault but that of a caller who is cancelled,
    and how much longer than asked for each of them takes. -/
structure Surroundings where
  reply : ℕ → Reply
  lasts : ℕ → ℚ
  ordinary : ∀ n, reply n ≠ .error .cancelled
  forward : ∀ n, 0 ≤ lasts n

structure Exchange where
  request : WaitRequest ℚ
  reply : Reply
  ended : ℚ

namespace Exchange

/-- Is the page asked? -/
def isCheck (e : Exchange) : Bool := e.request matches .run _

def checks (exchanges : List Exchange) : List Exchange := exchanges.filter isCheck

end Exchange

open Exchange (checks)

namespace WaitRequest

/-- The time that a request takes at least. -/
def least : WaitRequest ℚ → ℚ
  | sleep length => length
  | _ => 0

end WaitRequest

/-- From a step that is taken at a time, with so many requests before it, a wait makes these exchanges and is over. -/
inductive Settles (wait : WaitStrategy) (s : Surroundings) :
    ℕ → ℚ → Except Fault (WaitStep ℚ) → List Exchange → Prop
  | done {n : ℕ} {now : ℚ} : Settles wait s n now (.ok none) []
  | ask {n : ℕ} {now ended : ℚ} {waiting : Waiting ℚ} {request : WaitRequest ℚ} {rest : List Exchange}
      (ends : ended = now + request.least + s.lasts n)
      (goesOn : Settles wait s (n + 1) ended (wait.next ended waiting (s.reply n)) rest) :
      Settles wait s n now (.ok (some (waiting, request))) (⟨request, s.reply n, ended⟩ :: rest)

theorem Settles.unique {wait : WaitStrategy} {s : Surroundings} {n : ℕ} {now : ℚ} {step : Except Fault (WaitStep ℚ)}
    {first second : List Exchange} (one : Settles wait s n now step first) (other : Settles wait s n now step second) :
    first = second := by
  induction one generalizing second with
  | done =>
    cases other
    rfl
  | ask ends _ ih =>
    cases other with
    | ask ends' goesOn' =>
      subst ends ends'
      rw [ih goesOn']

namespace Polling

/-- The replies that end a poll: a search has found an element, or the document has been loaded. -/
def Satisfies : PageScript → Reply → Prop
  | .find _, reply => reply = .ok (.value (.bool true))
  | .ready, reply => reply = .ok (.value (.str "complete"))
  | _, _ => False

theorem isSatisfied_iff (script : PageScript) (answer : Answer) :
    isSatisfied script answer.content = true ↔ Satisfies script (.ok answer) := by
  cases answer with
  | image bytes => cases script <;> simp [isSatisfied, Satisfies, Answer.content]
  | value v => cases script <;> cases v <;> simp [isSatisfied, Satisfies, Answer.content]

/-- The exchanges of one poll: it asks its question and pauses in turns, and its last exchange is the first check that
    is satisfied or ends at the deadline or later. -/
structure Polls (script : PageScript) (deadline pause : ℚ) (exchanges : List Exchange) : Prop where
  requests : ∀ e ∈ exchanges, e.request = .run script ∨ e.request = .sleep pause
  ending : ∃ front last, checks exchanges = front ++ [last] ∧ exchanges.getLast? = some last ∧
    (∀ e ∈ front, ¬ Satisfies script e.reply ∧ e.ended < deadline) ∧
    (Satisfies script last.reply ∨ deadline ≤ last.ended)

section

variable {p : Polling} {script : PageScript} {deadline now : ℚ} {reply : Reply}

theorem answered_done (stops : Satisfies script reply ∨ deadline ≤ now) :
    p.answered now script deadline reply = .ok none := by
  rcases stops with satisfied | late
  · cases reply with
    | ok answer =>
      have found := (isSatisfied_iff script answer).mpr satisfied
      simp only [answered, found, Bool.true_or, ↓reduceIte]
    | error fault => cases script <;> cases satisfied
  · have passed : Clock.reached deadline now = true := decide_eq_true late
    simp only [answered, passed, Bool.or_true, ↓reduceIte]

theorem answered_again {interval : ℚ} (every : p.intervalMs.number? = some interval)
    (unsatisfied : ¬ Satisfies script reply) (early : now < deadline) :
    p.answered now script deadline reply = .ok (some (.pausing script deadline, .sleep (interval / 1000))) := by
  have waits : Clock.reached deadline now = false := decide_eq_false (not_le.mpr early)
  have length : Clock.ofMillis p.intervalMs = (.ok (interval / 1000) : Except Fault ℚ) := by
    simp only [Clock.ofMillis, every]
  cases reply with
  | ok answer =>
    have missing : isSatisfied script answer.content = false := by
      rw [Bool.eq_false_iff, ne_eq, isSatisfied_iff]
      exact unsatisfied
    simp only [answered, missing, waits, length, Bool.or_self, Bool.false_eq_true, ↓reduceIte]
    rfl
  | error fault =>
    simp only [answered, waits, length, Bool.or_self, Bool.false_eq_true, ↓reduceIte]
    rfl

theorem Polls.last {pause : ℚ} (stops : Satisfies script reply ∨ deadline ≤ now) :
    Polls script deadline pause [⟨.run script, reply, now⟩] where
  requests := by simp
  ending := ⟨[], ⟨.run script, reply, now⟩, rfl, rfl, by simp, stops⟩

theorem Polls.again {pause woken : ℚ} {nothing : Reply} {rest : List Exchange} (polls : Polls script deadline pause rest)
    (unsatisfied : ¬ Satisfies script reply) (early : now < deadline) :
    Polls script deadline pause (⟨.run script, reply, now⟩ :: ⟨.sleep pause, nothing, woken⟩ :: rest) := by
  obtain ⟨front, last, split, final, before, stops⟩ := polls.ending
  refine ⟨?_, ⟨.run script, reply, now⟩ :: front, last, ?_, ?_, ?_, stops⟩
  · simpa using polls.requests
  · rw [List.cons_append, ← split]
    rfl
  · rw [List.getLast?_cons_cons, List.getLast?_cons, final, Option.getD_some]
  · intro e member
    rcases List.mem_cons.mp member with rfl | member
    · exact ⟨unsatisfied, early⟩
    · exact before e member

/-- As long as its deadline is at most so many intervals away, a poll asks at most once more than that. -/
theorem asking_settles {interval : ℚ} (every : p.intervalMs.number? = some interval) (s : Surroundings)
    (script : PageScript) (deadline : ℚ) (k n : ℕ) (now : ℚ) (left : deadline - now ≤ k * (interval / 1000)) :
    ∃ exchanges, Settles (.polling p) s n now (.ok (some (.asking script deadline, .run script))) exchanges ∧
      Polls script deadline (interval / 1000) exchanges ∧ (checks exchanges).length ≤ k + 1 := by
  induction k generalizing n now with
  | zero =>
    -- the deadline has passed before the question, so the answer to it is the last one
    have late : deadline ≤ now + 0 + s.lasts n := by
      have forward := s.forward n
      simp only [Nat.cast_zero, zero_mul] at left
      linarith
    refine ⟨[⟨.run script, s.reply n, now + 0 + s.lasts n⟩], .ask rfl ?_, Polls.last (.inr late), le_refl 1⟩
    rw [WaitStrategy.next, answered_done (.inr late)]
    exact .done
  | succ k ih =>
    let answeredAt := now + 0 + s.lasts n
    by_cases stops : Satisfies script (s.reply n) ∨ deadline ≤ answeredAt
    · refine ⟨[⟨.run script, s.reply n, answeredAt⟩], .ask rfl ?_, Polls.last stops, Nat.le_add_left 1 (k + 1)⟩
      rw [WaitStrategy.next, answered_done stops]
      exact .done
    · obtain ⟨unsatisfied, early⟩ := not_or.mp stops
      let wokenAt := answeredAt + interval / 1000 + s.lasts (n + 1)
      have nearer : deadline - wokenAt ≤ k * (interval / 1000) := by
        have first := s.forward n
        have second := s.forward (n + 1)
        push_cast at left
        simp only [wokenAt, answeredAt]
        linarith
      obtain ⟨rest, settles, polls, few⟩ := ih (n + 2) wokenAt nearer
      refine ⟨⟨.run script, s.reply n, answeredAt⟩ :: ⟨.sleep (interval / 1000), s.reply (n + 1), wokenAt⟩ :: rest,
        .ask rfl ?_, polls.again unsatisfied (not_le.mp early), Nat.succ_le_succ few⟩
      rw [WaitStrategy.next, answered_again every unsatisfied (not_le.mp early)]
      exact .ask rfl settles

end

section

variable {p : Polling} {timeout interval : ℚ} (length : p.timeoutMs.number? = some timeout) (ample : 0 ≤ timeout)
    (every : p.intervalMs.number? = some interval) (positive : 0 < interval) (s : Surroundings)

include length ample every positive

theorem begin_settles (script : PageScript) (n : ℕ) (now : ℚ) :
    ∃ exchanges, Settles (.polling p) s n now (p.begin now (some script)) exchanges ∧
      Polls script (now + timeout / 1000) (interval / 1000) exchanges ∧
      ((checks exchanges).length : ℚ) ≤ timeout / interval + 2 := by
  have reach := Nat.le_ceil (timeout / interval)
  have close := Nat.ceil_lt_add_one (div_nonneg ample positive.le)
  have left : now + timeout / 1000 - now ≤ ⌈timeout / interval⌉₊ * (interval / 1000) := by
    have whole := (div_le_iff₀ positive).mp reach
    linarith
  obtain ⟨exchanges, settles, polls, few⟩ := asking_settles every s script _ _ n now left
  have begun : p.begin now (some script) = .ok (some (.asking script (now + timeout / 1000), .run script)) := by
    simp only [begin, Clock.ofMillis, length]
    rfl
  refine ⟨exchanges, begun ▸ settles, polls, ?_⟩
  have count : ((checks exchanges).length : ℚ) ≤ ⌈timeout / interval⌉₊ + 1 := by exact_mod_cast few
  linarith

/-- Around every command a poll comes to an end. It asks the page only before what needs an element and after a
    navigation, stops right with the first answer that satisfies it or comes at its deadline or later, and asks at most
    twice more often than the interval goes into the timeout. -/
theorem polling_settles (statement : Script.Statement) (line n : ℕ) (now : ℚ) :
    (∃ exchanges, Settles (.polling p) s n now ((WaitStrategy.polling p).before now statement line) exchanges) ∧
    (∃ exchanges, Settles (.polling p) s n now ((WaitStrategy.polling p).after now statement line) exchanges) ∧
    (∀ exchanges, Settles (.polling p) s n now ((WaitStrategy.polling p).before now statement line) exchanges →
      match statement with
      | .click selector | .fill selector _ | .select selector _ =>
        Polls (.find selector) (now + timeout / 1000) (interval / 1000) exchanges ∧
          ((checks exchanges).length : ℚ) ≤ timeout / interval + 2
      | _ => exchanges = []) ∧
    ∀ exchanges, Settles (.polling p) s n now ((WaitStrategy.polling p).after now statement line) exchanges →
      match statement with
      | .navigate _ =>
        Polls .ready (now + timeout / 1000) (interval / 1000) exchanges ∧
          ((checks exchanges).length : ℚ) ≤ timeout / interval + 2
      | _ => exchanges = [] := by
  have asked (script : PageScript) := begin_settles length ample every positive s script n now
  have settles (question : Option PageScript) :
      ∃ exchanges, Settles (.polling p) s n now (p.begin now question) exchanges := by
    cases question with
    | none => exact ⟨[], .done⟩
    | some script =>
      obtain ⟨exchanges, settles, _⟩ := asked script
      exact ⟨exchanges, settles⟩
  have silent {exchanges : List Exchange} (run : Settles (.polling p) s n now (p.begin now none) exchanges) :
      exchanges = [] := run.unique .done
  have polled {script : PageScript} {exchanges : List Exchange}
      (run : Settles (.polling p) s n now (p.begin now (some script)) exchanges) :
      Polls script (now + timeout / 1000) (interval / 1000) exchanges ∧
        ((checks exchanges).length : ℚ) ≤ timeout / interval + 2 := by
    obtain ⟨others, settles, facts⟩ := asked script
    exact run.unique settles ▸ facts
  refine ⟨settles _, settles _, ?_, ?_⟩
  · intro exchanges run
    cases statement with
    | click | fill | select => exact polled run
    | _ => exact silent run
  · intro exchanges run
    cases statement with
    | navigate => exact polled run
    | _ => exact silent run

end

/-- The document never becomes ready: with 250 milliseconds and 100 between the questions there are at most four. -/
theorem polling_settles_unready :
    let s : Surroundings :=
      ⟨fun _ => .error (.raised "context destroyed"), fun _ => 0, fun _ h => (by cases h), fun _ => le_refl 0⟩
    (Value.int 250).number? = some 250 ∧ (0 : ℚ) ≤ 250 ∧ (Value.int 100).number? = some 100 ∧ (0 : ℚ) < 100 ∧
    ∃ exchanges, Settles (.polling ⟨.int 250, .int 100⟩) s 0 0
      ((WaitStrategy.polling ⟨.int 250, .int 100⟩).after 0 (.navigate "https://example.com") 1) exchanges ∧
      Polls .ready (0 + 250 / 1000) (100 / 1000) exchanges ∧ (checks exchanges).length ≤ 4 := by
  intro s
  obtain ⟨_, ⟨exchanges, settles⟩, _, after⟩ := @polling_settles ⟨.int 250, .int 100⟩ 250 100 rfl (by norm_num)
    rfl (by norm_num) s (.navigate "https://example.com") 1 0 0
  obtain ⟨polls, few⟩ := after exchanges settles
  refine ⟨rfl, by norm_num, rfl, by norm_num, exchanges, settles, polls, ?_⟩
  have whole : ((checks exchanges).length : ℚ) < 5 := lt_of_le_of_lt few (by norm_num)
  exact Nat.le_of_lt_succ (by exact_mod_cast whole)

end Polling

end BrowserFlow
