import BrowserFlow.Proofs.Decimal.Order
import BrowserFlow.Proofs.Script.Commands
import BrowserFlow.Proofs.Script.Payload
import BrowserFlow.Proofs.Script.Writable
import BrowserFlow.Proofs.Value.JsonGrammar

/-!
Scrolls and waits, from their payloads to the numbers that are read back. A payload without usable numbers has its
default. A number without end stops the whole script, and the line of a wait below zero is not taken for a command.
-/

namespace BrowserFlow

theorem Value.truncate_cases (x : Float) :
    (∃ a, (Binary.ofFloat x).value? = some a ∧ truncate x = .ok (Binary.cut a)) ∨
    (Binary.ofFloat x = .undefined ∧ truncate x = .error .undefinedInteger) ∨
    ((Binary.ofFloat x).isInfinite = true ∧ truncate x = .error .infiniteInteger) := by
  unfold truncate
  cases Binary.ofFloat x with
  | infinite negative => exact .inr (.inr ⟨rfl, rfl⟩)
  | undefined => exact .inr (.inl ⟨rfl, rfl⟩)
  | finite negative m q => exact .inl ⟨_, rfl, congrArg Except.ok (Binary.cut_signed negative m q).symm⟩

theorem Value.truncate_iff {x : Float} {n : ℤ} :
    truncate x = .ok n ↔ ∃ a, (Binary.ofFloat x).value? = some a ∧ n = Binary.cut a := by
  rcases truncate_cases x with ⟨a, value, cut⟩ | ⟨undefined, fault⟩ | ⟨infinite, fault⟩
  · simp [value, cut, eq_comm]
  · simp [undefined, fault, Binary.value?]
  · cases parts : Binary.ofFloat x <;> simp_all [Binary.isInfinite, Binary.value?]

namespace Script

/-- The milliseconds of a wait. -/
inductive Waits : Option Value → ℤ → Prop
  | absent : Waits none 1000
  | malformed {s : String} (read : Numeral.readFloat s.toList = none) : Waits (some (.str s)) 1000
  | undefined {s : String} {x : Float} (read : Numeral.readFloat s.toList = some x)
      (undefined : Binary.ofFloat x = .undefined) : Waits (some (.str s)) 1000
  | number {s : String} {x : Float} {a : ℚ} (read : Numeral.readFloat s.toList = some x)
      (value : (Binary.ofFloat x).value? = some a) : Waits (some (.str s)) (Binary.cut a)

/-- The integer that a coordinate stands for. -/
inductive Coordinate : Value → ℤ → Prop
  | absent {v : Value} (absent : v.present? = none) : Coordinate v 0
  | integer (n : ℤ) : Coordinate (.int n) n
  | yes : Coordinate (.bool true) 1
  | double {x : Float} {a : ℚ} (value : (Binary.ofFloat x).value? = some a) : Coordinate (.float x) (Binary.cut a)
  | text {s : String} {n : ℤ} (read : Numeral.readInt s.toList = .ok n) : Coordinate (.str s) n

/-- The coordinates of a scroll: those of an object that has both, or else the origin. There are none if a coordinate
    has no end; the row is looked at only after a column. -/
inductive Scrolls : Option Value → ℤ → ℤ → Prop
  | absent : Scrolls none 0 0
  | malformed {s : String} (other : ∀ entries, ¬ Json.Means s.toList (.dict entries)) : Scrolls (some (.str s)) 0 0
  | noColumn {s : String} {entries : Entries} (object : Json.Means s.toList (.dict entries))
      (column : ∀ x, ¬ Coordinate (entries.getD "x") x) (finite : ¬ (entries.getD "x").IsInfinite) :
      Scrolls (some (.str s)) 0 0
  | noRow {s : String} {entries : Entries} {x : ℤ} (object : Json.Means s.toList (.dict entries))
      (column : Coordinate (entries.getD "x") x) (row : ∀ y, ¬ Coordinate (entries.getD "y") y)
      (finite : ¬ (entries.getD "y").IsInfinite) : Scrolls (some (.str s)) 0 0
  | both {s : String} {entries : Entries} {x y : ℤ} (object : Json.Means s.toList (.dict entries))
      (column : Coordinate (entries.getD "x") x) (row : Coordinate (entries.getD "y") y) : Scrolls (some (.str s)) x y

theorem waitTime_cases {v : Option Value} (textual : Value.Textual v) :
    (∃ ms, Waits v ms ∧ waitTime v = .ok ms) ∨ waitTime v = .error .infiniteInteger := by
  rw [waitTime_eq textual]
  cases v with
  | none => exact .inl ⟨_, .absent, rfl⟩
  | some w =>
    obtain ⟨s, rfl⟩ := textual w rfl
    have number : waitNumber? (some (.str s)) = Numeral.readFloat s.toList := rfl
    rw [number]
    cases read : Numeral.readFloat s.toList with
    | none => exact .inl ⟨_, .malformed read, rfl⟩
    | some x =>
      rcases Value.truncate_cases x with ⟨a, value, cut⟩ | ⟨undefined, fault⟩ | ⟨_, fault⟩
      · exact .inl ⟨_, .number read value, by simp only [cut]⟩
      · exact .inl ⟨_, .undefined read undefined, by simp only [fault]; rfl⟩
      · exact .inr (by simp only [fault])

theorem waitTime_iff {v : Option Value} (textual : Value.Textual v) {ms : ℤ} : waitTime v = .ok ms ↔ Waits v ms := by
  constructor
  · intro written
    rcases waitTime_cases textual with ⟨_, waits, read⟩ | failed
    · cases read.symm.trans written
      exact waits
    · cases failed.symm.trans written
  · intro waits
    rw [waitTime_eq textual]
    cases waits with
    | absent => rfl
    | malformed read => simp [waitNumber?, Value.str?, read, defaultWait]
    | undefined read undefined => simp [waitNumber?, Value.str?, read, Value.truncate, undefined, defaultWait]
    | number read value =>
      have cut := Value.truncate_iff.mpr ⟨_, value, rfl⟩
      simp [waitNumber?, Value.str?, read, cut]

theorem waitTime_fault {v : Option Value} (textual : Value.Textual v) {fault : Fault}
    (failed : waitTime v = .error fault) : fault = .infiniteInteger := by
  rcases waitTime_cases textual with ⟨_, _, read⟩ | infinite
  · cases read.symm.trans failed
  · exact Except.error.inj (failed.symm.trans infinite)

theorem Coordinate.zero {v : Value} {n : ℤ} (stands : Coordinate v n) (absent : v.present? = none) : n = 0 := by
  have nothing : v.isPresent = false := by
    cases present : v.isPresent with
    | false => rfl
    | true => simp [Value.present?, present] at absent
  cases stands with
  | absent => rfl
  | integer => simpa [Value.isPresent] using nothing
  | yes => cases nothing
  | @double x a value =>
    -- a zero counts as nothing, whatever its sign
    have same : (x == 0.0) = true := by simpa [Value.isPresent, bne] using nothing
    rw [(Binary.beq_iff value Binary.value?_zero).mp same]
    rfl
  | @text s n read =>
    have empty : s = "" := by simpa [Value.isPresent] using nothing
    rw [empty] at read
    cases read

theorem Coordinate.toInt {v : Value} {n : ℤ} (stands : Coordinate v n) (present : v.isPresent = true) :
    v.toInt = .ok n := by
  cases stands with
  | absent absent => simp [Value.present?, present] at absent
  | integer => rfl
  | yes => rfl
  | double value => exact Value.truncate_iff.mpr ⟨_, value, rfl⟩
  | text read => rw [Value.toInt, Value.intOfText, read]

theorem Coordinate.of_toInt {v : Value} {n : ℤ} (present : v.isPresent = true) (read : v.toInt = .ok n) :
    Coordinate v n := by
  cases v with
  | int m =>
    cases read
    exact .integer n
  | bool b =>
    cases b with
    | false => cases present
    | true =>
      cases read
      exact .yes
  | float x =>
    obtain ⟨a, value, rfl⟩ := Value.truncate_iff.mp read
    exact .double value
  | str s =>
    rw [Value.toInt, Value.intOfText] at read
    split at read
    · rename_i numeral
      cases read
      exact .text numeral
    · cases read
    · cases read
  | _ => cases read

theorem coordinate_iff {v : Value} {n : ℤ} : coordinate v = .ok (some n) ↔ Coordinate v n := by
  unfold coordinate
  cases found : v.present? with
  | none =>
    constructor
    · rintro ⟨⟩
      exact .absent found
    · intro stands
      rw [stands.zero found]
  | some w =>
    obtain ⟨rfl, present⟩ := Value.present?_some found
    dsimp only
    constructor
    · intro written
      cases read : w.toInt with
      | ok m =>
        rw [read] at written
        cases written
        exact .of_toInt present read
      | error fault =>
        rw [read] at written
        cases fault <;> cases written
    · intro stands
      rw [stands.toInt present]

theorem coordinate_none_iff {v : Value} : coordinate v = .ok none ↔ (∀ n, ¬ Coordinate v n) ∧ ¬ v.IsInfinite := by
  simp only [← coordinate_iff, ← coordinate_ok_iff]
  cases coordinate v with
  | error fault => simp
  | ok read => cases read <;> simp

theorem coordinate_fault {v : Value} {fault : Fault} (failed : coordinate v = .error fault) :
    fault = .infiniteInteger := by
  unfold coordinate at failed
  split at failed
  · cases failed
  · split at failed <;> cases failed
    rfl

theorem scrollEntries?_iff {s : String} {entries : Entries} :
    scrollEntries? (some (.str s)) = some entries ↔ Json.Means s.toList (.dict entries) := by
  rw [← Json.parse?_iff]
  by_cases empty : s = ""
  · subst empty
    exact ⟨nofun, nofun⟩
  · have present : (Value.str s).present? = some (.str s) := by simp [Value.present?, Value.isPresent, empty]
    rw [scrollEntries?, Option.bind_some, present, Option.bind_some, Value.str?, Option.bind_some]
    cases Json.parse? s.toList with
    | none => simp
    | some v => cases v <;> simp [Value.dict?]

theorem scrollTarget_iff {v : Option Value} (textual : Value.Textual v) {x y : ℤ} :
    scrollTarget v = .ok (x, y) ↔ Scrolls v x y := by
  rw [scrollTarget_eq textual]
  constructor
  · intro written
    cases v with
    | none =>
      cases written
      exact .absent
    | some w =>
      obtain ⟨s, rfl⟩ := textual w rfl
      cases found : scrollEntries? (some (.str s)) with
      | none =>
        rw [found] at written
        cases written
        refine .malformed fun entries object => ?_
        cases found.symm.trans (scrollEntries?_iff.mpr object)
      | some entries =>
        rw [found] at written
        have object := scrollEntries?_iff.mp found
        obtain ⟨first, column, written⟩ := bind_ok written
        cases first with
        | none =>
          cases written
          obtain ⟨other, finite⟩ := coordinate_none_iff.mp column
          exact .noColumn object other finite
        | some a =>
          obtain ⟨second, row, written⟩ := bind_ok written
          have column := coordinate_iff.mp column
          cases second with
          | none =>
            cases written
            obtain ⟨other, finite⟩ := coordinate_none_iff.mp row
            exact .noRow object column other finite
          | some b =>
            cases written
            exact .both object column (coordinate_iff.mp row)
  · intro scrolls
    cases scrolls with
    | absent => rfl
    | @malformed s other =>
      have none : scrollEntries? (some (.str s)) = none :=
        Option.eq_none_iff_forall_ne_some.mpr fun entries found => other entries (scrollEntries?_iff.mp found)
      rw [none]
    | noColumn object column finite =>
      rw [scrollEntries?_iff.mpr object]
      simp only [entriesTarget, coordinate_none_iff.mpr ⟨column, finite⟩]
      rfl
    | noRow object column row finite =>
      rw [scrollEntries?_iff.mpr object]
      simp only [entriesTarget, coordinate_iff.mpr column, coordinate_none_iff.mpr ⟨row, finite⟩]
      rfl
    | both object column row =>
      rw [scrollEntries?_iff.mpr object]
      simp only [entriesTarget, coordinate_iff.mpr column, coordinate_iff.mpr row]
      rfl

theorem entriesTarget_fault {entries : Entries} {fault : Fault} (failed : entriesTarget entries = .error fault) :
    fault = .infiniteInteger := by
  rcases bind_error failed with column | ⟨x, _, failed⟩
  · exact coordinate_fault column
  · cases x with
    | none => cases failed
    | some x =>
      rcases bind_error failed with row | ⟨y, _, failed⟩
      · exact coordinate_fault row
      · cases y <;> cases failed

theorem scrollTarget_fault {v : Option Value} (textual : Value.Textual v) {fault : Fault}
    (failed : scrollTarget v = .error fault) : fault = .infiniteInteger := by
  rw [scrollTarget_eq textual] at failed
  split at failed
  · exact entriesTarget_fault failed
  · cases failed

/-- What the payload of a scroll or a wait asks for. -/
inductive Amount
  | wait (ms : ℤ)
  | scroll (x y : ℤ)

namespace Amount

def statement : Amount → Statement
  | wait ms => .wait (toString ms)
  | scroll x y => .scroll (toString x) (toString y)

def numbers : Amount → List ℤ
  | wait ms => [ms]
  | scroll x y => [x, y]

/-- Is the line of the amount a command? -/
def isHeard : Amount → Bool
  | wait ms => 0 ≤ ms
  | scroll _ _ => true

end Amount

/-- A scroll or a wait with its numbers. -/
inductive Asks (a : Action) : Amount → Prop
  | wait {ms : ℤ} (kind : a.kind = .wait) (waits : Waits a.value ms) : Asks a (.wait ms)
  | scroll {x y : ℤ} (kind : a.kind = .scroll) (scrolls : Scrolls a.value x y) : Asks a (.scroll x y)

theorem Waits.textual {v : Option Value} {ms : ℤ} (waits : Waits v ms) : Value.Textual v := by
  cases waits <;> simp

theorem Scrolls.textual {v : Option Value} {x y : ℤ} (scrolls : Scrolls v x y) : Value.Textual v := by
  cases scrolls <;> simp

theorem Asks.readInt {a : Action} {amount : Amount} (asks : Asks a amount) :
    amount.statement.arguments.map (Numeral.readInt ·.toList) = amount.numbers.map .ok := by
  cases asks with
  | wait kind waits =>
    have short := Value.double_short (waitTime_lt ((waitTime_iff waits.textual).mpr waits))
    exact congrArg (fun n => [n]) (Numeral.readInt_toString _ short)
  | scroll kind scrolls =>
    obtain ⟨column, row⟩ := scrollTarget_short ((scrollTarget_iff scrolls.textual).mpr scrolls)
    have first := Numeral.readInt_toString _ column
    have second := Numeral.readInt_toString _ row
    simp only [Amount.statement, Statement.arguments, Amount.numbers, List.map_cons, List.map_nil, first, second]

/-- No wait is read from a number with a sign. -/
theorem ofCall?_negative {ms : String} {ds : List Char} (negative : ms.toList = '-' :: ds) (rest : List Char) :
    Statement.ofCall? ((Statement.wait ms).line.toList ++ rest) = none := by
  have blank : Text.AreBlanks [' '] := List.forall_mem_singleton.mpr (by decide)
  have opens : Opens "waitForTimeout" "await page.waitForTimeout(".toList :=
    .intro (.await (List.cons_ne_nil _ _) blank) (List.forall_mem_nil _)
  have shape : (Statement.wait ms).line.toList ++ rest =
      "await page.waitForTimeout(".toList ++ '-' :: (ds ++ (");".toList ++ rest)) := by simp [negative]
  rw [shape, ofCall?_calls, List.findSome?_eq_none_iff]
  intro call listed
  by_cases named : call.1 = "waitForTimeout"
  · have same := List.inj_on_of_nodup_map calls_apart listed
      (by simp [calls] : ("waitForTimeout", captureWait) ∈ calls) named
    rw [same, readCall, call?_opens opens, Text.trimLeft_visible (by decide)]
    rfl
  · have other := call?_other (by decide) (calls_plain _ (List.mem_map_of_mem listed)) (Ne.symm named) opens
    rw [readCall, other]
    rfl

namespace Amount

theorem isExecutable (amount : Amount) : amount.statement.isExecutable = true := by
  cases amount <;> rfl

theorem ofLine?_line (amount : Amount) : Statement.ofLine? (Text.trim (indent ++ amount.statement.line).toList) =
    if amount.isHeard then some amount.statement else none := by
  rw [toList_indent, trim_indent, ← List.append_nil amount.statement.line.toList]
  cases amount with
  | scroll x y =>
    have readable : Statement.Readable (.scroll (toString x) (toString y)) :=
      ⟨Text.toString_isSignedNumeral x, Text.toString_isSignedNumeral y⟩
    exact Script.ofLine?_line rfl readable []
  | wait ms =>
    by_cases positive : 0 ≤ ms
    · have readable : Statement.Readable (.wait (toString ms)) := Text.toString_areDigits positive
      rw [isHeard, if_pos (decide_eq_true positive)]
      exact Script.ofLine?_line rfl readable []
    · have sign := Text.toList_toString ms
      rw [if_pos (by omega)] at sign
      rw [isHeard, if_neg (by simpa using positive), ofLine?_call rfl]
      exact ofCall?_negative sign _

theorem command (amount : Amount) (number : ℕ) : Command.ofLine? number (indent ++ amount.statement.line).toList =
    if amount.isHeard then some ⟨amount.statement, number, amount.statement.line⟩ else none := by
  have trimmed := trim_line amount.isExecutable []
  rw [List.append_nil] at trimmed
  have source : Text.trim (indent ++ amount.statement.line).toList = amount.statement.line.toList := by
    rw [toList_indent, trim_indent, trimmed]
    exact List.append_nil _
  rw [Command.ofLine?, ofLine?_line, source, String.ofList_toList]
  split <;> rfl

theorem line_unbroken (amount : Amount) : Text.Unbroken (indent ++ amount.statement.line).toList := by
  rw [toList_indent]
  refine .cons (by decide) (.cons (by decide) ?_)
  cases amount with
  | wait ms =>
    have numeral := (Text.toString_isSignedNumeral ms).unbroken
    rw [statement, Statement.line_wait, String.toList_append, String.toList_append]
    exact (Text.Unbroken.append (by decide) numeral).append (by decide)
  | scroll x y =>
    have column := (Text.toString_isSignedNumeral x).unbroken
    have row := (Text.toString_isSignedNumeral y).unbroken
    rw [statement, Statement.line_scroll]
    simp only [String.toList_append]
    exact ((((by decide : Text.Unbroken _).append column).append (by decide)).append row).append (by decide)

theorem statements_pieces (amount : Amount) : statements (pieces (indent ++ amount.statement.line)) =
    if amount.isHeard then [amount.statement] else [] := by
  rw [pieces_unbroken amount.line_unbroken, statements, List.filterMap_cons, amount.ofLine?_line]
  split <;> simp_all

end Amount

end Script

/-- A scroll or a wait. -/
def Action.isNumeric (a : Action) : Bool := a.kind == .scroll || a.kind == .wait

namespace Script

theorem asks_step_iff {a : Action} (numeric : a.isNumeric = true) (textual : Value.Textual a.value) {step : Step} :
    Step.ofAction a = .ok step ↔ ∃ amount, Asks a amount ∧ step = ⟨amount.statement, ""⟩ := by
  rw [Action.isNumeric, Bool.or_eq_true, beq_iff_eq, beq_iff_eq] at numeric
  constructor
  · intro written
    unfold Step.ofAction at written
    rcases numeric with kind | kind
    · rw [kind] at written
      obtain ⟨⟨x, y⟩, target, written⟩ := bind_ok written
      cases written
      exact ⟨.scroll x y, .scroll kind ((scrollTarget_iff textual).mp target), rfl⟩
    · rw [kind] at written
      obtain ⟨ms, time, written⟩ := bind_ok written
      cases written
      exact ⟨.wait ms, .wait kind ((waitTime_iff textual).mp time), rfl⟩
  · rintro ⟨amount, asks, rfl⟩
    cases asks with
    | wait kind waits =>
      rw [Step.ofAction, kind]
      simp only [(waitTime_iff textual).mpr waits]
      rfl
    | scroll kind scrolls =>
      rw [Step.ofAction, kind]
      simp only [(scrollTarget_iff textual).mpr scrolls]
      rfl

theorem step_fault {a : Action} (numeric : a.isNumeric = true) (textual : Value.Textual a.value) {fault : Fault}
    (failed : Step.ofAction a = .error fault) : fault = .infiniteInteger := by
  rw [Action.isNumeric, Bool.or_eq_true, beq_iff_eq, beq_iff_eq] at numeric
  unfold Step.ofAction at failed
  rcases numeric with kind | kind
  · rw [kind] at failed
    rcases bind_error failed with target | ⟨_, _, failed⟩
    · exact scrollTarget_fault textual target
    · cases failed
  · rw [kind] at failed
    rcases bind_error failed with time | ⟨_, _, failed⟩
    · exact waitTime_fault textual time
    · cases failed

/-- The scrolls and waits among the actions have amounts, and those that are heard have commands in their order. -/
def Heard (as : List Action) (said : List Statement) : Prop :=
  ∃ amounts, List.Forall₂ Asks (as.filter Action.isNumeric) amounts ∧
    ((amounts.filter Amount.isHeard).map Amount.statement).Sublist said

theorem Heard.mono {as : List Action} {said more : List Statement} (heard : Heard as said) (within : said.Sublist more) :
    Heard as more := by
  obtain ⟨amounts, asks, kept⟩ := heard
  exact ⟨amounts, asks, kept.trans within⟩

theorem Heard.cons {as : List Action} {said : List Statement} (heard : Heard as said) {a : Action}
    (textual : Value.Textual a.value) {step : Step} (written : Step.ofAction a = .ok step) :
    Heard (a :: as) (statements (pieces (indent ++ step.line)) ++ said) := by
  obtain ⟨amounts, asks, kept⟩ := heard
  by_cases numeric : a.isNumeric = true
  · obtain ⟨amount, asked, rfl⟩ := (asks_step_iff numeric textual).mp written
    have line : Step.line ⟨amount.statement, ""⟩ = amount.statement.line := String.append_empty
    rw [Heard, List.filter_cons_of_pos numeric, line, amount.statements_pieces]
    refine ⟨amount :: amounts, .cons asked asks, ?_⟩
    rw [List.filter_cons]
    split
    · exact kept.cons_cons _
    · exact kept
  · rw [Heard, List.filter_cons_of_neg numeric]
    exact ⟨amounts, asks, List.sublist_append_of_sublist_right kept⟩

/-- Whatever texts stand around them, the numbers of a body are heard. -/
theorem blockLines_heard {last : Option String} {bs : List Block} {body : List String}
    (written : blockLines last bs = .ok body) (textual : ∀ b ∈ bs, Value.Textual b.last.value) :
    Heard (bs.map Block.last) (statements ((body.map (indent ++ ·)).flatMap pieces)) := by
  refine blockLines_induction (motive := fun bs body => (∀ b ∈ bs, Value.Textual b.last.value) →
    Heard (bs.map Block.last) (statements ((body.map (indent ++ ·)).flatMap pieces)))
    (fun _ => ⟨[], .nil, List.nil_sublist _⟩) ?_ written textual
  intro last b bs step body written ih textual
  obtain ⟨here, others⟩ := List.forall_mem_cons.mp textual
  have heard := (ih others).cons here written
  rw [List.map_cons, List.map_append, List.flatMap_append, statements_append, List.map_cons, List.flatMap_cons,
    statements_append]
  exact heard.mono (List.sublist_append_right ..)

theorem render_heard {h : Header} {as : List Action} {script : String} (rendered : render h as = .ok script)
    (textual : ∀ a ∈ as, Value.Textual a.value) : Heard as ((commands script).map (·.statement)) := by
  obtain ⟨lines, body, -, written, rfl⟩ := render_ok rendered
  have heard := blockLines_heard written fun b member => textual _ (mem_of_mem_blocks member b.last_mem)
  have same : ((blocks as).map Block.last).filter Action.isNumeric = as.filter Action.isNumeric :=
    filter_blocks (fun a input => by rw [Action.isNumeric, input]; rfl) as
  rw [Heard, same] at heard
  rw [commands_statements, splitLines_pieces, List.flatMap_append, List.flatMap_append, statements_append,
    statements_append]
  exact Heard.mono heard ((List.sublist_append_right ..).trans (List.sublist_append_left ..))

theorem writable_iff_asks {a : Action} (numeric : a.isNumeric = true) (reported : a.Reported) :
    a.Writable ↔ ∃ amount, Asks a amount := by
  rw [← Step.ofAction_ok_iff reported]
  constructor
  · rintro ⟨step, written⟩
    obtain ⟨amount, asks, _⟩ := (asks_step_iff numeric reported.value).mp written
    exact ⟨amount, asks⟩
  · rintro ⟨amount, asks⟩
    exact ⟨_, (asks_step_iff numeric reported.value).mpr ⟨amount, asks, rfl⟩⟩

/-- Numbers decide on a script only if one of them has no end. -/
theorem render_numeric_iff {h : Header} {as : List Action} (header : h.Textual) (reported : ∀ a ∈ as, a.Reported) :
    (∃ script, render h as = .ok script) ↔
      (∀ b ∈ blocks as, b.last.isNumeric = false → b.last.Writable) ∧ ∀ a ∈ as, a.isNumeric = true → a.Writable := by
  rw [render_ok_iff header reported]
  constructor
  · intro writable
    refine ⟨fun b member _ => writable b member, fun a member numeric => ?_⟩
    have other : a.kind ≠ .input := by
      intro input
      rw [Action.isNumeric, input] at numeric
      cases numeric
    obtain ⟨b, inside, rfl⟩ := last_of_other member other
    exact writable b inside
  · rintro ⟨others, numbers⟩ b member
    cases numeric : b.last.isNumeric with
    | false => exact others b member numeric
    | true => exact numbers _ (mem_of_mem_blocks member b.last_mem) numeric

/-- A scroll or a wait of a reported action becomes a line just if its payload asks for an amount. Then the line says
    the amount, its arguments are read back as the same integers, and it is a command unless it is a wait below zero.
    Otherwise a number has no end, and no script can be written. In a script that is written, the amounts that are heard
    are commands in the order of their actions, whatever else is on its lines. -/
theorem amounts_read_back {as : List Action} (reported : ∀ a ∈ as, a.Reported) :
    (∀ a ∈ as, a.isNumeric = true →
      (∀ step, Step.ofAction a = .ok step ↔ ∃ amount, Asks a amount ∧ step = ⟨amount.statement, ""⟩) ∧
      (a.Writable ↔ ∃ amount, Asks a amount) ∧
      (¬ a.Writable → Step.ofAction a = .error .infiniteInteger)) ∧
    (∀ a ∈ as, ∀ amount, Asks a amount →
      amount.statement.arguments.map (Numeral.readInt ·.toList) = amount.numbers.map .ok ∧
      ∀ number, Command.ofLine? number (indent ++ amount.statement.line).toList =
        if amount.isHeard then some ⟨amount.statement, number, amount.statement.line⟩ else none) ∧
    ∀ h : Header,
      (h.Textual → ((∃ script, render h as = .ok script) ↔
        (∀ b ∈ blocks as, b.last.isNumeric = false → b.last.Writable) ∧ ∀ a ∈ as, a.isNumeric = true → a.Writable)) ∧
      ∀ script, render h as = .ok script → Heard as ((commands script).map (·.statement)) := by
  refine ⟨fun a member numeric => ⟨fun step => ?step, ?writable, fun never => ?fault⟩, fun a _ amount asks => ?back,
    fun h => ⟨fun header => render_numeric_iff header reported, fun script rendered => ?heard⟩⟩
  case step => exact asks_step_iff numeric (reported a member).value
  case writable => exact writable_iff_asks numeric (reported a member)
  case fault =>
    rw [← Step.ofAction_ok_iff (reported a member)] at never
    cases failed : Step.ofAction a with
    | ok step => exact absurd ⟨step, failed⟩ never
    | error fault => rw [step_fault numeric (reported a member).value failed]
  case back => exact ⟨asks.readInt, amount.command⟩
  case heard => exact render_heard rendered fun a member => (reported a member).value

/-- An action that has no more than a payload. -/
def payloadAction (kind : ActionKind) (payload : String) : Action :=
  { kind, value := some (.str payload), time := .epoch, id := "id-1" }

def belowZero : Action := payloadAction .wait "-5"

def upwards : Action := payloadAction .scroll "\x7b\"x\": 3, \"y\": -4\x7d"

def endless : Action := payloadAction .wait "inf"

/-- A scroll is read back with its signs. The line of a wait below zero is there and says nothing, and a wait without
    end leaves no script. -/
theorem amounts_read_back_signed :
    Step.ofAction belowZero = .ok ⟨.wait "-5", ""⟩ ∧
    Command.ofLine? 7 (indent ++ (Statement.wait "-5").line).toList = none ∧
    Step.ofAction upwards = .ok ⟨.scroll "3" "-4", ""⟩ ∧
    Command.ofLine? 8 (indent ++ (Statement.scroll "3" "-4").line).toList =
      some ⟨.scroll "3" "-4", 8, (Statement.scroll "3" "-4").line⟩ ∧
    [Numeral.readInt "3".toList, Numeral.readInt "-4".toList] = [.ok 3, .ok (-4)] ∧
    Step.ofAction endless = .error .infiniteInteger ∧
    ∀ h : Header, h.Textual → ¬ ∃ script, render h [belowZero, upwards, endless] = .ok script := by
  have reported : ∀ a ∈ [belowZero, upwards, endless], a.Reported := by
    have each (kind : ActionKind) (payload : String) : (payloadAction kind payload).Reported :=
      ⟨Value.textual_text payload, Value.textual_none⟩
    simp [belowZero, upwards, endless, each]
  have below : Asks belowZero (.wait (-5)) := by
    have read : (waitTime (some (.str "-5"))).toOption = some (-5) := by decide +kernel
    exact .wait rfl ((waitTime_iff (Value.textual_text "-5")).mp (toOption_ok read))
  have up : Asks upwards (.scroll 3 (-4)) := by
    have read : (scrollTarget upwards.value).toOption = some (3, -4) := by decide +kernel
    exact .scroll rfl ((scrollTarget_iff (Value.textual_text _)).mp (toOption_ok read))
  have never : ¬ endless.Writable := by
    have infinite : (waitNumber? endless.value).any (fun x => (Binary.ofFloat x).isInfinite) = true := by
      decide +kernel
    obtain ⟨x, number, infinite⟩ := (Option.any_eq_true _ _).mp infinite
    intro writable
    have finite : (Binary.ofFloat x).isInfinite = false := writable x number
    cases finite.symm.trans infinite
  obtain ⟨steps, back, scripts⟩ := amounts_read_back reported
  have first := (steps belowZero (by simp) rfl).1 ⟨.wait "-5", ""⟩
  have second := (steps upwards (by simp) rfl).1 ⟨.scroll "3" "-4", ""⟩
  have third := (steps endless (by simp) rfl).2.2 never
  obtain ⟨-, silent⟩ := back belowZero (by simp) _ below
  obtain ⟨numbers, heard⟩ := back upwards (by simp) _ up
  refine ⟨first.mpr ⟨_, below, rfl⟩, silent 7, second.mpr ⟨_, up, rfl⟩, heard 8, numbers, third, ?_⟩
  intro h header rendered
  exact never ((((scripts h).1 header).mp rendered).2 endless (by simp) rfl)

end Script

end BrowserFlow
