import BrowserFlow.Proofs.Result
import BrowserFlow.Proofs.Value.JsonText
import BrowserFlow.Proofs.Value.Number
import BrowserFlow.Session.Saved

/-!
The cookies of a host that a save keeps, when the first of them expires, and which of them are current at a time.
-/

namespace BrowserFlow

theorem Value.Storable.number {x : Float} (storable : Storable (.float x)) : ∃ t, number? (.float x) = some t := by
  cases storable with
  | float finite => exact ⟨_, by rw [number?, finite, Binary.value?]⟩

theorem Value.Storable.ofNumber {x : Float} {t : ℚ} (value : (Binary.ofFloat x).value? = some t) :
    Storable (.float x) := by
  cases parts : Binary.ofFloat x with
  | finite negative m q => exact .float parts
  | infinite negative =>
    rw [parts] at value
    cases value
  | undefined =>
    rw [parts] at value
    cases value

theorem Value.Storable.getD {entries : Entries} (all : ∀ e ∈ entries, Storable e.2) (key : String) :
    (Entries.getD entries key).Storable := by
  unfold Entries.getD Entries.get?
  cases found : entries.find? fun entry => entry.1 == key with
  | none => exact .null
  | some e => exact all e (List.mem_of_find?_eq_some found)

namespace SavedSession

/-- When a cookie expires, in seconds, if it says so. -/
def moment? (cookie : Entries) : Option ℚ := (cookie.getD "expires").number?

/-- The expiry of a cookie is absent, not above zero or not before the time. -/
def IsCurrent (now : ℚ) (cookie : Entries) : Prop := ∀ t ∈ moment? cookie, 0 < t → now ≤ t

instance (now : ℚ) (cookie : Entries) : Decidable (IsCurrent now cookie) :=
  inferInstanceAs (Decidable (∀ t ∈ moment? cookie, 0 < t → now ≤ t))

/-- A time in whole milliseconds, as a number of its kind is multiplied and cut. -/
def wholeMillis? : Value → Option ℤ
  | .float x => (Binary.ofFloat (x * 1000.0)).truncate?
  | v => v.integer?.map (1000 * ·)

/-- When a cookie expires in whole milliseconds, if its expiry is above zero. -/
def deadline? (cookie : Entries) : Option ℤ :=
  if ∃ t ∈ moment? cookie, 0 < t then wholeMillis? (cookie.getD "expires") else none

/-- The time at which the first of the cookies expires is not zero and has passed. -/
def HasExpired (cookies : List Entries) (now : ℤ) : Prop := ∃ t ∈ (cookies.filterMap deadline?).min?, t ≠ 0 ∧ t < now

instance (cookies : List Entries) (now : ℤ) : Decidable (HasExpired cookies now) :=
  inferInstanceAs (Decidable (∃ t ∈ (cookies.filterMap deadline?).min?, t ≠ 0 ∧ t < now))

/-- Is the cookie one of a host's? A domain that is missing counts as empty. -/
def isOfHost (domain : String) (cookie : Entries) : Bool :=
  Domain.matchesHost (((Entries.get? cookie "domain").bind Value.str?).getD "") domain

/-- The cookies of a host among those that a browser holds. -/
def ofHost (domain : String) (held : List Value) : List Entries := (held.filterMap Value.dict?).filter (isOfHost domain)

/-- The cookies of a host whose expiry has not passed. -/
def currentOf (domain : String) (held : List Value) (now : ℚ) : List Entries :=
  (ofHost domain held).filter fun cookie => IsCurrent now cookie

/-! ### The expiry of a cookie -/

theorem cookieExpiry_positive {cookie : Entries} {t : ℚ} (moment : moment? cookie = some t) (positive : 0 < t) :
    cookieExpiry cookie = cookie.getD "expires" := by
  have present : (cookie.getD "expires").isPresent = true := by
    unfold moment? at moment
    cases kind : cookie.getD "expires" with
    | bool b =>
      rw [kind] at moment
      cases b with
      | true => rfl
      | false =>
        cases moment
        exact absurd positive (by decide)
    | int n =>
      rw [kind] at moment
      cases moment
      have some : 0 < n := Int.cast_pos.mp positive
      simp only [Value.isPresent, bne_iff_ne]
      omega
    | float x =>
      rw [kind] at moment
      have zero := (Binary.beq_iff moment Binary.value?_zero).not.mpr positive.ne'
      simpa [Value.isPresent, bne] using zero
    | _ =>
      rw [kind] at moment
      cases moment
  rw [cookieExpiry, Value.present?, if_pos present, Option.getD_some]

/-- The expiry that the program reckons with is above zero for the same cookies, and the same there. -/
theorem moment?_positive {cookie : Entries} {t : ℚ} (positive : 0 < t) :
    moment? cookie = some t ↔ (cookieExpiry cookie).number? = some t := by
  constructor
  · intro moment
    rw [cookieExpiry_positive moment positive]
    exact moment
  · unfold cookieExpiry Value.present?
    split
    · exact id
    · intro moment
      cases moment
      exact absurd positive (by decide)

theorem isPositive_number {v : Value} {t : ℚ} (number : v.number? = some t) (complaint : String) :
    isPositive complaint v = .ok (decide (0 < t)) := by
  rcases Value.number?_cases number with ⟨x, rfl, value⟩ | ⟨n, integer, other, rfl⟩
  · have order := Binary.lt_iff Binary.value?_zero value
    rw [isPositive, decide_eq_decide.mpr order]
  · have order : (0 < n) = ((0 : ℚ) < n) := by simp
    rw [isPositive.eq_2 _ _ _ other integer]
    simp only [order]

theorem isPositive_ok {v : Value} (storable : v.Storable) {complaint : String} {b : Bool}
    (h : isPositive complaint v = .ok b) : ∃ t, v.number? = some t := by
  cases v with
  | float x => exact storable.number
  | int n => exact ⟨_, rfl⟩
  | bool b => exact ⟨_, rfl⟩
  | _ => cases h

theorem isBefore_number {v : Value} {t s : ℚ} (number : v.number? = some t) {now : Float}
    (clock : (Binary.ofFloat now).value? = some s) : isBefore v now = decide (t < s) := by
  rcases Value.number?_cases number with ⟨x, rfl, value⟩ | ⟨n, integer, other, rfl⟩
  · rw [isBefore, decide_eq_decide.mpr (Binary.lt_iff value clock)]
  · rw [isBefore.eq_2 _ _ _ other integer, Bool.eq_iff_iff, Binary.gtInt_iff clock, decide_eq_true_eq]

theorem isStale_number {cookie : Entries} {t s : ℚ} (number : (cookieExpiry cookie).number? = some t) {now : Float}
    (clock : (Binary.ofFloat now).value? = some s) : isStale cookie now = .ok (!decide (IsCurrent s cookie)) := by
  have current : IsCurrent s cookie ↔ ¬ (0 < t ∧ t < s) := by
    unfold IsCurrent
    constructor
    · rintro current ⟨positive, before⟩
      exact absurd (current t ((moment?_positive positive).mpr number) positive) (not_le.mpr before)
    · intro notBefore u moment positive
      rw [Option.mem_def, moment?_positive positive, number] at moment
      cases moment
      exact not_lt.mp fun before => notBefore ⟨positive, before⟩
  rw [isStale, isPositive_number number]
  change Except.ok (decide (0 < t) && isBefore (cookieExpiry cookie) now) = _
  rw [isBefore_number number clock, ← Bool.decide_and, ← decide_not]
  exact congrArg Except.ok (decide_eq_decide.mpr (not_iff_comm.mp current.symm).symm)

/-- What is given again is what is current. -/
theorem live_eq {cookies : List Entries} (numbers : ∀ cookie ∈ cookies, ∃ t, (cookieExpiry cookie).number? = some t)
    {now : Float} {s : ℚ} (clock : (Binary.ofFloat now).value? = some s) :
    live now cookies = (cookies.filter fun cookie => IsCurrent s cookie, none) := by
  induction cookies with
  | nil => rfl
  | cons cookie cookies ih =>
    obtain ⟨t, number⟩ := numbers cookie (by simp)
    rw [live, isStale_number number clock, ih fun other member => numbers other (List.mem_cons_of_mem _ member)]
    by_cases current : IsCurrent s cookie
    · simp [current]
    · simp [current]

/-! ### What a save keeps -/

theorem belongs_ok {domain : String} {v : Value} {b : Bool} (h : belongs domain v = .ok b) :
    ∃ cookie, v = .dict cookie ∧ isOfHost domain cookie = b := by
  cases v with
  | dict cookie =>
    refine ⟨cookie, rfl, ?_⟩
    rw [belongs] at h
    rw [isOfHost]
    cases found : Entries.get? cookie "domain" with
    | none =>
      rw [found] at h
      exact Except.ok.inj h
    | some w =>
      rw [found] at h
      cases w with
      | str s => exact Except.ok.inj h
      | _ => cases h
  | _ => cases h

theorem filterAuxM_belongs {domain : String} {held passed found : List Value}
    (h : held.filterAuxM (belongs domain) passed = .ok found) :
    (found.reverse.map fun v => v.dict?.getD []) =
      (passed.reverse.map fun v => v.dict?.getD []) ++ ofHost domain held := by
  induction held generalizing passed with
  | nil =>
    cases h
    simp [ofHost]
  | cons v held ih =>
    rw [List.filterAuxM] at h
    obtain ⟨b, belongs, h⟩ := bind_ok h
    obtain ⟨cookie, rfl, same⟩ := belongs_ok belongs
    have first : (Value.dict cookie :: held).filterMap Value.dict? = cookie :: held.filterMap Value.dict? := rfl
    rw [ih h, ofHost, ofHost, first, List.filter_cons, same]
    cases b with
    | true => simp [Value.dict?]
    | false => rfl

theorem expiry?_ok {cookie : Entries} (all : ∀ e ∈ cookie, e.2.Storable) {found : Option ℤ}
    (h : expiry? cookie = .ok found) : (∃ t, (cookieExpiry cookie).number? = some t) ∧ found = deadline? cookie := by
  obtain ⟨b, sign, h⟩ := bind_ok h
  have number : ∃ t, (cookieExpiry cookie).number? = some t := by
    unfold cookieExpiry Value.present? at sign ⊢
    split
    · rename_i present
      rw [if_pos present] at sign
      exact isPositive_ok (Value.Storable.getD all _) sign
    · exact ⟨_, rfl⟩
  obtain ⟨t, number⟩ := number
  refine ⟨⟨t, number⟩, ?_⟩
  rw [isPositive_number number] at sign
  have same := Except.ok.inj sign
  subst same
  by_cases positive : 0 < t
  · have moment := (moment?_positive positive).mpr number
    have later : ∃ u ∈ moment? cookie, 0 < u := ⟨t, moment, positive⟩
    rw [deadline?, if_pos later, ← cookieExpiry_positive moment positive]
    rw [decide_eq_true positive, if_pos rfl] at h
    rcases Value.number?_cases number with ⟨x, same, _⟩ | ⟨n, integer, other, _⟩
    · rw [same] at h ⊢
      obtain ⟨n, cut, h⟩ := bind_ok h
      cases h
      exact (Value.truncate_ok cut).symm
    · generalize cookieExpiry cookie = v at *
      cases v with
      | float x => exact absurd rfl (other x)
      | int n => exact (Except.ok.inj h).symm
      | bool b => exact (Except.ok.inj h).symm
      | _ => cases integer
  · have never : ¬ ∃ u ∈ moment? cookie, 0 < u := by
      rintro ⟨u, moment, above⟩
      rw [Option.mem_def, moment?_positive above, number] at moment
      cases moment
      exact positive above
    rw [deadline?, if_neg never]
    rw [decide_eq_false positive] at h
    exact (Except.ok.inj h).symm

theorem expiries_ok {cookies : List Entries} (all : ∀ cookie ∈ cookies, ∀ e ∈ cookie, e.2.Storable)
    {found : List (Option ℤ)} (h : cookies.mapM expiry? = .ok found) :
    (∀ cookie ∈ cookies, ∃ t, (cookieExpiry cookie).number? = some t) ∧
      found.filterMap id = cookies.filterMap deadline? := by
  induction cookies generalizing found with
  | nil =>
    cases h
    simp
  | cons cookie cookies ih =>
    obtain ⟨head, tail⟩ := List.forall_mem_cons.mp all
    rw [List.mapM_cons] at h
    obtain ⟨first, read, h⟩ := bind_ok h
    obtain ⟨rest, others, same⟩ := bind_ok h
    cases same
    obtain ⟨number, deadline⟩ := expiry?_ok head read
    obtain ⟨numbers, deadlines⟩ := ih tail others
    refine ⟨List.forall_mem_cons.mpr ⟨number, numbers⟩, ?_⟩
    rw [List.filterMap_cons, List.filterMap_cons, deadlines, id, deadline]

theorem ofHost_storable {domain : String} {held : List Value} (storable : ∀ v ∈ held, v.Storable) :
    ∀ cookie ∈ ofHost domain held, Value.Storable (.dict cookie) := by
  intro cookie member
  obtain ⟨v, among, same⟩ := List.mem_filterMap.mp (List.mem_filter.mp member).1
  cases v with
  | dict entries =>
    cases same
    exact storable _ among
  | _ => cases same

/-- A save keeps the cookies of the host in their order, and the first of their deadlines. -/
theorem ofCookies_ok {domain : String} {held : List Value} (storable : ∀ v ∈ held, v.Storable) {now : ℤ}
    {session : SavedSession} (h : ofCookies domain held now = .ok session) :
    session.cookies = ofHost domain held ∧ session.savedAt = now ∧
      session.expiresAt = ((ofHost domain held).filterMap deadline?).min? ∧
      ∀ cookie ∈ ofHost domain held, ∃ t, (cookieExpiry cookie).number? = some t := by
  obtain ⟨kept, filtered, h⟩ := bind_ok h
  obtain ⟨found, collected, same⟩ := bind_ok filtered
  cases same
  have cookies := filterAuxM_belongs collected
  rw [List.reverse_nil, List.map_nil, List.nil_append] at cookies
  rw [cookies] at h
  obtain ⟨expiries, mapped, h⟩ := bind_ok h
  have all (cookie : Entries) (member : cookie ∈ ofHost domain held) : ∀ e ∈ cookie, e.2.Storable := by
    cases ofHost_storable storable cookie member with
    | dict _ each => exact each
  obtain ⟨numbers, deadlines⟩ := expiries_ok all mapped
  rw [deadlines] at h
  have same := Except.ok.inj h
  subst same
  exact ⟨rfl, rfl, rfl, numbers⟩

end SavedSession

end BrowserFlow
