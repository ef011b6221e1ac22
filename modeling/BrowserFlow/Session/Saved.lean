import BrowserFlow.Config.Rule
import BrowserFlow.Session.Domain
import BrowserFlow.Time.Instant
import BrowserFlow.Value.JsonText

/-!
A saved session: the cookies of a host, when they were saved and when the first of them expires. Times are
milliseconds since the epoch.
-/

namespace BrowserFlow

namespace Instant

def seconds (t : Instant) : Float := Numeral.nearestFloat (t.micros < 0) t.micros.natAbs (-6)

def millis (t : Instant) : Int := ((Binary.ofFloat (t.seconds * 1000.0)).truncate?).getD 0

end Instant

structure SavedSession where
  domain : String
  cookies : List Entries := []
  savedAt : Int
  expiresAt : Option Int := none
  deriving Inhabited

namespace SavedSession

/-- The value under the name that files use, or else under a second one, with the name it was found under. -/
def named? (e : Entries) (name other : String) : Option (String × Value) :=
  (e.get? name).map (name, ·) <|> (e.get? other).map (other, ·)

def required {α : Type} (e : Entries) (name other : String) (rule : Rule α) : Checked α :=
  match named? e name other with
  | some (found, v) => Checked.ofRule [found] rule v
  | none => Checked.fail [name] "missing"

def checkCookie (v : Value) (i : Nat) : Checked Entries :=
  match v with
  | .dict e => pure e
  | _ => Checked.fail ["cookies", toString i] "dict_type"

def checkCookies (v : Option Value) : Checked (List Entries) :=
  match v with
  | none => pure []
  | some (.list vs) => vs.zipIdx.mapA fun (v, i) => checkCookie v i
  | some _ => Checked.fail ["cookies"] "list_type"

def checkExpiry (e : Entries) : Checked (Option Int) :=
  match named? e "expiresAt" "expires_at" with
  | some (found, v) => Checked.ofRule [found] (Rule.optional Rule.int) v
  | none => pure none

def check (v : Value) : Checked SavedSession :=
  match v with
  | .dict e =>
    mk <$> required e "domain" "domain" Rule.text <*> checkCookies (Entries.get? e "cookies")
      <*> required e "savedAt" "saved_at" Rule.int <*> checkExpiry e
  | _ => Checked.fail [] "model_type"

def entries (s : SavedSession) : Entries :=
  [("domain", .str s.domain), ("cookies", .list (s.cookies.map .dict)), ("savedAt", .int s.savedAt),
    ("expiresAt", match s.expiresAt with
      | some n => .int n
      | none => .null)]

def text (s : SavedSession) : String := Json.pretty 0 (.dict s.entries)

/-- Has the time come when the first cookie expires? A time of zero is none. -/
def isExpired (s : SavedSession) (now : Int) : Bool :=
  match s.expiresAt with
  | some t => t != 0 && t < now
  | none => false

/-- When a cookie expires; -1 if it says nothing. -/
def cookieExpiry (cookie : Entries) : Value := ((cookie.getD "expires").present?).getD (.int (-1))

/-- Is a number above zero? `sign` and the kinds of its sides are named if there is no number. -/
def isPositive (complaint : String) (v : Value) : Except Fault Bool :=
  match v, v.integer? with
  | .float x, _ => .ok (0.0 < x)
  | _, some n => .ok (0 < n)
  | _, none => .error (.wrongKind complaint)

def isBefore (v : Value) (now : Float) : Bool :=
  match v, v.integer? with
  | .float x, _ => x < now
  | _, some n => (Binary.ofFloat now).gtInt n
  | _, none => false

def expiry? (cookie : Entries) : Except Fault (Option Int) := do
  let v := cookieExpiry cookie
  if ← isPositive s!"'>' not supported between instances of '{v.kind}' and 'int'" v then
    match v, v.integer? with
    | .float x, _ => return some (← Value.truncate (x * 1000.0))
    | _, n => return n.map (1000 * ·)
  else return none

def belongs (domain : String) (cookie : Value) : Except Fault Bool :=
  match cookie with
  | .dict e =>
    match (Entries.get? e "domain").getD (.str "") with
    | .str s => .ok (Domain.matchesHost s domain)
    | v => .error (.noMember v.kind "lstrip")
  | v => .error (.noMember v.kind "get")

def ofCookies (domain : String) (held : List Value) (now : Int) : Except Fault SavedSession := do
  let cookies := (← held.filterM (belongs domain)).map fun v => v.dict?.getD []
  let expiries := (← cookies.mapM expiry?).filterMap id
  return { domain, cookies, savedAt := now, expiresAt := expiries.min? }

def isStale (cookie : Entries) (now : Float) : Except Fault Bool := do
  let v := cookieExpiry cookie
  let isLimited ← isPositive s!"'<' not supported between instances of 'int' and '{v.kind}'" v
  return isLimited && isBefore v now

/-- The cookies that have not expired, up to one about which this cannot be said. -/
def live (now : Float) : List Entries → List Entries × Option Fault
  | [] => ([], none)
  | cookie :: rest =>
    match isStale cookie now with
    | .error fault => ([], some fault)
    | .ok isStale =>
      let (cookies, fault) := live now rest
      (if isStale then cookies else cookie :: cookies, fault)

end SavedSession

end BrowserFlow
