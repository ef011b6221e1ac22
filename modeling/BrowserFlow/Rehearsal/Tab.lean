import BrowserFlow.Browser.Adapter
import BrowserFlow.Rehearsal.Call
import BrowserFlow.Text.Base64
import BrowserFlow.Value.Access
import BrowserFlow.Value.Number

/-!
A tab for rehearsals: it answers as it has been told to and keeps a log of what it was asked.
-/

namespace BrowserFlow.Rehearsal

inductive Turn
  | answer (v : Value)
  | fault (text : String)
  deriving Inhabited

structure Tab where
  url : Option String := some "https://example.com/"
  urlFault : Option String := none
  callMs : Value := .int 0
  loadMs : Value := .int 0
  exposeMs : Value := .int 0
  missing : List String := []
  faults : List (String × String) := []
  answers : List (String × Value) := []
  keyAnswer : Value := .str "pressed"
  keyFault : Option String := none
  scrollFault : Option String := none
  installFault : Option String := none
  uninstallFault : Option String := none
  exposeFault : Option String := none
  imageFault : Option String := none
  otherFault : Option String := none
  otherAnswer : Value := .null
  image : List UInt8 := [0x89, 0x50, 0x4E, 0x47]
  loadFaults : List (String × String) := []
  /-- successive states of the document; the last one stays -/
  ready : List Turn := [.answer (.str "complete")]
  searches : List (String × List Turn) := []
  /-- listeners are neither added nor removed unless an adapter does it -/
  isDeaf : Bool := false
  /-- listeners cannot be removed -/
  isSticky : Bool := false
  listeners : List String := []
  exposed : List String := []
  log : List Call := []
  deriving Inhabited

namespace Tab

def look (key : String) (pairs : List (String × α)) : Option α :=
  (pairs.find? fun pair => pair.1 == key).map (·.2)

def raiseOr (fault : Option String) (v : Value) : Reply :=
  match fault with
  | some text => .error (.raised text)
  | none => .ok (.value v)

def duration (t : Tab) : PageRequest → Value
  | .run _ => t.callMs
  | .load _ => t.loadMs
  | .expose _ => t.exposeMs
  | _ => .int 0

def delay? (t : Tab) (request : PageRequest) : Option Float :=
  match Value.thousandth (t.duration request) with
  | .ok seconds => if 0.0 < seconds then some seconds else none
  | .error _ => none

def note (t : Tab) (timeoutMs : Option Value) (request : PageRequest) : Tab :=
  let call? : Option Call := match request with
    | .url => none
    | .run script => some (.run script)
    | .load url => some (.load url timeoutMs)
    | .screenshot => some .screenshot
    | .expose name => some (.expose name)
    | .addLoadListener _ => some .listen
    | .removeLoadListener _ => some .unlisten
  { t with log := t.log ++ call?.toList }

def takeTurn (turns : List Turn) : Reply × List Turn :=
  let reply (turn : Turn) : Reply := match turn with
    | .answer v => .ok (.value v)
    | .fault text => .error (.raised text)
  match turns with
  | [] => (.ok .nothing, [])
  | [turn] => (reply turn, [turn])
  | turn :: rest => (reply turn, rest)

def onElement (t : Tab) (selector : String) : Reply :=
  match look selector t.faults, look selector t.answers with
  | some text, _ => .error (.raised text)
  | none, some v => .ok (.value v)
  | none, none => .ok (.value (.bool (!t.missing.contains selector)))

def runScript (t : Tab) : PageScript → Reply × Tab
  | .install => (raiseOr t.installFault (.str "installed"), t)
  | .uninstall => (raiseOr t.uninstallFault (.bool true), t)
  | .ready =>
    let (reply, ready) := takeTurn t.ready
    (reply, { t with ready })
  | .find selector =>
    match look selector t.searches with
    | some turns =>
      let (reply, turns) := takeTurn turns
      (reply, { t with searches := t.searches.map fun pair => if pair.1 == selector then (selector, turns) else pair })
    | none => (.ok (.value (.bool (!t.missing.contains selector))), t)
  | .click selector | .fill selector _ | .select selector _ => (t.onElement selector, t)
  | .press _ => (raiseOr t.keyFault t.keyAnswer, t)
  | .scroll _ _ => (raiseOr t.scrollFault .null, t)
  | .other _ => (raiseOr t.otherFault t.otherAnswer, t)

def reply (t : Tab) : PageRequest → Reply × Tab
  | .url =>
    match t.urlFault, t.url with
    | some text, _ => (.error (.raised text), t)
    | none, some url => (.ok (.value (.str url)), t)
    | none, none => (.ok .nothing, t)
  | .run script => t.runScript script
  | .load url =>
    match look url t.loadFaults with
    | some text => (.error (.raised text), t)
    | none => (.ok .nothing, { t with url := some url })
  | .screenshot =>
    match t.imageFault with
    | some text => (.error (.raised text), t)
    | none => (.ok (.image t.image), t)
  | .expose name =>
    match t.exposeFault with
    | some text => (.error (.raised text), t)
    | none => (.ok .nothing, { t with exposed := t.exposed ++ [name] })
  | .addLoadListener name => (.ok .nothing, { t with listeners := t.listeners ++ [name] })
  | .removeLoadListener name =>
    (.ok .nothing, if t.isSticky then t else { t with listeners := t.listeners.erase name })

def textPairs (v : Value) : List (String × String) :=
  v.entries.filterMap fun (key, w) => w.str?.map (key, ·)

def turns (v : Value) : List Turn :=
  v.items.map fun w =>
    match w.textField? "raise" with
    | some text => .fault text
    | none => .answer w

/-- Tells the tab how to behave in one respect; nothing restores the way it is by default. -/
def set (t : Tab) (key : String) (v : Value) : Tab :=
  let basic : Tab := {}
  let flag := v.isPresent
  match key with
  | "url" => { t with url := v.str? }
  | "url_error" => { t with urlFault := v.str? }
  | "call_ms" => { t with callMs := v }
  | "load_ms" => { t with loadMs := v }
  | "expose_ms" => { t with exposeMs := v }
  | "missing" => { t with missing := v.texts }
  | "errors" => { t with faults := textPairs v }
  | "results" => { t with answers := v.entries }
  | "key_result" => { t with keyAnswer := v }
  | "key_error" => { t with keyFault := v.str? }
  | "scroll_error" => { t with scrollFault := v.str? }
  | "install_error" => { t with installFault := v.str? }
  | "uninstall_error" => { t with uninstallFault := v.str? }
  | "expose_error" => { t with exposeFault := v.str? }
  | "screenshot" => { t with image := Base64.decode ((v.str?).getD "").toList }
  | "screenshot_error" => { t with imageFault := v.str? }
  | "eval_error" => { t with otherFault := v.str? }
  | "eval_result" => { t with otherAnswer := v }
  | "load_errors" => { t with loadFaults := textPairs v }
  | "ready" => { t with ready := match turns v with | [] => basic.ready | turns => turns }
  | "find" => { t with searches := v.entries.map fun (selector, w) => (selector, turns w) }
  | "no_listeners" => { t with isDeaf := flag }
  | "sticky_listeners" => { t with isSticky := flag }
  | _ => t

def configure (t : Tab) (settings : Entries) : Tab := settings.foldl (fun t (key, v) => t.set key v) t

end Tab

structure Page where
  tab : Tab := {}
  adapter : Option Adapter := none
  deriving Inhabited

namespace Page

def ofSettings (v : Value) (isAdapted : Bool := false) : Page where
  tab := Tab.configure {} v.entries
  adapter := if isAdapted || v.boolField "adapter" then some { timeoutMs := (v.field "timeout_ms").given? } else none

def change (p : Page) (v : Value) : Page := { p with tab := p.tab.configure v.entries }

def fresh (p : Page) : Page := { p with tab := { p.tab with log := [] } }

def calls (p : Page) (isFull : Bool) : Value := .list (p.tab.log.map (Call.value isFull))

/-- What reaches the tab of a request. A deaf tab without an adapter hears nothing of listeners. -/
def forward? (p : Page) (request : PageRequest) : Option PageRequest :=
  match p.adapter, request with
  | some a, request => a.forward? request
  | none, .addLoadListener _ | none, .removeLoadListener _ => if p.tab.isDeaf then none else some request
  | none, request => some request

def note (p : Page) (request : PageRequest) : Page :=
  { p with tab := p.tab.note (p.adapter.bind (·.timeoutMs)) request }

/-- The reply to a request, which a cancelled caller does not get to see. -/
def reply (p : Page) (request : PageRequest) (cancelled : Bool) : Reply × Page :=
  let (reply, tab) := if cancelled then (.error .cancelled, p.tab) else p.tab.reply request
  match p.adapter with
  | some a =>
    let (a, reply) := a.settle request reply
    (reply, { p with tab, adapter := some a })
  | none => (reply, { p with tab })

end Page

end BrowserFlow.Rehearsal
