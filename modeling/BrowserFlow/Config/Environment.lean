import BrowserFlow.Config.Settings
import BrowserFlow.Text.Case
import BrowserFlow.Text.Fields
import BrowserFlow.Value.Json

/-!
Settings from the environment. A variable named for a section holds the whole section as JSON; a longer name,
with double underscores between its parts, holds a single setting and wins over the section. Names are compared
in lower case. `Settings.load` lays given values over those of the environment.
-/

namespace BrowserFlow

structure Environment where
  bindings : List (String × String) := []
  deriving Inhabited

namespace Environment

def get? (env : Environment) (name : String) : Option String :=
  (env.bindings.find? fun entry => entry.1 == name).map (·.2)

def set (env : Environment) (name value : String) : Environment :=
  if (env.get? name).isSome then
    ⟨env.bindings.map fun entry => if entry.1 == name then (name, value) else entry⟩
  else ⟨env.bindings ++ [(name, value)]⟩

def provide (env : Environment) (name value : String) : Environment :=
  if (env.get? name).isSome then env else env.set name value

def mark : String := "flow_recorder__"

/-- The same variables under their names in lower case. Of equal names the last one counts. -/
def lowered (env : Environment) : Environment :=
  env.bindings.foldl (fun found entry => found.set (Text.lower entry.1) entry.2) {}

def nameParts : List Char → List (List Char)
  | [] => [[]]
  | '_' :: '_' :: cs => [] :: nameParts cs
  | c :: cs =>
    match nameParts cs with
    | [] => [[c]]
    | part :: rest => (c :: part) :: rest

end Environment

/-- Writes a text at the end of a path of keys. Where something else than a dictionary stands in the way, nothing
    is written. -/
def Entries.putText (entries : Entries) (s : String) : List String → Entries
  | [] => entries
  | [key] => entries.put key (.str s)
  | key :: keys =>
    match entries.get? key with
    | none => entries.put key (.dict (putText [] s keys))
    | some (.dict inner) => entries.put key (.dict (putText inner s keys))
    | some _ => entries

namespace Environment

def singles (env : Environment) (name : String) : Entries :=
  let beginning := (mark ++ name ++ "__").toList
  env.bindings.foldl (fun entries (title, value) =>
    if Text.startsWith title.toList beginning then
      Entries.putText entries value ((nameParts (title.toList.drop beginning.length)).map String.ofList)
    else entries) []

/-- The entries under the names of the settings that their own names spell in another case. -/
def spelled (names : List String) (entries : Entries) : Entries :=
  Entries.collect (entries.map fun (key, v) => ((names.find? fun name => name == Text.lower key).getD key, v))

def section? (env : Environment) (name : String) (names : List String) : Except Fault (Option Value) :=
  let singles := env.singles name
  match env.get? (mark ++ name) with
  | none => .ok (if singles.isEmpty then none else some (.dict (spelled names singles)))
  | some text =>
    match Json.parse? text.toList with
    | none => .error (.unreadableSetting name "EnvSettingsSource")
    | some .null => .ok none
    | some (.dict entries) => .ok (some (.dict (spelled names (Entries.overlay entries singles))))
    | some v => .ok (some v)

def settings (env : Environment) : Except Fault Entries := do
  let env := env.lowered
  let sections ← Settings.sections.mapM fun (name, names) => do
    return (name, ← env.section? name names)
  let sections : Entries := sections.filterMap fun (name, v) => v.map (name, ·)
  match env.get? (mark ++ "debug") with
  | some text => return sections ++ [("debug", .str text)]
  | none => return sections

end Environment

namespace Settings

def load (env : Environment) (given : Entries) : Except Fault Settings := do
  (check (Entries.overlay (← env.settings) given)).run

def override (s : Settings) (env : Environment) (values : Entries) : Except Fault Settings :=
  load env (Entries.overlay s.entries values)

end Settings

end BrowserFlow
