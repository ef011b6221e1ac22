import BrowserFlow.Config.EnvFile
import BrowserFlow.Files.Tree
import BrowserFlow.Yaml.Document

/-!
Where settings come from: one settings file, the environment with the variables of one environment file added to
it, and values given by the caller, which win.
-/

namespace BrowserFlow

structure SettingsFile where
  path : Path
  isHome : Bool := false
  deriving Inhabited

namespace SettingsFile

def text (f : SettingsFile) : String := if f.isHome then "~/" ++ f.path.text else f.path.text

/-- The places of a settings file, the first of which counts that is there. The home directory is the working
    directory. -/
def candidates (given : Option String) : List SettingsFile :=
  let own : List SettingsFile := match given with
    | some s => if s.isEmpty then [] else [⟨Path.ofText s, false⟩]
    | none => []
  own ++ [⟨⟨["flow-recorder.yaml"]⟩, false⟩, ⟨⟨["flow-recorder.yml"]⟩, false⟩,
    ⟨⟨["config", "flow-recorder.yaml"]⟩, false⟩, ⟨⟨[".config", "flow-recorder", "config.yaml"]⟩, true⟩]

def first? (files : Files) : List SettingsFile → Except Fault (Option SettingsFile)
  | [] => .ok none
  | f :: rest => do if ← files.isFile f.path then return some f else first? files rest

def find? (files : Files) (given : Option String) : Except Fault (Option SettingsFile) := first? files (candidates given)

def read (files : Files) (f : SettingsFile) : Except Fault Entries := do
  let text ← files.readText f.path
  let invalid (message : String) : Fault := .flow ⟨.configuration, message, [], []⟩
  match Yaml.Document.ofText text.toList with
  | .error .malformed => throw (invalid ("Invalid YAML in " ++ f.text))
  | .error (.scalar fault) => throw fault
  | .ok document =>
    match document.value with
    | .null => return []
    | .dict entries => if document.hasOtherKey then throw (.wrongKind "keywords must be strings") else return entries
    | v => throw (invalid ("Config file " ++ f.text ++ s!" must map section names to settings, got {v.kind}"))

end SettingsFile

structure SettingsRequest where
  configPath : Option String := none
  envFile : Option String := none
  overrides : Entries := []
  deriving Inhabited

namespace SettingsRequest

/-- The environment file: the one asked for, or else the first of two that is there. -/
def envPath? (r : SettingsRequest) (files : Files) : Except Fault (Option Path) := do
  match r.envFile.filter (!·.isEmpty) with
  | some s => return some (Path.ofText s)
  | none =>
    let names ← [".env", ".env.local"].filterM fun name => return (← files.find ⟨[name]⟩).isSome
    return names.head?.map fun name => ⟨[name]⟩

def environment (r : SettingsRequest) (files : Files) (env : Environment) : Except Fault Environment := do
  match ← r.envPath? files with
  | none => return env
  | some path =>
    match files.isFile path with
    | .ok true => return EnvFile.provide env (← files.readText path).toList
    | _ => return env

def settings (r : SettingsRequest) (files : Files) (env : Environment) : Except Fault Settings := do
  let entries ← match ← SettingsFile.find? files r.configPath with
    | some f => SettingsFile.read files f
    | none => pure []
  let s ← Settings.load env entries
  if r.overrides.isEmpty then return s else s.override env r.overrides

/-- Loads settings. The variables of the environment file stay in the environment. -/
def load (r : SettingsRequest) (files : Files) (env : Environment) : Except Fault Settings × Environment :=
  match r.environment files env with
  | .error fault => (.error fault, env)
  | .ok env => (r.settings files env, env)

end SettingsRequest

end BrowserFlow
