import BrowserFlow.Files.Tree
import BrowserFlow.Session.Saved
import BrowserFlow.Value.Json

/-!
The session store: one file per host in one directory. A file that cannot be read counts as none.
-/

namespace BrowserFlow

structure SessionStore where
  directory : Path
  deriving Inhabited

namespace SessionStore

def create (directory : Path) : FileM SessionStore := do
  FileM.makeDirectories directory
  return ⟨directory⟩

def path (s : SessionStore) (domain : String) : Path := s.directory.child (Domain.fileName domain ++ ".json")

def save (s : SessionStore) (domain : String) (held : List Value) (now : Instant) : FileM Unit := do
  let session ← SavedSession.ofCookies domain held now.millis
  let path := s.path domain
  tryCatch (FileM.writeText path session.text) fun fault =>
    match fault with
    | .file _ _ => throw (.flow (.storage ("Failed to save session: " ++ fault.text) (.str path.text)))
    | fault => throw fault

def load (s : SessionStore) (files : Files) (domain : String) : Except Fault (Option SavedSession) := do
  let path := s.path domain
  if (← files.find path).isNone then return none
  match files.readText path with
  | .ok text => return (Json.parse? text.toList).bind fun v => (SavedSession.check v).run.toOption
  | .error (.file _ _) => return none
  | .error fault => throw fault

def isValid (s : SessionStore) (files : Files) (domain : String) (now : Instant) : Except Fault Bool :=
  return (← s.load files domain).any fun session => !session.isExpired now.millis

/-- The cookies of a host that a browser is to be given in order, and why it is not given more. -/
def restorable (s : SessionStore) (files : Files) (domain : String) (now : Instant) : List Entries × Option Fault :=
  match s.load files domain with
  | .error fault => ([], some fault)
  | .ok none => ([], none)
  | .ok (some session) => if session.isExpired now.millis then ([], none) else SavedSession.live now.seconds session.cookies

def delete (s : SessionStore) (domain : String) : FileM Bool := do
  let path := s.path domain
  if (← FileM.ask (·.find path)).isNone then return false
  FileM.remove path
  return true

end SessionStore

end BrowserFlow
