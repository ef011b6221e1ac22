import BrowserFlow.Files.Tree

/-!
The script store: one file per recording in one directory. Scripts are written to a temporary file first and
then renamed, so that a script is never half there.
-/

namespace BrowserFlow

structure ScriptStore where
  directory : Path
  suffix : String := ".spec.ts"
  /-- if there is a text, all writing is refused with it -/
  refusal : Option String := none
  deriving Inhabited

namespace ScriptStore

def temporaryMark : String := ".tmp-"

/-- Ids name a file directly in the directory. -/
def isValidId (id : String) : Bool :=
  !id.isEmpty && id != "." && id != ".." && !id.toList.contains '/'

def path (s : ScriptStore) (id : String) : Except Fault Path :=
  if isValidId id then .ok (s.directory.child (id ++ s.suffix))
  else .error (.flow (.storage ("Invalid recording id: " ++ Text.quote id) .null))

def idOfValue : Value → Except Fault String
  | .str id => .ok id
  | v =>
    if v.isPresent then .error (.wrongKind s!"expected str, bytes or os.PathLike object, not {v.kind}")
    else .error (.flow (.storage ("Invalid recording id: " ++ v.display) .null))

def create (directory : Path) (suffix : String) : FileM ScriptStore := do
  FileM.makeDirectories directory
  return ⟨directory, suffix, none⟩

def storageFault (action : String) (path : Path) : Fault → Fault
  | .file fault shown =>
    .flow (.storage ("Failed to " ++ action ++ " script: " ++ (Fault.file fault shown).text) (.str path.text))
  | fault => fault

def temporaryPath (s : ScriptStore) (files : Files) : Path :=
  let candidate (n : Nat) : Path :=
    s.directory.child (temporaryMark ++ Text.padZeros 8 (toString n) ++ s.suffix)
  let isTaken (n : Nat) : Bool :=
    match files.find (candidate n) with
    | .ok none => false
    | .ok (some _) => true
    | .error _ => false
  candidate (((List.range (files.nodes.length + 1)).find? (!isTaken ·)).getD 0)

/-- A suffix with a slash in it would put the temporary file into a directory that is not there. -/
def replaceFile (s : ScriptStore) (path : Path) (text : String) : FileM Unit := do
  let temporary := s.temporaryPath (← get)
  if s.suffix.toList.contains '/' then throw (.file .missing temporary.text)
  FileM.writeText temporary text
  tryCatch (FileM.rename temporary path) fun fault => do
    FileM.remove temporary
    throw fault

def write (s : ScriptStore) (id text : String) : FileM Unit := do
  match s.refusal with
  | some message => throw (.flow (.storage message .null))
  | none =>
    let path ← s.path id
    tryCatch (s.replaceFile path text) fun fault => throw (storageFault "write" path fault)

def existing (s : ScriptStore) (files : Files) (id : String) : Except Fault Path := do
  let path ← s.path id
  match ← files.find path with
  | none => .error (.flow (.recordingNotFound (.str id)))
  | some _ => return path

def readFault (path : Path) : Fault → Fault
  | .undecodable refusal =>
    .flow (.storage ("Failed to read script: " ++ refusal.message) (.str path.text))
  | fault => storageFault "read" path fault

def read (s : ScriptStore) (files : Files) (id : String) : Except Fault String := do
  let path ← s.existing files id
  (files.readText path).mapError (readFault path)

def delete (s : ScriptStore) (id : String) : FileM Unit := do
  let path ← FileM.ask (s.existing · id)
  tryCatch (FileM.remove path) fun fault => throw (storageFault "delete" path fault)

def list (s : ScriptStore) (files : Files) : Except Fault (List String) := do
  let names ← files.names s.directory
  let scripts := names.filterMap fun (name, node) =>
    match node with
    | .file _ =>
      if Text.endsWith name.toList s.suffix.toList && !Text.startsWith name.toList temporaryMark.toList then
        some name
      else none
    | .directory => none
  return scripts.mergeSort fun a b => a ≤ b

end ScriptStore

end BrowserFlow
