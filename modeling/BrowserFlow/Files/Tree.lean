import BrowserFlow.Error
import BrowserFlow.Files.Path
import BrowserFlow.Text.Lines

/-!
A tree of files and directories, and the operations on it that can fail. Places are the names from the
working directory down, or from the root if the first name is `/`. Both of these always exist.
-/

namespace BrowserFlow

inductive FileNode
  | file (bytes : List UInt8)
  | directory
  deriving DecidableEq, Repr, Inhabited

structure Files where
  nodes : List (List String × FileNode) := []
  deriving Inhabited

namespace Files

def node? (files : Files) (place : List String) : Option FileNode :=
  if place == [] || place == ["/"] then some .directory
  else (files.nodes.find? fun entry => entry.1 == place).map (·.2)

def put (files : Files) (place : List String) (node : FileNode) : Files :=
  ⟨files.nodes.filter (fun entry => entry.1 != place) ++ [(place, node)]⟩

def erase (files : Files) (place : List String) : Files :=
  ⟨files.nodes.filter fun entry => entry.1 != place⟩

def eraseTree (files : Files) (place : List String) : Files :=
  ⟨files.nodes.filter fun entry => !place.isPrefixOf entry.1⟩

def maxNameSize : Nat := 255

/-- The place that further names lead to. The way there must consist of directories; the last name need not
    exist. -/
def walk (files : Files) : List String → List String → Except FileFault (List String)
  | place, [] => .ok place
  | place, name :: rest =>
    match files.node? place with
    | none => .error .missing
    | some (.file _) => .error .notDirectory
    | some .directory =>
      if name == ".." then walk files (if place == ["/"] then place else place.dropLast) rest
      else if maxNameSize < Utf8.size name then .error .nameTooLong
      else walk files (place ++ [name]) rest

def locate (files : Files) (path : Path) : Except Fault (List String) :=
  if path.hasNul then .error .nulInPath
  else
    let found := match path.parts with
      | "/" :: names => files.walk ["/"] names
      | "//" :: names => files.walk ["/"] names
      | names => files.walk [] names
    found.mapError (.file · path.text)

/-- What is at a path, if anything. Only a name that is too long is a fault. -/
def find (files : Files) (path : Path) : Except Fault (Option FileNode) :=
  match files.locate path with
  | .ok place => .ok (files.node? place)
  | .error (.file .nameTooLong shown) => .error (.file .nameTooLong shown)
  | .error _ => .ok none

def isFile (files : Files) (path : Path) : Except Fault Bool := do
  match ← files.find path with
  | some (.file _) => return true
  | _ => return false

def readBytes (files : Files) (path : Path) : Except Fault (List UInt8) := do
  let place ← files.locate path
  match files.node? place with
  | none => .error (.file .missing path.text)
  | some .directory => .error (.file .isDirectory path.text)
  | some (.file bytes) => return bytes

/-- A file as text; every kind of line end is read as a line feed. -/
def readText (files : Files) (path : Path) : Except Fault String := do
  match Utf8.decode (← files.readBytes path) with
  | .ok cs => return String.ofList (Text.unifyNewlines cs)
  | .error refusal => .error (.undecodable refusal)

def names (files : Files) (path : Path) : Except Fault (List (String × FileNode)) := do
  let place ← files.locate path
  match files.node? place with
  | none => .error (.file .missing path.text)
  | some (.file _) => .error (.file .notDirectory path.text)
  | some .directory =>
    return files.nodes.filterMap fun (p, node) =>
      match p.getLast? with
      | some name => if p.dropLast == place then some (name, node) else none
      | none => none

end Files

/-- Computations that change files. What has been changed before a fault stays changed. -/
abbrev FileM := ExceptT Fault (StateM Files)

namespace FileM

def ask (query : Files → Except Fault α) : FileM α := fun files => (query files, files)

def writeBytes (path : Path) (bytes : List UInt8) : FileM Unit := do
  let place ← ask (·.locate path)
  match (← get).node? place with
  | some .directory => throw (.file .isDirectory path.text)
  | _ => modify (·.put place (.file bytes))

def writeText (path : Path) (text : String) : FileM Unit := writeBytes path (Utf8.encode text.toList)

def remove (path : Path) : FileM Unit := do
  let place ← ask (·.locate path)
  match (← get).node? place with
  | none => throw (.file .missing path.text)
  | some .directory => throw (.file .isDirectory path.text)
  | some (.file _) => modify (·.erase place)

def rename (source target : Path) : FileM Unit := do
  let bytes ← ask (·.readBytes source)
  let place ← ask (·.locate source)
  let goal ← ask (·.locate target)
  match (← get).node? goal with
  | some .directory => throw (.file .isDirectory target.text)
  | _ => modify fun files => (files.erase place).put goal (.file bytes)

def makeDirectory (path : Path) : FileM Unit := do
  let place ← ask (·.locate path)
  match (← get).node? place with
  | some .directory => pure ()
  | some (.file _) => throw (.file .alreadyExists path.text)
  | none => modify (·.put place .directory)

def provideDirectory (path : Path) : FileM Unit := do
  let place ← ask (·.locate path)
  if ((← get).node? place).isNone then modify (·.put place .directory)

def makeDirectories (path : Path) : FileM Unit := do
  path.prefixes.dropLast.forM provideDirectory
  makeDirectory path

end FileM

end BrowserFlow
