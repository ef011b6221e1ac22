import BrowserFlow.Text.Fields

/-!
Paths as sequences of names. A path from the root begins with the part `/`; repeated slashes and the name `.`
mean nothing.
-/

namespace BrowserFlow

structure Path where
  parts : List String
  deriving DecidableEq, Repr, Inhabited

namespace Path

def names (cs : List Char) : List String :=
  ((Text.splitOn '/' cs).map String.ofList).filter fun name => !name.isEmpty && name != "."

def ofText (s : String) : Path :=
  let cs := s.toList
  match (cs.takeWhile (· == '/')).length with
  | 0 => ⟨names cs⟩
  | 2 => ⟨"//" :: names cs⟩
  | _ => ⟨"/" :: names cs⟩

def child (p : Path) (s : String) : Path := ⟨p.parts ++ names s.toList⟩

/-- The path without names that lead upwards: each takes back the name before it. -/
def flat (p : Path) : Path :=
  ⟨p.parts.foldl (fun parts name =>
    if name != ".." then parts ++ [name]
    else if parts == ["/"] || parts == ["//"] then parts
    else parts.dropLast) []⟩

def text (p : Path) : String :=
  match p.parts with
  | [] => "."
  | first :: rest =>
    if first == "/" || first == "//" then first ++ "/".intercalate rest else "/".intercalate p.parts

def hasNul (p : Path) : Bool := p.parts.any fun name => name.toList.contains (Char.ofNat 0)

/-- The paths of the directories on the way to a path and the path itself, outermost first. -/
def prefixes (p : Path) : List Path := (List.range p.parts.length).map fun n => ⟨p.parts.take (n + 1)⟩

end Path

end BrowserFlow
