import BrowserFlow.Recording
import BrowserFlow.Script.Layout
import BrowserFlow.Script.Reader
import BrowserFlow.Time.Iso8601

/-!
The summary of a stored script. Header lines count only before the first statement, so that nothing inside a
command can pass for one; the name, the first navigation and the steps by hand are found at the beginnings of
lines.
-/

namespace BrowserFlow.Script

/-- The instant that a header line gives. What is no date at all stands for the start of 1970; a date whose
    universal time lies outside the years 1 to 9999 is a fault. -/
def readTimestamp (cs : List Char) : Except Fault Instant :=
  let cs := Text.trim cs
  let cs := if cs.getLast? == some 'Z' then cs.dropLast ++ "+00:00".toList else cs
  match Iso8601.read? cs with
  | none => .ok .epoch
  | some reading =>
    let instant : Instant := ⟨reading.micros - reading.offset.getD 0⟩
    if instant.isRepresentable then .ok instant else .error .dateOutOfRange

structure Scan where
  id : String
  name : Option String := none
  description : Option String := none
  createdAt : Instant := .epoch
  targetSite : Option String := none
  manualSteps : Nat := 0
  inHeader : Bool := true

namespace Scan

def nonempty? (s : String) : Option String := if s.isEmpty then none else some s

/-- The description after its marker: one blank is taken off, and blanks at the end belong to it. -/
def readDescription (rest : List Char) : Option String :=
  nonempty? (unescapedText (match rest with
    | ' ' :: cs => cs
    | cs => cs))

def testName? (line : List Char) : Option String := do
  let cs ← expect "test(".toList line
  let (body, _) ← literal (Text.trimLeft cs)
  return unescapedText body

def isHeaderLine (line : List Char) : Bool :=
  line.isEmpty || (expect "//".toList line).isSome || (expect "import ".toList line).isSome

def readBody (s : Scan) (line : List Char) : Scan :=
  let s :=
    if (expect manualStepMarker.toList line).isSome then { s with manualSteps := s.manualSteps + 1 }
    else
      match (if s.inHeader && s.name.isNone then testName? line else none) with
      | some name => { s with name := some name }
      | none =>
        match s.targetSite with
        | some _ => s
        | none => { s with targetSite := textCall? "goto" line }
  { s with inHeader := s.inHeader && isHeaderLine line }

def readLine (s : Scan) (raw : List Char) : Except Fault Scan :=
  let line := Text.trim raw
  if !s.inHeader then .ok (s.readBody line)
  else
    match expect idMarker.toList line with
    | some rest => .ok { s with id := (nonempty? (String.ofList (Text.trim rest))).getD s.id }
    | none =>
      match expect createdMarker.toList line with
      | some rest => do return { s with createdAt := ← readTimestamp rest }
      | none =>
        match expect descriptionMarker.toList line with
        | some _ =>
          let rest := (Text.trimLeft raw).drop descriptionMarker.length
          .ok { s with description := readDescription rest }
        | none => .ok (s.readBody line)

def recording (s : Scan) : Recording where
  id := s.id
  name := .str (s.name.getD s.id)
  description := s.description.map .str
  createdAt := s.createdAt
  updatedAt := s.createdAt
  targetSite := s.targetSite
  manualSteps := s.manualSteps

end Scan

def stem (fileName suffix : String) : String :=
  if fileName.endsWith suffix then String.ofList (fileName.toList.take (fileName.length - suffix.length))
  else fileName

/-- The summary of the script that a file holds. Where it gives no id, the file name without the suffix is
    the id, and where it gives no name, the id is the name. -/
def summary (fileName text suffix : String) : Except Fault Recording := do
  let scan ← (Text.splitLines text.toList).foldlM Scan.readLine { id := stem fileName suffix }
  return scan.recording

end BrowserFlow.Script
