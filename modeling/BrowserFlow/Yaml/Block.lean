import BrowserFlow.Yaml.Quoted

/-!
Block scalars: indented lines after `|`, which keeps their ends, or `>`, which folds them. A sign after the mark says
what becomes of the line ends at the very end, a digit how far the lines are indented.
-/

namespace BrowserFlow.Yaml

inductive Chomping
  | strip
  | clip
  | keep
  deriving DecidableEq

def chomping? (cs : List Char) : Option (Chomping × List Char) :=
  match cs with
  | '+' :: rest => some (.keep, rest)
  | '-' :: rest => some (.strip, rest)
  | _ => none

def increment? (cs : List Char) : Option (Nat × List Char) :=
  match cs with
  | c :: rest => if c.isDigit then some (c.toNat - 0x30, rest) else none
  | [] => none

def blockSigns (cs : List Char) : Except Refusal (Chomping × Option Nat × List Char) := do
  let (chomping, increment, rest) := match chomping? cs with
    | some (chomping, rest) =>
      match increment? rest with
      | some (n, rest) => (chomping, some n, rest)
      | none => (chomping, none, rest)
    | none =>
      match increment? cs with
      | some (n, rest) =>
        let (chomping, rest) := (chomping? rest).getD (.clip, rest)
        (chomping, some n, rest)
      | none => (.clip, none, cs)
  if increment == some 0 || !endsOr (fun c => c == ' ' || isBreak c) rest then .error .malformed
  else .ok (chomping, increment, rest)

/-- Empty lines before the content, and the farthest column that their spaces reach. -/
def leadingBreaks : Nat → Cursor → Nat → List Char × Nat × Cursor
  | 0, c, widest => ([], widest, c)
  | fuel + 1, c, widest =>
    match c.rest with
    | [] => ([], widest, c)
    | ch :: _ =>
      if ch == ' ' then leadingBreaks fuel c.next (max widest c.next.column)
      else if isBreak ch then
        let (breaks, widest, c) := leadingBreaks fuel c.next widest
        (breakText ch :: breaks, widest, c)
      else ([], widest, c)

/-- The ends of empty lines, and the indent of the next line. -/
def blockBreaks (indent : Nat) : Nat → Cursor → List Char × Cursor
  | 0, c => ([], c)
  | fuel + 1, c =>
    let c := c.skipIndent indent
    match c.rest with
    | [] => ([], c)
    | ch :: _ =>
      if isBreak ch then
        let (breaks, c) := blockBreaks indent fuel c.next
        (breakText ch :: breaks, c)
      else ([], c)

def isSpaced (cs : List Char) : Bool := cs.head? == some ' ' || cs.head? == some '\t'

/-- The lines of a block scalar, from a cursor at the indent of the first; `breaks` are the empty lines before it.
    The results are the text, the last line end and the line ends after it. -/
def blockLines (isFolded : Bool) (indent : Nat) : Nat → List Char → Cursor → List Char × List Char × List Char × Cursor
  | 0, breaks, c => ([], [], breaks, c)
  | fuel + 1, breaks, c =>
    let line := c.rest.takeWhile (!isBreak ·)
    let after := c.forward line.length
    let lineEnd := (after.rest.take 1).map breakText
    let (nextBreaks, next) := blockBreaks indent (after.rest.length + 1) after.next
    if next.column == indent && !next.rest.isEmpty then
      let joint :=
        if isFolded && lineEnd == ['\n'] && !isSpaced c.rest && !isSpaced next.rest then
          if nextBreaks.isEmpty then [' '] else []
        else lineEnd
      let (text, lastEnd, lastBreaks, c) := blockLines isFolded indent fuel nextBreaks next
      (breaks ++ line ++ joint ++ text, lastEnd, lastBreaks, c)
    else (breaks ++ line, lineEnd, nextBreaks, next)

/-- A block scalar from its mark on. `parent` is the indent of what it belongs to. -/
def readBlock (isFolded : Bool) (parent : Int) (c : Cursor) : Except Refusal (List Char × Cursor) := do
  let (chomping, increment, rest) ← blockSigns (c.rest.drop 1)
  let c := (c.goto rest).skipSpaces.skipComment
  if !endsOr isBreak c.rest then throw .malformed
  let least := (max (parent + 1) 1).toNat
  let c := c.next
  let fuel := c.rest.length + 1
  let (breaks, indent, c) := match increment with
    | none =>
      let (breaks, widest, c) := leadingBreaks fuel c 0
      (breaks, max least widest, c)
    | some n =>
      let indent := least + n - 1
      let (breaks, c) := blockBreaks indent fuel c
      (breaks, indent, c)
  let (text, lastEnd, lastBreaks, c) :=
    if c.column == indent && !c.rest.isEmpty then blockLines isFolded indent fuel breaks c
    else ([], [], breaks, c)
  return match chomping with
    | .strip => (text, c)
    | .clip => (text ++ lastEnd, c)
    | .keep => (text ++ lastEnd ++ lastBreaks, c)

end BrowserFlow.Yaml
