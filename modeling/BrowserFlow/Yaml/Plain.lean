import BrowserFlow.Yaml.Quoted

/-!
Scalars without quotes. They go on as long as nothing in them looks like structure, over several lines if these are
indented.
-/

namespace BrowserFlow.Yaml

def startsPlain (isFlow : Bool) (cs : List Char) : Bool :=
  match cs with
  | [] => false
  | c :: rest =>
    !(isGap c || "-?:,[]\x7b\x7d#&*!|>'\"%@\x60".toList.contains c) ||
      (!endsOr isGap rest && (c == '-' || (!isFlow && (c == '?' || c == ':'))))

def plainRun (isFlow : Bool) : List Char → List Char
  | [] => []
  | c :: rest =>
    if isGap c then []
    else if c == ':' && endsOr (fun d => isGap d || (isFlow && ",[]\x7b\x7d".toList.contains d)) rest then []
    else if isFlow && ",?[]\x7b\x7d".toList.contains c then []
    else c :: plainRun isFlow rest

/-- The ends of empty lines after the end of a line, and whether the text goes on in the same document. -/
def plainBreaks : Nat → Cursor → List Char × Bool × Cursor
  | 0, c => ([], false, c)
  | fuel + 1, c =>
    if isDocumentMark c.rest then ([], false, c)
    else
      let c := c.skipSpaces
      match c.rest with
      | [] => ([], true, c)
      | ch :: _ =>
        if isBreak ch then
          let (breaks, goesOn, c) := plainBreaks fuel c.next
          (breakText ch :: breaks, goesOn, c)
        else ([], true, c)

def plainGap (c : Cursor) : List Char × Bool × Cursor :=
  let after := c.skipSpaces
  match after.rest with
  | [] => (c.rest, false, after)
  | ch :: rest =>
    if isBreak ch then
      let (breaks, goesOn, c) := plainBreaks (rest.length + 1) after.next
      (if goesOn then foldBreaks ch breaks else [], true, c)
    else (c.rest.takeWhile (· == ' '), false, after)

/-- A scalar, and whether a line has ended after it. `gap` is what stands before the next run, `isOver` whether
    the line has ended there. -/
def readPlain (isFlow : Bool) (indent : Int) : Nat → List Char → Bool → Cursor → List Char × Bool × Cursor
  | 0, _, isOver, c => ([], isOver, c)
  | fuel + 1, gap, isOver, c =>
    let run := plainRun isFlow c.rest
    if c.rest.head? == some '#' || run.isEmpty then ([], isOver, c)
    else
      let (nextGap, isOver, c) := plainGap (c.forward run.length)
      if nextGap.isEmpty || c.rest.head? == some '#' || (!isFlow && c.column < indent) then (gap ++ run, isOver, c)
      else
        let (more, isOver, c) := readPlain isFlow indent fuel nextGap isOver c
        (gap ++ run ++ more, isOver, c)

end BrowserFlow.Yaml
