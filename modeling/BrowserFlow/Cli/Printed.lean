/-!
What is printed: text in which tags in brackets stand for styles, alone, in a frame or in the cells of a table, and
listings of code, in which brackets are only brackets.
-/

namespace BrowserFlow.Cli

inductive Printed
  | text (s : String)
  | panel (s : String)
  | table (columns : List String) (rows : List (List String))
  | code (s : String)
  deriving DecidableEq, Repr, Inhabited

namespace Printed

def styled (style s : String) : String := "[" ++ style ++ "]" ++ s ++ "[/" ++ style ++ "]"

def failure (s : String) : Printed := text (styled "red" ("✗ " ++ s))

def success (s : String) : Printed := text (styled "green" ("✓ " ++ s))

def title : String := "Flow Recorder"

def versionNumber : String := "0.1.0"

def version : Printed := text (styled "bold" title ++ " v" ++ versionNumber)

def facts (headline : String) (pairs : List (String × String)) : Printed :=
  panel ("\n".intercalate (headline :: pairs.map fun (name, s) => styled "dim" (name ++ ":") ++ " " ++ s))

def banner (pairs : List (String × String)) : Printed := facts (styled "bold blue" title) pairs

/-! Without styles -/

def isTagStart (c : Char) : Bool := c.isLower || c == '/' || c == '#' || c == '@'

/-- Text without its tags. The first argument counts the characters of a tag that are still to be left out. -/
def plainChars : Nat → List Char → List Char
  | _, [] => []
  | n + 1, _ :: cs => plainChars n cs
  | 0, c :: cs =>
    let tag := cs.takeWhile fun c => c != ']' && c != '['
    if c == '[' && (cs.head?.map isTagStart).getD false && (cs.drop tag.length).head? == some ']' then
      plainChars (tag.length + 1) cs
    else c :: plainChars 0 cs

def plainText (s : String) : String := String.ofList (plainChars 0 s.toList)

def width (cells : List String) : Nat := (cells.map String.length).foldl max 0

def aligned (rows : List (List String)) : List String :=
  let columns := (rows.map List.length).foldl max 0
  let widths := (List.range columns).map fun i => width (rows.map fun row => row.getD i "")
  rows.map fun row =>
    "  ".intercalate ((row.zip widths).map fun (cell, n) => cell ++ String.ofList (List.replicate (n - cell.length) ' '))

def lines : Printed → List String
  | text s | panel s => [plainText s]
  | table columns rows => aligned (columns :: rows.map (·.map plainText))
  | code s => [s]

end Printed

end BrowserFlow.Cli
