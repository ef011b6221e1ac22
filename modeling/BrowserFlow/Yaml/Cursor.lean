import BrowserFlow.Text.Blank

/-!
A place in a YAML text, with its line and column, and the classes of characters that its structure hangs on.
Ends of lines have been unified before, so that no carriage return occurs.
-/

namespace BrowserFlow.Yaml

def isBreak (c : Char) : Bool :=
  let n := c.toNat
  n == 0x0A || n == 0x85 || n == 0x2028 || n == 0x2029

def isGap (c : Char) : Bool := c == ' ' || c == '\t' || isBreak c

def breakText (c : Char) : Char := if c.toNat == 0x85 then '\n' else c

def endsOr (isEnd : Char → Bool) (cs : List Char) : Bool :=
  match cs with
  | [] => true
  | c :: _ => isEnd c

def isWordChar (c : Char) : Bool := c.isAlphanum || c == '-' || c == '_'

/-- Three equal marks that begin or end a document when they stand at the start of a line. -/
def isMark (mark : Char) (cs : List Char) : Bool :=
  cs.take 3 == [mark, mark, mark] && endsOr isGap (cs.drop 3)

def isDocumentMark (cs : List Char) : Bool := isMark '-' cs || isMark '.' cs

def isAllowed (c : Char) : Bool :=
  let n := c.toNat
  n == 0x09 || n == 0x0A || n == 0x0D || (0x20 ≤ n && n ≤ 0x7E) || n == 0x85 || (0xA0 ≤ n && n ≤ 0xFFFD) || 0x10000 ≤ n

structure Cursor where
  rest : List Char
  index : Nat := 0
  line : Nat := 0
  column : Nat := 0
  deriving Inhabited

namespace Cursor

/-- One character further. A byte order mark takes no column. -/
def next (c : Cursor) : Cursor :=
  match c.rest with
  | [] => c
  | ch :: rest =>
    if isBreak ch then ⟨rest, c.index + 1, c.line + 1, 0⟩
    else if ch.toNat == 0xFEFF then ⟨rest, c.index + 1, c.line, c.column⟩
    else ⟨rest, c.index + 1, c.line, c.column + 1⟩

def forward (c : Cursor) : Nat → Cursor
  | 0 => c
  | n + 1 => c.next.forward n

def goto (c : Cursor) (rest : List Char) : Cursor := c.forward (c.rest.length - rest.length)

def skipSpaces (c : Cursor) : Cursor := c.goto (c.rest.dropWhile (· == ' '))

/-- Spaces, but not up to a column or beyond. -/
def skipIndent (c : Cursor) (column : Nat) : Cursor :=
  c.forward ((c.rest.take (column - c.column)).takeWhile (· == ' ')).length

def skipComment (c : Cursor) : Cursor :=
  match c.rest with
  | '#' :: _ => c.goto (c.rest.dropWhile (!isBreak ·))
  | _ => c

end Cursor

end BrowserFlow.Yaml
