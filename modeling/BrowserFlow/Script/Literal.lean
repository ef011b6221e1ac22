/-!
Text inside single quotes. A backslash, a quote, a line feed and a carriage return are written as a backslash
and a letter or the character itself; a backslash before any other character than `n`, `r` and `t` stands for
that character.
-/

namespace BrowserFlow.Script

def escapeChar : Char → List Char
  | '\\' => ['\\', '\\']
  | '\'' => ['\\', '\'']
  | '\n' => ['\\', 'n']
  | '\r' => ['\\', 'r']
  | c => [c]

def escape (cs : List Char) : List Char := cs.flatMap escapeChar

def escaped : Char → Char
  | 'n' => '\n'
  | 'r' => '\r'
  | 't' => '\t'
  | c => c

/-- A backslash before a line feed, or at the end, stands for itself. -/
def unescape : List Char → List Char
  | [] => []
  | '\\' :: c :: cs => if c == '\n' then '\\' :: c :: unescape cs else escaped c :: unescape cs
  | c :: cs => c :: unescape cs

/-- The body of a literal up to the quote that ends it, still escaped, and the text after that quote. No
    backslash of the body stands before a line feed. -/
def literalBody : List Char → Option (List Char × List Char)
  | [] => none
  | '\'' :: rest => some ([], rest)
  | '\\' :: c :: cs => if c == '\n' then none else (literalBody cs).map fun (b, rest) => ('\\' :: c :: b, rest)
  | c :: cs => if c == '\\' then none else (literalBody cs).map fun (b, rest) => (c :: b, rest)

def literal : List Char → Option (List Char × List Char)
  | '\'' :: cs => literalBody cs
  | _ => none

end BrowserFlow.Script
