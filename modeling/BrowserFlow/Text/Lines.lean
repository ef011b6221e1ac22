/-!
Lines of a text. `splitLines` cuts at every line boundary; `joinLines` of line feeds only is what files
hold, and `unifyNewlines` is applied to what is read from a file.
-/

namespace BrowserFlow.Text

/-- The characters that end a line: line feed, vertical tab, form feed, carriage return, the separators
    U+001C to U+001E, next line, and the line and paragraph separators. -/
def isLineBoundary (c : Char) : Bool :=
  let n := c.toNat
  (0x0A ≤ n && n ≤ 0x0D) || (0x1C ≤ n && n ≤ 0x1E) || n == 0x85 || n == 0x2028 || n == 0x2029

/-- The lines of a text without their boundaries. A carriage return and the line feed after it are one
    boundary, and a boundary at the end opens no further line. -/
def splitLines : List Char → List (List Char)
  | [] => []
  | '\r' :: '\n' :: cs => [] :: splitLines cs
  | c :: cs =>
    if isLineBoundary c then [] :: splitLines cs
    else match splitLines cs with
      | [] => [[c]]
      | line :: rest => (c :: line) :: rest

/-- A carriage return, with the line feed after it if there is one, becomes a line feed. -/
def unifyNewlines : List Char → List Char
  | [] => []
  | '\r' :: '\n' :: cs => '\n' :: unifyNewlines cs
  | '\r' :: cs => '\n' :: unifyNewlines cs
  | c :: cs => c :: unifyNewlines cs

end BrowserFlow.Text
