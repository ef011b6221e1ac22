import BrowserFlow.Error
import BrowserFlow.Yaml.Cursor

/-!
Scalars in quotes. In single quotes a quote is doubled; in double quotes a backslash begins an escape. The end of
a line counts as a space, an empty line as the end of a line.
-/

namespace BrowserFlow.Yaml

inductive Refusal
  | malformed
  | scalar (fault : Fault)
  deriving Inhabited

def escapes : List (Char × Nat) :=
  [('0', 0x00), ('a', 0x07), ('b', 0x08), ('t', 0x09), ('\t', 0x09), ('n', 0x0A), ('v', 0x0B), ('f', 0x0C),
    ('r', 0x0D), ('e', 0x1B), (' ', 0x20), ('"', 0x22), ('\\', 0x5C), ('/', 0x2F), ('N', 0x85), ('_', 0xA0),
    ('L', 0x2028), ('P', 0x2029)]

def hexValue? (c : Char) : Option Nat :=
  if c.isDigit then some (c.toNat - 0x30)
  else if 'a' ≤ c && c ≤ 'f' then some (c.toNat - 0x61 + 10)
  else if 'A' ≤ c && c ≤ 'F' then some (c.toNat - 0x41 + 10)
  else none

def hexNumber? (cs : List Char) : Option Nat :=
  cs.foldlM (fun n c => (hexValue? c).map (16 * n + ·)) 0

/-- A character by its number; what is half a pair becomes the replacement character. -/
def charOfCode (n : Nat) : Except Refusal Char :=
  if 0x7FFFFFFF < n then .error (.scalar (.scalar .hugeCodePoint))
  else if 0x10FFFF < n then .error (.scalar (.scalar .codePoint))
  else if 0xD800 ≤ n && n ≤ 0xDFFF then .ok (Char.ofNat 0xFFFD)
  else .ok (Char.ofNat n)

def readCode (width : Nat) (cs : List Char) : Except Refusal (Char × List Char) :=
  let ds := cs.take width
  match hexNumber? ds, ds.length == width with
  | some n, true => (charOfCode n).map (·, cs.drop width)
  | _, _ => .error .malformed

def readEscape (cs : List Char) : Except Refusal (Char × List Char) :=
  match cs with
  | [] => .error .malformed
  | c :: rest =>
    match escapes.find? fun entry => entry.1 == c with
    | some (_, n) => .ok (Char.ofNat n, rest)
    | none =>
      if c == 'x' then readCode 2 rest
      else if c == 'u' then readCode 4 rest
      else if c == 'U' then readCode 8 rest
      else .error .malformed

/-- The ends of empty lines before the next line with content. No document may begin or end on the way. -/
def readBreaks : Nat → List Char → Except Refusal (List Char × List Char)
  | 0, _ => .error .malformed
  | fuel + 1, cs =>
    if isDocumentMark cs then .error .malformed
    else match cs.dropWhile fun c => c == ' ' || c == '\t' with
      | [] => .ok ([], [])
      | c :: rest =>
        if isBreak c then (readBreaks fuel rest).map fun (breaks, rest) => (breakText c :: breaks, rest)
        else .ok ([], c :: rest)

/-- The end of a line inside a scalar: a space, unless empty lines follow, which count themselves. -/
def foldBreaks (first : Char) (breaks : List Char) : List Char :=
  if breakText first != '\n' then breakText first :: breaks
  else if breaks.isEmpty then [' ']
  else breaks

def readGap (cs : List Char) : Except Refusal (List Char × List Char) :=
  let isSpace (c : Char) : Bool := c == ' ' || c == '\t'
  match cs.dropWhile isSpace with
  | [] => .error .malformed
  | c :: rest =>
    if isBreak c then do
      let (breaks, rest) ← readBreaks (rest.length + 1) rest
      return (foldBreaks c breaks, rest)
    else .ok (cs.takeWhile isSpace, c :: rest)

def readQuoted (quote : Char) : Nat → List Char → Except Refusal (List Char × List Char)
  | 0, _ => .error .malformed
  | fuel + 1, cs =>
    let after (text : List Char) (rest : List Char) : Except Refusal (List Char × List Char) :=
      (readQuoted quote fuel rest).map fun (more, rest) => (text ++ more, rest)
    match cs with
    | [] => .error .malformed
    | c :: rest =>
      if isGap c then do
        let (text, rest) ← readGap cs
        after text rest
      else if c == quote then
        match quote, rest with
        | '\'', '\'' :: rest => after ['\''] rest
        | _, _ => .ok ([], rest)
      else if c == '\\' && quote == '"' then
        match rest with
        | d :: tail =>
          if isBreak d then do
            let (breaks, rest) ← readBreaks (tail.length + 1) tail
            after breaks rest
          else do
            let (ch, rest) ← readEscape rest
            after [ch] rest
        | [] => .error .malformed
      else after [c] rest

end BrowserFlow.Yaml
