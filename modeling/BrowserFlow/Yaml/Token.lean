import BrowserFlow.Text.Utf8
import BrowserFlow.Yaml.Block
import BrowserFlow.Yaml.Plain

/-!
The tokens of a YAML text. Indentation appears as tokens that open and close blocks. Whether a scalar is a key shows
only at the colon after it; the tokens that say so are then put in front of it.
-/

namespace BrowserFlow.Yaml

inductive Token
  | version (major : Nat)
  | tagHandle (handle : String) (beginning : String)
  | otherDirective
  | documentStart
  | documentEnd
  | blockSequence
  | blockMapping
  | blockEnd
  | flowSequence
  | flowSequenceEnd
  | flowMapping
  | flowMappingEnd
  | comma
  | entry
  | key
  | value
  | alias (name : String)
  | anchor (name : String)
  | tag (handle : Option String) (suffix : String)
  | scalar (text : String) (isPlain : Bool)
  deriving DecidableEq, Repr, Inhabited

/-- A place where a key may have begun. A key that must be one is refused if it is none. -/
structure KeyPlace where
  position : Nat
  isRequired : Bool
  index : Nat
  line : Nat
  column : Nat

/-- How far the text has been read. The tokens are kept latest first. -/
structure Scan where
  cursor : Cursor
  tokens : List Token := []
  indent : Int := -1
  outerIndents : List Int := []
  flowDepth : Nat := 0
  allowsKey : Bool := true
  /-- the last place of a key for every depth of flow collections -/
  keys : List (Nat × KeyPlace) := []
  deriving Inhabited

namespace Scan

def isFlow (s : Scan) : Bool := s.flowDepth != 0

def add (s : Scan) (token : Token) : Scan := { s with tokens := token :: s.tokens }

def insert (s : Scan) (position : Nat) (token : Token) : Scan :=
  let (later, earlier) := s.tokens.splitAt (s.tokens.length - position)
  { s with tokens := later ++ token :: earlier }

def moveTo (s : Scan) (cursor : Cursor) : Scan := { s with cursor }

def skip (s : Scan) (n : Nat) : Scan := s.moveTo (s.cursor.forward n)

/-- A key that has not ended on its line, or within 1024 characters, is none. -/
def dropStaleKeys (s : Scan) : Except Refusal Scan :=
  let isStale (k : KeyPlace) : Bool := k.line != s.cursor.line || k.index + 1024 < s.cursor.index
  if s.keys.any fun entry => isStale entry.2 && entry.2.isRequired then .error .malformed
  else .ok { s with keys := s.keys.filter fun entry => !isStale entry.2 }

def dropKey (s : Scan) : Except Refusal Scan :=
  match s.keys.find? fun entry => entry.1 == s.flowDepth with
  | some (_, k) =>
    if k.isRequired then .error .malformed
    else .ok { s with keys := s.keys.filter fun entry => entry.1 != s.flowDepth }
  | none => .ok s

def noteKey (s : Scan) : Except Refusal Scan :=
  if s.allowsKey then do
    let s ← s.dropKey
    let place : KeyPlace :=
      { position := s.tokens.length
        isRequired := !s.isFlow && s.indent == s.cursor.column
        index := s.cursor.index
        line := s.cursor.line
        column := s.cursor.column }
    return { s with keys := (s.flowDepth, place) :: s.keys }
  else .ok s

def closeBlocks (s : Scan) (column : Int) : Scan :=
  if s.isFlow then s
  else
    let rec close (s : Scan) : List Int → Scan
      | [] => s
      | outer :: rest =>
        if column < s.indent then close { s.add .blockEnd with indent := outer, outerIndents := rest } rest else s
    close s s.outerIndents

def indentTo (s : Scan) (column : Nat) : Option Scan :=
  if s.indent < column then some { s with outerIndents := s.indent :: s.outerIndents, indent := column } else none

def openBlock (s : Scan) (token : Token) : Scan :=
  match s.indentTo s.cursor.column with
  | some s => s.add token
  | none => s

def skipBlank (s : Scan) : Nat → Scan
  | 0 => s
  | fuel + 1 =>
    let c := s.cursor.skipSpaces.skipComment
    match c.rest with
    | [] => s.moveTo c
    | ch :: _ =>
      if isBreak ch then skipBlank { s with cursor := c.next, allowsKey := s.allowsKey || !s.isFlow } fuel
      else s.moveTo c

def topLevel (s : Scan) : Except Refusal Scan := do
  let s ← (s.closeBlocks (-1)).dropKey
  return { s with allowsKey := false }

def openFlow (s : Scan) (token : Token) : Except Refusal Scan := do
  let s ← s.noteKey
  return { (s.add token).skip 1 with flowDepth := s.flowDepth + 1, allowsKey := true }

def closeFlow (s : Scan) (token : Token) : Except Refusal Scan := do
  let s ← s.dropKey
  if s.flowDepth == 0 then throw .malformed
  return { (s.add token).skip 1 with flowDepth := s.flowDepth - 1, allowsKey := false }

def readComma (s : Scan) : Except Refusal Scan := do
  let s ← s.dropKey
  return { (s.add .comma).skip 1 with allowsKey := true }

def readEntry (s : Scan) : Except Refusal Scan := do
  if !s.isFlow && !s.allowsKey then throw .malformed
  let s := if s.isFlow then s else s.openBlock .blockSequence
  let s ← s.dropKey
  return { (s.add .entry).skip 1 with allowsKey := true }

def readKey (s : Scan) : Except Refusal Scan := do
  if !s.isFlow && !s.allowsKey then throw .malformed
  let s := if s.isFlow then s else s.openBlock .blockMapping
  let s ← s.dropKey
  return { (s.add .key).skip 1 with allowsKey := !s.isFlow }

/-- A colon. If a key may have begun before, it has. -/
def readValue (s : Scan) : Except Refusal Scan := do
  match s.keys.find? fun entry => entry.1 == s.flowDepth with
  | some (_, k) =>
    let s := { s with keys := s.keys.filter fun entry => entry.1 != s.flowDepth }
    let s := s.insert k.position .key
    let s := if s.isFlow then s else
      match s.indentTo k.column with
      | some s => s.insert k.position .blockMapping
      | none => s
    return { (s.add .value).skip 1 with allowsKey := false }
  | none =>
    if !s.isFlow && !s.allowsKey then throw .malformed
    let s := if s.isFlow then s else s.openBlock .blockMapping
    let s ← s.dropKey
    return { (s.add .value).skip 1 with allowsKey := !s.isFlow }

def readNode (s : Scan) (token : Token) (rest : List Char) : Except Refusal Scan := do
  let s ← s.noteKey
  return { (s.add token).moveTo (s.cursor.goto rest) with allowsKey := false }

def readName (cs : List Char) : Except Refusal (String × List Char) :=
  let name := cs.takeWhile isWordChar
  let rest := cs.drop name.length
  if name.isEmpty || !endsOr (fun c => isGap c || "?:,]\x7d%@\x60".toList.contains c) rest then .error .malformed
  else .ok (String.ofList name, rest)

def isUriChar (c : Char) : Bool := c.isAlphanum || "-;/?:@&=+$,_.!~*'()[]".toList.contains c

def readEscapedBytes : List Char → Except Refusal (List UInt8 × List Char)
  | '%' :: a :: b :: rest =>
    match hexNumber? [a, b] with
    | some n => (readEscapedBytes rest).map fun (bytes, rest) => (n.toUInt8 :: bytes, rest)
    | none => .error .malformed
  | '%' :: _ => .error .malformed
  | cs => .ok ([], cs)

def readUriPart : Nat → List Char → Except Refusal (List Char × List Char)
  | 0, cs => .ok ([], cs)
  | fuel + 1, cs =>
    match cs with
    | '%' :: _ => do
      let (bytes, rest) ← readEscapedBytes cs
      match Utf8.decode bytes with
      | .ok text => (readUriPart fuel rest).map fun (more, rest) => (text ++ more, rest)
      | .error _ => throw .malformed
    | c :: rest =>
      if isUriChar c then (readUriPart fuel rest).map fun (more, rest) => (c :: more, rest) else .ok ([], cs)
    | [] => .ok ([], [])

def readUri (cs : List Char) : Except Refusal (String × List Char) := do
  let (text, rest) ← readUriPart (cs.length + 1) cs
  if text.isEmpty then throw .malformed
  return (String.ofList text, rest)

/-- A tag handle: one exclamation mark, or a word between two. -/
def readHandle (cs : List Char) : Except Refusal (String × List Char) :=
  match cs with
  | '!' :: ' ' :: _ => .ok ("!", cs.drop 1)
  | '!' :: rest =>
    let word := rest.takeWhile isWordChar
    match rest.drop word.length with
    | '!' :: rest => .ok (String.ofList ('!' :: word ++ ['!']), rest)
    | _ => .error .malformed
  | _ => .error .malformed

def readTag (cs : List Char) : Except Refusal (Option String × String × List Char) := do
  let (handle, suffix, rest) ← match cs with
    | '<' :: rest =>
      let (suffix, rest) ← readUri rest
      match rest with
      | '>' :: rest => pure (none, suffix, rest)
      | _ => throw .malformed
    | _ =>
      if endsOr isGap cs then pure (none, "!", cs)
      else if (cs.takeWhile fun c => c != ' ' && !isBreak c).contains '!' then
        let (handle, rest) ← readHandle ('!' :: cs)
        let (suffix, rest) ← readUri rest
        pure (some handle, suffix, rest)
      else
        let (suffix, rest) ← readUri cs
        pure (some "!", suffix, rest)
  if !endsOr (fun c => c == ' ' || isBreak c) rest then throw .malformed
  return (handle, suffix, rest)

def readNumber (cs : List Char) : Except Refusal (Nat × List Char) :=
  let ds := cs.takeWhile Char.isDigit
  if ds.isEmpty then .error .malformed
  else .ok (ds.foldl (fun n c => 10 * n + (c.toNat - 0x30)) 0, cs.drop ds.length)

def readDirective (cs : List Char) : Except Refusal (Token × List Char) := do
  let isEnd (c : Char) : Bool := c == ' ' || isBreak c
  let name := cs.takeWhile isWordChar
  let rest := cs.drop name.length
  if name.isEmpty || !endsOr isEnd rest then throw .malformed
  let argument := rest.dropWhile (· == ' ')
  let (token, rest) ← match String.ofList name with
    | "YAML" =>
      let (major, rest) ← readNumber argument
      match rest with
      | '.' :: rest => pure (Token.version major, (← readNumber rest).2)
      | _ => throw .malformed
    | "TAG" =>
      let (handle, rest) ← readHandle argument
      if rest.head? != some ' ' then throw .malformed
      let (beginning, rest) ← readUri (rest.dropWhile (· == ' '))
      pure (Token.tagHandle handle beginning, rest)
    | _ => pure (Token.otherDirective, rest.dropWhile (!isBreak ·))
  if !endsOr isEnd rest then throw .malformed
  match rest.dropWhile (· == ' ') with
  | '#' :: comment => return (token, comment.dropWhile (!isBreak ·))
  | rest => if endsOr isBreak rest then return (token, rest) else throw .malformed

/-- Reads the token that begins at the cursor, whose first character and the text after it are given. -/
def readToken (s : Scan) (ch : Char) (rest : List Char) : Except Refusal Scan := do
  let cs := s.cursor.rest
  let isAtStart := s.cursor.column == 0
  if ch == '%' && isAtStart then
    let s ← s.topLevel
    let (token, rest) ← readDirective rest
    return (s.add token).moveTo (s.cursor.goto rest)
  else if isAtStart && isMark '-' cs then return ((← s.topLevel).add .documentStart).skip 3
  else if isAtStart && isMark '.' cs then return ((← s.topLevel).add .documentEnd).skip 3
  else if ch == '[' then s.openFlow .flowSequence
  else if ch == '\x7b' then s.openFlow .flowMapping
  else if ch == ']' then s.closeFlow .flowSequenceEnd
  else if ch == '\x7d' then s.closeFlow .flowMappingEnd
  else if ch == ',' then s.readComma
  else if ch == '-' && endsOr isGap rest then s.readEntry
  else if ch == '?' && (s.isFlow || endsOr isGap rest) then s.readKey
  else if ch == ':' && (s.isFlow || endsOr isGap rest) then s.readValue
  else if ch == '*' then
    let (name, rest) ← readName rest
    s.readNode (.alias name) rest
  else if ch == '&' then
    let (name, rest) ← readName rest
    s.readNode (.anchor name) rest
  else if ch == '!' then
    let (handle, suffix, rest) ← readTag rest
    s.readNode (.tag handle suffix) rest
  else if (ch == '|' || ch == '>') && !s.isFlow then
    let s ← s.dropKey
    let (text, cursor) ← readBlock (ch == '>') s.indent s.cursor
    return { (s.add (.scalar (String.ofList text) false)).moveTo cursor with allowsKey := true }
  else if ch == '\'' || ch == '"' then
    let (text, rest) ← readQuoted ch (rest.length + 1) rest
    s.readNode (.scalar (String.ofList text) false) rest
  else if startsPlain s.isFlow cs then
    let s ← s.noteKey
    let (text, isOver, cursor) := readPlain s.isFlow (s.indent + 1) (cs.length + 1) [] false s.cursor
    return { (s.add (.scalar (String.ofList text) true)).moveTo cursor with allowsKey := isOver }
  else throw .malformed

def readTokens (s : Scan) : Nat → Except Refusal Scan
  | 0 => .error .malformed
  | fuel + 1 => do
    let s ← (s.skipBlank (s.cursor.rest.length + 1)).dropStaleKeys
    let s := s.closeBlocks s.cursor.column
    match s.cursor.rest with
    | [] => s.topLevel
    | ch :: rest => readTokens (← s.readToken ch rest) fuel

end Scan

def tokens (cs : List Char) : Except Refusal (List Token) :=
  if !cs.all isAllowed then .error .malformed
  else
    let start : Cursor := { rest := cs }
    let start := if cs.head?.map Char.toNat == some 0xFEFF then start.next else start
    let scan : Scan := { cursor := start }
    (scan.readTokens (cs.length + 1)).map fun s => s.tokens.reverse

end BrowserFlow.Yaml
