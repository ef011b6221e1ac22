import BrowserFlow.Decimal.Shortest
import BrowserFlow.Text.Quoted
import BrowserFlow.Value.Basic

/-!
Writing JSON text: `asciiString` for strings that travel into page code and log lines, and `pretty` for
session files, indented by two spaces and with all characters as they are.
-/

namespace BrowserFlow.Json

def unitEscape (n : Nat) : List Char := '\\' :: 'u' :: Text.hexDigits 4 n

def shortEscape? (c : Char) : Option (List Char) :=
  if c == '"' then some ['\\', '"']
  else if c == '\\' then some ['\\', '\\']
  else if c == '\n' then some ['\\', 'n']
  else if c == '\r' then some ['\\', 'r']
  else if c == '\t' then some ['\\', 't']
  else if c.toNat == 8 then some ['\\', 'b']
  else if c.toNat == 12 then some ['\\', 'f']
  else none

/-- Printable ASCII as it is, everything else in code units of sixteen bits. -/
def asciiChar (c : Char) : List Char :=
  match shortEscape? c with
  | some cs => cs
  | none =>
    let n := c.toNat
    if 0x20 ≤ n && n < 0x7F then [c]
    else if n < 0x10000 then unitEscape n
    else unitEscape (0xD800 + (n - 0x10000) / 0x400) ++ unitEscape (0xDC00 + (n - 0x10000) % 0x400)

def asciiString (s : String) : String :=
  String.ofList (['"'] ++ s.toList.flatMap asciiChar ++ ['"'])

def plainChar (c : Char) : List Char :=
  match shortEscape? c with
  | some cs => cs
  | none => if c.toNat < 0x20 then unitEscape c.toNat else [c]

def plainString (s : String) : String :=
  String.ofList (['"'] ++ s.toList.flatMap plainChar ++ ['"'])

def block (opening closing : String) (depth : Nat) (members : List String) : String :=
  if members.isEmpty then opening ++ closing
  else
    let inner := "\n" ++ "".pushn ' ' (2 * depth + 2)
    opening ++ inner ++ ("," ++ inner).intercalate members ++ "\n" ++ "".pushn ' ' (2 * depth) ++ closing

mutual

def pretty (depth : Nat) : Value → String
  | .null => "null"
  | .bool b => if b then "true" else "false"
  | .int n => toString n
  | .float x => FloatStyle.compact.render x
  | .str s => plainString s
  | .list items => block "[" "]" depth (prettyItems depth items)
  | .dict entries => block "\x7b" "\x7d" depth (prettyEntries depth entries)
  | .foreign _ => "null"

def prettyItems (depth : Nat) : List Value → List String
  | [] => []
  | v :: vs => pretty (depth + 1) v :: prettyItems depth vs

def prettyEntries (depth : Nat) : List (String × Value) → List String
  | [] => []
  | (key, v) :: rest => (plainString key ++ ": " ++ pretty (depth + 1) v) :: prettyEntries depth rest

end

end BrowserFlow.Json
