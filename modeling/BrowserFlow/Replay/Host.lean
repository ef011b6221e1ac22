import BrowserFlow.Error
import BrowserFlow.Text.Case
import BrowserFlow.Text.Fields

/-!
The host of a URL, by which sessions are filed: in small letters, without user, port and brackets. A text in
brackets must be an address of the sixth version or later.
-/

namespace BrowserFlow.Host

def cut? (c : Char) (cs : List Char) : Option (List Char × List Char) :=
  match cs.dropWhile (· != c) with
  | _ :: rest => some (cs.takeWhile (· != c), rest)
  | [] => none

/-- The text after the last occurrence of a character, all of it if there is none. -/
def afterLast (c : Char) (cs : List Char) : List Char := (cs.reverse.takeWhile (· != c)).reverse

def isSchemeChar (c : Char) : Bool := c.isAlphanum || c == '+' || c == '-' || c == '.'

def dropScheme (cs : List Char) : List Char :=
  match cut? ':' cs with
  | some (scheme, rest) => if (scheme.headD ':').isAlpha && scheme.all isSchemeChar then rest else cs
  | none => cs

/-- The part between the two slashes and the path, query or fragment. -/
def authority (url : List Char) : List Char :=
  let url := url.dropWhile fun c => c.toNat ≤ 0x20
  let url := url.filter fun c => c != '\t' && c != '\r' && c != '\n'
  match dropScheme url with
  | '/' :: '/' :: rest => rest.takeWhile fun c => c != '/' && c != '?' && c != '#'
  | _ => []

def isHexDigit (c : Char) : Bool := c.isDigit || ('a' ≤ c && c ≤ 'f') || ('A' ≤ c && c ≤ 'F')

def isByteNumeral (cs : List Char) : Bool :=
  !cs.isEmpty && cs.all Char.isDigit && cs.length ≤ 3 && (cs.head? != some '0' || cs == ['0']) &&
    cs.foldl (fun n c => 10 * n + (c.toNat - 0x30)) 0 ≤ 255

def isFourthVersion (cs : List Char) : Bool :=
  let parts := Text.splitOn '.' cs
  parts.length == 4 && parts.all isByteNumeral

def isGroup (cs : List Char) : Bool := !cs.isEmpty && cs.length ≤ 4 && cs.all isHexDigit

/-- Eight groups of hexadecimal digits; once, two colons may stand for groups of zeros. -/
def areGroups (parts : List (List Char)) : Bool :=
  let inner := (parts.drop 1).dropLast
  let last := parts.getLastD []
  let first := parts.headD []
  if parts.length < 3 || 9 < parts.length then false
  else
    match (inner.filter List.isEmpty).length with
    | 0 => parts.length == 8 && parts.all isGroup
    | 1 =>
      let skip := inner.findIdx List.isEmpty + 1
      let high := if first.isEmpty then skip - 1 else skip
      let low := parts.length - skip - 1
      let low := if last.isEmpty then low - 1 else low
      (!first.isEmpty || high == 0) && (!last.isEmpty || low == 0) && high + low ≤ 7 &&
        (parts.filter (!·.isEmpty)).all isGroup
    | _ => false

/-- Groups of which the last two may be written as a number of the fourth version; a zone may follow. -/
def isSixthVersion (cs : List Char) : Bool :=
  let (address, zoneFits) := match cut? '%' cs with
    | some (address, zone) => (address, !zone.isEmpty && !zone.contains '%')
    | none => (cs, true)
  let parts := Text.splitOn ':' address
  let last := parts.getLastD []
  zoneFits &&
    if last.contains '.' then
      3 ≤ parts.length && isFourthVersion last && areGroups (parts.dropLast ++ [['0'], ['0']])
    else areGroups parts

def isLaterVersion (cs : List Char) : Bool :=
  match cs with
  | 'v' :: rest =>
    match rest.dropWhile isHexDigit with
    | '.' :: _ :: _ => !(rest.takeWhile isHexDigit).isEmpty
    | _ => false
  | _ => false

def checkBracketed (cs : List Char) : Except Fault Unit :=
  if cs.head? == some 'v' then
    if isLaterVersion cs then .ok () else .error (.malformedHost "IPvFuture address is invalid")
  else if isFourthVersion cs then .error (.malformedHost "An IPv4 address cannot be in brackets")
  else if isSixthVersion cs then .ok ()
  else .error (.malformedHost
    (Text.quote (String.ofList cs) ++ " does not appear to be an IPv4 or IPv6 address"))

/-- Characters that turn into text with a delimiter of URLs in it when they are brought into normal form. -/
def hidesDelimiter (c : Char) : Bool :=
  [0x2047, 0x2048, 0x2049, 0x2100, 0x2101, 0x2105, 0x2106, 0x2A74, 0xFE13, 0xFE16, 0xFE55, 0xFE56, 0xFE5F,
    0xFE6B, 0xFF03, 0xFF0F, 0xFF1A, 0xFF1F, 0xFF20].contains c.toNat

def checkAuthority (cs : List Char) : Except Fault Unit :=
  if cs.contains '[' != cs.contains ']' then .error (.malformedHost "Invalid IPv6 URL")
  else do
    match cut? '[' cs with
    | some (_, rest) => checkBracketed (rest.takeWhile (· != ']'))
    | none => pure ()
    if cs.any hidesDelimiter then
      .error (.malformedHost
        ("netloc '" ++ String.ofList cs ++ "' contains invalid characters under NFKC normalization"))

/-- The host in small letters; a zone of an address is kept as it is. -/
def ofAuthority (cs : List Char) : Option String :=
  let host := afterLast '@' cs
  let name := match cut? '[' host with
    | some (_, rest) => rest.takeWhile (· != ']')
    | none => host.takeWhile (· != ':')
  if name.isEmpty then none
  else match cut? '%' name with
    | some (address, zone) => some (Text.lower (String.ofList address) ++ "%" ++ String.ofList zone)
    | none => some (Text.lower (String.ofList name))

def ofUrl (url : String) : Except Fault (Option String) := do
  let cs := authority url.toList
  checkAuthority cs
  return ofAuthority cs

end BrowserFlow.Host
