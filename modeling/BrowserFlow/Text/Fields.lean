/-!
Text that a character divides into fields.
-/

namespace BrowserFlow.Text

/-- The fields between the separators; there is always one more than there are separators. -/
def splitOn (separator : Char) : List Char → List (List Char)
  | [] => [[]]
  | c :: cs =>
    if c == separator then [] :: splitOn separator cs
    else match splitOn separator cs with
      | [] => [[c]]
      | field :: rest => (c :: field) :: rest

def endsWith (cs suffix : List Char) : Bool := suffix.isSuffixOf cs

def startsWith (cs beginning : List Char) : Bool := beginning.isPrefixOf cs

end BrowserFlow.Text
