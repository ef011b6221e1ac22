/-!
The words after a command: operands, and options anywhere among them up to a word `--`. An option has its value
after `=`, in the next word or, if it is a single letter, right behind the letter. Letters of options without a
value may share one word. Of an option given several times the last value counts.
-/

namespace BrowserFlow.Cli

structure OptionForm where
  spelling : String
  key : String
  /-- what it sets without a value; none if it takes a value -/
  flag? : Option Bool := none
  deriving DecidableEq, Repr

inductive Setting
  | text (key value : String)
  | flag (key : String) (isOn : Bool)
  deriving DecidableEq, Repr

structure Arguments where
  settings : List Setting := []
  operands : List String := []
  deriving DecidableEq, Repr

inductive OptionWord
  | refused
  | complete (settings : List Setting)
  | awaiting (settings : List Setting) (key : String)
  deriving DecidableEq, Repr

namespace OptionWord

def ofForm (form : OptionForm) (attached : Option String) : OptionWord :=
  match form.flag?, attached with
  | some isOn, none => complete [.flag form.key isOn]
  | some _, some _ => refused
  | none, some value => complete [.text form.key value]
  | none, none => .awaiting [] form.key

def ofLetters (forms : List OptionForm) (settings : List Setting) : List Char → OptionWord
  | [] => complete settings
  | c :: cs =>
    match forms.find? fun form => form.spelling == String.ofList ['-', c] with
    | none => refused
    | some form =>
      match form.flag? with
      | some isOn => ofLetters forms (settings ++ [.flag form.key isOn]) cs
      | none => if cs.isEmpty then .awaiting settings form.key else complete (settings ++ [.text form.key (String.ofList cs)])

def splitValue (word : List Char) : String × Option String :=
  match word.dropWhile (· != '=') with
  | _ :: value => (String.ofList (word.takeWhile (· != '=')), some (String.ofList value))
  | [] => (String.ofList word, none)

def isLong (spelling : String) : Bool := spelling.toList.take 2 == ['-', '-']

def ofWord (forms : List OptionForm) (word : List Char) : OptionWord :=
  let (spelling, attached) := splitValue word
  match forms.find? fun form => isLong form.spelling && form.spelling == spelling with
  | some form => ofForm form attached
  | none =>
    match word with
    | '-' :: '-' :: _ => refused
    | _ :: letters => ofLetters forms [] letters
    | [] => refused

end OptionWord

namespace Arguments

/-- Does a word hold options? A single dash is an operand. -/
def isOption (word : String) : Bool :=
  match word.toList with
  | '-' :: _ :: _ => true
  | _ => false

def withSettings (settings : List Setting) (a : Arguments) : Arguments := { a with settings := settings ++ a.settings }

def withOperand (word : String) (a : Arguments) : Arguments := { a with operands := word :: a.operands }

/-- None if an option is unknown, lacks its value or has one that it does not take. -/
def read? (forms : List OptionForm) : List String → Option Arguments
  | [] => some {}
  | word :: rest =>
    if word == "--" then some { operands := rest }
    else if isOption word then
      match OptionWord.ofWord forms word.toList with
      | .refused => none
      | .complete settings => (read? forms rest).map (withSettings settings)
      | .awaiting settings key =>
        match rest with
        | [] => none
        | value :: rest => (read? forms rest).map (withSettings (settings ++ [.text key value]))
    else (read? forms rest).map (withOperand word)

def text? (a : Arguments) (key : String) : Option String :=
  a.settings.reverse.findSome? fun
    | .text k value => if k == key then some value else none
    | .flag _ _ => none

def flag? (a : Arguments) (key : String) : Option Bool :=
  a.settings.reverse.findSome? fun
    | .flag k isOn => if k == key then some isOn else none
    | .text _ _ => none

def isOn (a : Arguments) (key : String) : Bool := (a.flag? key).getD false

end Arguments

end BrowserFlow.Cli
