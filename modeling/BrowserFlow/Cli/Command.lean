import BrowserFlow.Cli.Arguments
import BrowserFlow.Decimal.Numeral

/-!
The commands and how they are written. A command line is a command, asks for help, or is refused: an unknown
command or option, a missing or additional operand, an option without its value or with one that is no number
although it must be.
-/

namespace BrowserFlow.Cli

structure ReplayArguments where
  speed : Option Float := none
  wait : Option String := none
  isVisible : Option Bool := none
  pausesOnManualStep : Option Bool := none
  restoresSession : Bool := false
  deriving Inhabited

inductive Command
  | record (url : String) (name description : Option String)
  | replay (id : String) (arguments : ReplayArguments)
  | list
  | describe (id : String)
  /-- asks first unless `isConfirmed` -/
  | delete (id : String) (isConfirmed : Bool)
  | version
  deriving Inhabited

structure CommandLine where
  command : Command
  directory : Option String := none
  config : Option String := none
  isVerbose : Bool := false
  deriving Inhabited

inductive Reading
  | refused
  | help
  | command (line : CommandLine)
  deriving Inhabited

namespace CommandLine

def helpForm : OptionForm := ⟨"--help", "help", some true⟩

def commonForms : List OptionForm :=
  [⟨"--dir", "dir", none⟩, ⟨"--config", "config", none⟩, ⟨"-c", "config", none⟩, ⟨"--verbose", "verbose", some true⟩,
    helpForm]

def recordForms : List OptionForm :=
  [⟨"--name", "name", none⟩, ⟨"-n", "name", none⟩, ⟨"--description", "description", none⟩,
    ⟨"-d", "description", none⟩] ++ commonForms

def replayForms : List OptionForm :=
  [⟨"--speed", "speed", none⟩, ⟨"-s", "speed", none⟩, ⟨"--wait", "wait", none⟩, ⟨"-w", "wait", none⟩,
    ⟨"--visible", "visible", some true⟩, ⟨"--headless", "visible", some false⟩,
    ⟨"--pause-on-manual", "pause", some true⟩, ⟨"--skip-manual", "pause", some false⟩,
    ⟨"--restore-session", "restore", some true⟩] ++ commonForms

def deleteForms : List OptionForm := [⟨"--yes", "yes", some true⟩, ⟨"-y", "yes", some true⟩] ++ commonForms

/-- A number, if there is one; none if there is something else. -/
def speed? (a : Arguments) : Option (Option Float) :=
  match a.text? "speed" with
  | none => some none
  | some s => (Numeral.readFloat s.toList).map some

def command? (name : String) (a : Arguments) : Option Command :=
  match name, a.operands with
  | "record", [url] => some (.record url (a.text? "name") (a.text? "description"))
  | "replay", [id] =>
    (speed? a).map fun speed =>
      .replay id
        { speed
          wait := a.text? "wait"
          isVisible := a.flag? "visible"
          pausesOnManualStep := a.flag? "pause"
          restoresSession := a.isOn "restore" }
  | "list", [] => some .list
  | "show", [id] => some (.describe id)
  | "delete", [id] => some (.delete id (a.isOn "yes"))
  | "version", [] => some .version
  | _, _ => none

def forms? : String → Option (List OptionForm)
  | "record" => some recordForms
  | "replay" => some replayForms
  | "list" | "show" => some commonForms
  | "delete" => some deleteForms
  | "version" => some [helpForm]
  | _ => none

def ofWords (name : String) (words : List String) : Reading :=
  match forms? name with
  | none => .refused
  | some forms =>
    match Arguments.read? forms words with
    | none => .refused
    | some a =>
      if a.isOn "help" then .help
      else
        match command? name a with
        | none => .refused
        | some command =>
          .command
            { command, directory := a.text? "dir", config := a.text? "config", isVerbose := a.isOn "verbose" }

/-- Reads a whole command line. Before the command there may be calls for help, which count if all the rest of the
    words before the command are such calls. -/
def read (asksHelp : Bool) : List String → Reading
  | [] => if asksHelp then .help else .refused
  | word :: rest =>
    if word == "--help" then read true rest
    else if word == "--" then
      match rest with
      | [] => if asksHelp then .help else .refused
      | name :: words => if asksHelp then .help else ofWords name words
    else if Arguments.isOption word then .refused
    else if asksHelp then .help
    else ofWords word rest

end CommandLine

def Reading.ofWords (words : List String) : Reading := CommandLine.read false words

end BrowserFlow.Cli
