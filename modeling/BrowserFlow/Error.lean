import BrowserFlow.Text.Utf8
import BrowserFlow.Value.Display

/-!
Why an operation ends without a result. A `FlowError` is one of the program's own errors, with a kind, a
message and details for the caller; a `Fault` is any cause at all. `Fault.text` is the wording that reports
and status messages carry.
-/

namespace BrowserFlow

/-- The kinds of the program's own errors. Each but `general` is a case of its `parent?`. -/
inductive ErrorKind
  | general
  | configuration
  | page
  | navigation
  | elementNotFound
  | scriptExecution
  | browserLaunch
  | recorder
  | alreadyRecording
  | notRecording
  | captureInstall
  | replay
  | alreadyReplaying
  | scriptLoad
  | commandExecution
  | storage
  | recordingNotFound
  deriving DecidableEq, Repr, Inhabited

namespace ErrorKind

def parent? : ErrorKind → Option ErrorKind
  | general => none
  | navigation | elementNotFound | scriptExecution | browserLaunch => some page
  | alreadyRecording | notRecording | captureInstall => some recorder
  | alreadyReplaying | scriptLoad | commandExecution => some replay
  | recordingNotFound => some storage
  | configuration | page | recorder | replay | storage => some general

def all : List ErrorKind :=
  [general, configuration, page, navigation, elementNotFound, scriptExecution, browserLaunch, recorder,
    alreadyRecording, notRecording, captureInstall, replay, alreadyReplaying, scriptLoad, commandExecution, storage,
    recordingNotFound]

def name : ErrorKind → String
  | general => "FlowRecorderError"
  | configuration => "ConfigurationError"
  | page => "PageError"
  | navigation => "NavigationError"
  | elementNotFound => "ElementNotFoundError"
  | scriptExecution => "ScriptExecutionError"
  | browserLaunch => "BrowserLaunchError"
  | recorder => "RecorderError"
  | alreadyRecording => "AlreadyRecordingError"
  | notRecording => "NotRecordingError"
  | captureInstall => "CaptureInstallError"
  | replay => "ReplayError"
  | alreadyReplaying => "AlreadyReplayingError"
  | scriptLoad => "ScriptLoadError"
  | commandExecution => "CommandExecutionError"
  | storage => "StorageError"
  | recordingNotFound => "RecordingNotFoundError"

def ancestors (kind : ErrorKind) : List ErrorKind :=
  match kind.parent? with
  | none => []
  | some parent =>
    match parent.parent? with
    | none => [parent]
    | some grandparent => [parent, grandparent]

end ErrorKind

/-- `attributes` are what the error was built from beyond its message. -/
structure FlowError where
  kind : ErrorKind
  message : String
  details : Entries := []
  attributes : Entries := []
  deriving Inhabited

namespace FlowError

def text (e : FlowError) : String :=
  if e.details.isEmpty then e.message else e.message ++ " - Details: " ++ (Value.dict e.details).display

/-- One detail, unless its value does not count as present. -/
def detailIfPresent (key : String) (v : Value) : Entries := if v.isPresent then [(key, v)] else []

def navigation (message : String) (url : Value) : FlowError :=
  ⟨.navigation, message, [("url", url)], [("url", url)]⟩

def elementNotFound (message : String) (selector : Value) : FlowError :=
  ⟨.elementNotFound, message, [("selector", selector)], [("selector", selector)]⟩

def alreadyRecording (message : String) (recordingId : Value) : FlowError :=
  ⟨.alreadyRecording, message, detailIfPresent "recording_id" recordingId, [("recording_id", recordingId)]⟩

def notRecording (message : String) (state : Value) : FlowError :=
  ⟨.notRecording, message, detailIfPresent "state" state, [("state", state)]⟩

def alreadyReplaying (message : String) (state : Value) : FlowError :=
  ⟨.alreadyReplaying, message, detailIfPresent "state" state, [("state", state)]⟩

def scriptLoad (message : String) (recordingId : Value) : FlowError :=
  ⟨.scriptLoad, message, [("recording_id", recordingId)], [("recording_id", recordingId)]⟩

def commandExecution (message : String) (command line : Value) : FlowError :=
  let fields := [("command", command), ("line_number", line)]
  ⟨.commandExecution, message, fields, fields⟩

def storage (message : String) (path : Value) : FlowError :=
  ⟨.storage, message, detailIfPresent "path" path, [("path", path)]⟩

def recordingNotFound (recordingId : Value) : FlowError :=
  ⟨.recordingNotFound, "Recording not found: " ++ recordingId.text, [],
    [("path", .null), ("recording_id", recordingId)]⟩

/-- What an error of a kind is built from, in order; what has no default must be given. -/
def parameters : ErrorKind → List (String × Option Value)
  | .navigation => [("message", none), ("url", some .null)]
  | .elementNotFound => [("message", none), ("selector", none)]
  | .alreadyRecording => [("message", some (.str "Already recording")), ("recording_id", some .null)]
  | .notRecording => [("message", some (.str "Not recording")), ("state", some .null)]
  | .alreadyReplaying => [("message", some (.str "Already replaying")), ("state", some .null)]
  | .scriptLoad => [("message", none), ("recording_id", none)]
  | .commandExecution => [("message", none), ("command", none), ("line_number", some .null)]
  | .storage => [("message", none), ("path", some .null)]
  | .recordingNotFound => [("recording_id", none)]
  | _ => [("message", none), ("details", some .null)]

def ofParameters (kind : ErrorKind) (fields : Entries) : FlowError :=
  let field (key : String) : Value := Entries.getD fields key
  let message := (field "message").text
  match kind with
  | .navigation => navigation message (field "url")
  | .elementNotFound => elementNotFound message (field "selector")
  | .alreadyRecording => alreadyRecording message (field "recording_id")
  | .notRecording => notRecording message (field "state")
  | .alreadyReplaying => alreadyReplaying message (field "state")
  | .scriptLoad => scriptLoad message (field "recording_id")
  | .commandExecution => commandExecution message (field "command") (field "line_number")
  | .storage => storage message (field "path")
  | .recordingNotFound => recordingNotFound (field "recording_id")
  | kind => ⟨kind, message, ((field "details").dict?).getD [], []⟩

def build? (kind : ErrorKind) (args : List Value) (named : Entries) : Option FlowError := do
  let names := (parameters kind).map (·.1)
  let positional : Entries := names.zip args
  guard (args.length ≤ names.length)
  guard (named.all fun (key, _) => names.contains key && (positional.get? key).isNone)
  let fields ← (parameters kind).mapM fun (name, default) => do
    let v ← positional.get? name <|> named.get? name <|> default
    return (name, v)
  return ofParameters kind fields

end FlowError

inductive FileFault
  | missing
  | alreadyExists
  | notDirectory
  | isDirectory
  | nameTooLong
  deriving DecidableEq, Repr

def FileFault.text : FileFault → String
  | .missing => "[Errno 2] No such file or directory"
  | .alreadyExists => "[Errno 17] File exists"
  | .notDirectory => "[Errno 20] Not a directory"
  | .isDirectory => "[Errno 21] Is a directory"
  | .nameTooLong => "[Errno 36] File name too long"

structure SettingFault where
  place : List String
  rule : String
  deriving DecidableEq, Repr

inductive ScalarFault
  | date (text : String)
  | malformedInteger (base : Nat) (shown : String)
  | malformedNumber (shown : String)
  | emptyNumeral
  | codePoint
  | hugeCodePoint
  deriving DecidableEq, Repr

def ScalarFault.text : ScalarFault → String
  | .date text => text
  | .malformedInteger base shown => s!"invalid literal for int() with base {base}: " ++ shown
  | .malformedNumber shown => "could not convert string to float: " ++ shown
  | .emptyNumeral => "string index out of range"
  | .codePoint => "chr() arg not in range(0x110000)"
  | .hugeCodePoint => "int too large to convert to C int"

inductive Fault
  | flow (e : FlowError)
  /-- the page, a callback or the browser raised this text -/
  | raised (text : String)
  | unknownKind (shown : String)
  | locatorRequired (kind : String)
  | speedNotPositive
  | dateOutOfRange
  | infiniteInteger
  | undefinedInteger
  | integerTooLarge
  | quotientTooLarge
  | divisionByZero
  | numeralTooLong (digits : Nat)
  | malformedNumeral (shown : String)
  /-- the host part of a URL breaks the rule that the text states -/
  | malformedHost (text : String)
  | nulInPath
  | unknownLevel (shown : String)
  | undecodable (refusal : Utf8.Refusal)
  | file (fault : FileFault) (path : String)
  | noMember (kind member : String)
  | wrongKind (text : String)
  | recordingGone
  | cancelled
  | invalidSettings (faults : List SettingFault)
  | unreadableSetting (field source : String)
  | scalar (fault : ScalarFault)
  | missingKey (shown : String)
  | noCharacter
  | malformedTemplate (text : String)
  | noMoreInput
  deriving Inhabited

namespace Fault

def text : Fault → String
  | flow e => e.text
  | raised text => text
  | unknownKind shown => shown ++ " is not a valid ActionKind"
  | locatorRequired kind => "Action of kind '" ++ kind ++ "' requires a locator"
  | speedNotPositive => "speed must be positive"
  | dateOutOfRange => "date value out of range"
  | infiniteInteger => "cannot convert float infinity to integer"
  | undefinedInteger => "cannot convert float NaN to integer"
  | integerTooLarge => "int too large to convert to float"
  | quotientTooLarge => "integer division result too large for a float"
  | divisionByZero => "float division by zero"
  | numeralTooLong digits =>
    s!"Exceeds the limit (4300 digits) for integer string conversion: value has {digits} digits; " ++
      "use sys.set_int_max_str_digits() to increase the limit"
  | malformedNumeral shown => "invalid literal for int() with base 10: " ++ shown
  | malformedHost text => text
  | nulInPath => "embedded null byte"
  | unknownLevel shown => "Unknown level: " ++ shown
  | undecodable refusal => refusal.message
  | file fault path => fault.text ++ ": " ++ Text.quote path
  | noMember kind member => s!"'{kind}' object has no attribute '{member}'"
  | wrongKind text => text
  | recordingGone => ""
  | cancelled => ""
  | invalidSettings _ => "invalid settings"
  | unreadableSetting field source => s!"error parsing value for field \"{field}\" from source \"{source}\""
  | scalar fault => fault.text
  | missingKey shown => shown
  | noCharacter => "%c arg not in range(0x110000)"
  | malformedTemplate text => text
  | noMoreInput => ""

def message : Fault → String
  | flow e => e.message
  | fault => fault.text

def isFile : Fault → Bool
  | file _ _ => true
  | _ => false

/-- Is the fault one of the program's own errors of the given kind or a case of it? -/
def isFlow (kind : ErrorKind) : Fault → Bool
  | flow e => e.kind == kind || e.kind.ancestors.contains kind
  | _ => false

end Fault

end BrowserFlow
