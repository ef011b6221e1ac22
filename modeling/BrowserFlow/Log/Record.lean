import BrowserFlow.Log.Template
import BrowserFlow.Time.Instant
import BrowserFlow.Value.JsonText

/-!
Log records and their lines: JSON, or the time, the logger, the level and the message between dashes.
-/

namespace BrowserFlow

namespace LogLevel

def names : List (Int × String) :=
  [(0, "NOTSET"), (10, "DEBUG"), (20, "INFO"), (30, "WARNING"), (40, "ERROR"), (50, "CRITICAL")]

def name (level : Int) : String :=
  match names.find? fun entry => entry.1 == level with
  | some (_, name) => name
  | none => s!"Level {level}"

def synonyms : List (Int × String) := [(30, "WARN"), (50, "FATAL")]

def capital (c : Char) : Char :=
  if c.toNat == 0x131 then 'I' else if c.toNat == 0x17F then 'S' else c.toUpper

/-- The level that a word in any case stands for. What is no such word means `INFO`. -/
def ofWord (word : String) : Except Fault Int :=
  let word := String.ofList (word.toList.map capital)
  match (names ++ synonyms).find? fun entry => entry.2 == word with
  | some (level, _) => .ok level
  | none =>
    if word == "BASIC_FORMAT" then .error (.unknownLevel "'%(levelname)s:%(name)s:%(message)s'")
    else if word == "_STYLES" then .error (.wrongKind "Level not an integer or a valid string")
    else .ok 20

end LogLevel

structure LogRecord where
  time : Instant
  logger : String
  level : Int
  message : String
  failure : Option String := none
  deriving Inhabited

namespace LogRecord

def fields (r : LogRecord) : List (String × String) :=
  [("level", LogLevel.name r.level), ("name", r.logger), ("message", r.message)] ++
    (r.failure.toList.map fun text => ("exception", text))

def jsonLine (r : LogRecord) : String :=
  let members := (("time", r.time.logText) :: r.fields).map fun (key, s) => Json.asciiString key ++ ": " ++ Json.asciiString s
  "\x7b" ++ ", ".intercalate members ++ "\x7d"

def untimedLine (r : LogRecord) : String := r.logger ++ " - " ++ LogLevel.name r.level ++ " - " ++ r.message

def plainLine (r : LogRecord) : String := r.time.logText ++ " - " ++ r.untimedLine

end LogRecord

end BrowserFlow
