import BrowserFlow.Cli.Command
import BrowserFlow.Cli.Record
import BrowserFlow.Cli.Replay
import BrowserFlow.Log.Setup

/-!
Running a command line. Settings come first, the start of the log second; then the command has its way.
-/

namespace BrowserFlow.Cli

open Rehearsal

namespace TerminalM

def loadSettings (line : CommandLine) : TerminalM Settings := do
  let t ← get
  let request : SettingsRequest := { configPath := line.config.map fun s => (Path.ofText s).text }
  let (settings, environment) := request.load t.world.files t.environment
  set { t with environment }
  let settings ← ofResult settings
  let s := settings.logging
  let _ ← onFiles (LogSetup.start (if line.isVerbose then "DEBUG" else s.level) s.file s.isJson)
  return settings

def list (settings : Settings) (directory : Option String) : TerminalM Unit := do
  let store ← openStore settings directory
  match ← onFiles (FileM.ask (Recorder.list store)) with
  | [] => print (.text (Printed.styled "yellow" "No recordings found"))
  | recordings => print (recordingsTable recordings)

def describe (settings : Settings) (directory : Option String) (id : String) : TerminalM Unit := do
  let store ← openStore settings directory
  print (recordingFacts (← summaryOf store id))
  print (.code (← onFiles (FileM.ask (store.read · id))))

def delete (settings : Settings) (directory : Option String) (id : String) (isConfirmed : Bool) : TerminalM Unit := do
  let store ← openStore settings directory
  if !isConfirmed then confirm ("Delete recording " ++ id ++ "?")
  tryCatch (onFiles (store.delete id)) fun
    | .fault (.flow e) => if e.kind == .recordingNotFound then fail (.failure e.text) else throw (.fault (.flow e))
    | stop => throw stop
  print (.success ("Deleted " ++ id))

end TerminalM

def Command.run (command : Command) (settings : Settings) (directory : Option String) : TerminalM Unit :=
  match command with
  | .record url name description => .record settings directory url name description
  | .replay id arguments => .replay settings directory id arguments
  | .list => .list settings directory
  | .describe id => .describe settings directory id
  | .delete id isConfirmed => .delete settings directory id isConfirmed
  | .version => .print .version

/-- The version is told without regard to settings. -/
def CommandLine.run (line : CommandLine) : TerminalM Unit :=
  match line.command with
  | .version => .print .version
  | command => do command.run (← .loadSettings line) line.directory

inductive Ending
  | done
  | failed
  /-- a question was answered with no, or a line was wanted and none came -/
  | aborted
  /-- the command line is none -/
  | refused
  | raised (fault : Fault)
  deriving Inhabited

namespace Ending

def exitCode : Ending → Nat
  | done => 0
  | refused => 2
  | failed | aborted | raised _ => 1

def ofResult : Except Stop Unit → Ending
  | .ok _ => done
  | .error .failed => failed
  | .error .declined | .error (.fault .noMoreInput) => aborted
  | .error (.fault fault) => raised fault

end Ending

def Terminal.run (t : Terminal) (words : List String) : Ending × Terminal :=
  match Reading.ofWords words with
  | .refused => (.refused, t)
  | .help => (.done, t)
  | .command line =>
    let (result, t) := line.run.run.run t
    (Ending.ofResult result, t)

end BrowserFlow.Cli
