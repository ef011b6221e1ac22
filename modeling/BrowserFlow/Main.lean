import BrowserFlow.Cli.Run

/-!
The program on a real console and real files. It reads the files that a command may look at, runs the command on
them, prints what the command prints and carries out what has become of the files. It has no browser at hand, so the
commands that need one end with the fault of the launch.
-/

namespace BrowserFlow.Cli

open Rehearsal

def usage : String :=
  "usage: flow-recorder record URL | replay ID | list | show ID | delete ID | version"

/-- Adds the file at a real path, if there is one, under a path of its own. -/
def addFile (files : Files) (path : Path) (real : String) : IO Files := do
  let real := (← IO.currentDir) / real
  if (← real.pathExists) && !(← real.isDir) then
    let bytes ← IO.FS.readBinFile real
    let add : FileM Unit := do
      FileM.makeDirectories ⟨path.parts.dropLast⟩
      FileM.writeBytes path bytes.toList
    return (add.run.run files).2
  else return files

def addDirectory (files : Files) (path : Path) : IO Files := do
  let real := (← IO.currentDir) / path.text
  if ← real.isDir then
    let files := ((FileM.makeDirectories path).run.run files).2
    (← real.readDir).toList.foldlM (fun files entry => do
      let child := path.child entry.fileName
      addFile files child child.text) files
  else return files

def settingsFiles (config : Option String) : IO Files := do
  let home := (← IO.getEnv "HOME").getD "."
  let own := (SettingsFile.candidates config).map fun f =>
    (f.path, if f.isHome then home ++ "/" ++ f.path.text else f.path.text)
  let others := [".env", ".env.local"].map fun name => (Path.ofText name, name)
  (own ++ others).foldlM (fun files (path, real) => addFile files path real) {}

def variableNames : List String :=
  let upper (s : String) : String := s.map Char.toUpper
  let mark := upper Environment.mark
  (mark ++ "DEBUG") :: Settings.sections.flatMap fun (name, keys) =>
    (mark ++ upper name) :: keys.map fun key => mark ++ upper name ++ "__" ++ upper key

def environment : IO Environment := do
  let found ← variableNames.filterMapM fun name => do return (← IO.getEnv name).map (name, ·)
  return ⟨found⟩

def filesFor (line : CommandLine) (env : Environment) : IO Files := do
  let files ← settingsFiles line.config
  let settings := (SettingsRequest.load { configPath := line.config } files env).1.toOption.getD {}
  let files ← addDirectory files (Path.ofText (line.directory.getD settings.recorder.directory))
  let files ← addDirectory files (Path.ofText settings.session.directory)
  match settings.logging.file with
  | some name => addFile files (Path.ofText name).flat name
  | none => return files

def carryOut (before after : Files) : IO Unit := do
  for (place, node) in after.nodes do
    let text := Path.text ⟨place⟩
    match node with
    | .directory => if (before.node? place).isNone then IO.FS.createDirAll text
    | .file bytes => if before.node? place != some node then IO.FS.writeBinFile text ⟨bytes.toArray⟩
  for (place, node) in before.nodes do
    match node with
    | .directory => pure ()
    | .file _ => if (after.node? place).isNone then IO.FS.removeFile (Path.text ⟨place⟩)

/-- Asks on the console; only a word that begins with `y` means yes. -/
def agreesTo (question : String) : IO Bool := do
  IO.print (question ++ " [y/N]: ")
  (← IO.getStdout).flush
  let answer ← (← IO.getStdin).getLine
  return (answer.toList.head?.map Char.toLower) == some 'y'

def report : Ending → IO Unit
  | .aborted => IO.eprintln "Aborted."
  | .refused => IO.eprintln usage
  | .raised fault => IO.eprintln fault.text
  | .done | .failed => pure ()

def runLine (line : CommandLine) (words : List String) : IO UInt32 := do
  let env ← environment
  let files ← filesFor line env
  let terminal : Terminal :=
    { Scene.ofFiles files .epoch with
      engine := { startFault := some "no browser engine is installed" }
      environment := env }
  let first := terminal.run words
  let agrees ← match first.2.console.asked with
    | question :: _ => agreesTo question
    | [] => pure false
  let (ending, t) :=
    if agrees then Terminal.run { terminal with console := { agrees } } words else first
  t.console.printed.forM fun printed => printed.lines.forM fun s => IO.println s
  carryOut files t.world.files
  report ending
  return ending.exitCode.toUInt32

end BrowserFlow.Cli

open BrowserFlow.Cli

def main (words : List String) : IO UInt32 := do
  match Reading.ofWords words with
  | .command line => runLine line words
  | .help =>
    IO.println usage
    return 0
  | .refused =>
    IO.eprintln usage
    return 2
