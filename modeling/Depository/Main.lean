import Depository.CommandLine.Run
import Depository.Configuration.VariableFile
import Depository.Log.Level

/-!
# The program

Looks up what a command needs (the variables that are set, the files that it names), carries it
out, writes the files that it changed, and says its lines.
-/

namespace Depository.Program

open CommandLine (Invocation Setting Ending UsageFlaw)

/-- What the program says about itself. -/
def usage : List String :=
  ["Usage: cairn [-c <CONFIG>] [-l <LOG_LEVEL>] <COMMAND>", "", "Commands:",
   "  validate-config     Validate configuration file",
   "  init                Initialize a new configuration file",
   "  export              Export metadata of released datasets",
   "  locks               Inspect and release dataset locks",
   "  register-file-pids  Assign and register identifiers for a dataset's files"]

/-- The entries of a folder that make a path lead where it leads outside. -/
def filesAt (path : String) : IO (List (List String × String)) := do
  let parts := Folder.parts path
  let marked (folder : List String) : List (List String × String) := [(folder ++ [""], "")]
  match ← (IO.FS.readFile path).toBaseIO with
  | .ok text => return [(parts, text)]
  | .error (.noFileOrDirectory ..) =>
    let around := Text.join "/" ("." :: parts.dropLast)
    let around := if parts.head? = some "/" then Text.join "/" parts.dropLast else around
    match ← (IO.FS.realPath around).toBaseIO with
    | .ok _ => return marked parts.dropLast
    | .error _ => return []
  | .error _ => return marked parts

/-- The files that an invocation names. -/
def folderFor (i : Invocation) : IO Folder := do
  let config ← filesAt i.configPath
  match i.command with
  | .writeSample output .. => return ⟨config ++ (← filesAt output)⟩
  | _ => return ⟨config⟩

/-- The names that the files of a folder refer to. -/
def namesIn (folder : Folder) : List String :=
  folder.files.flatMap fun (_, text) => (Text.lines text.toList).flatMap Template.references

/-- The values of variables; those that are not set are looked up in the file of variables. -/
def lookUp (names : List String) : IO Variables := do
  let fromFile := match ← (IO.FS.readFile ".env").toBaseIO with
    | .ok text => Variables.ofText text
    | .error _ => []
  let set ← names.filterMapM fun name => do
    return (← IO.getEnv name).map fun value => (name, value)
  let all := set ++ fromFile
  return fun name => all.lookup name

/-- No server can be reached from here. -/
def reachNobody (_ : Service.Request) : Option Service.Response := none

/-- What a command finds around it. A store that was just opened is empty, so that no command
comes to take anything from the supplies. -/
def settingFor (folder : Folder) (vars : Variables) : Setting where
  folder := folder
  vars := vars
  ids := ⟨fun n => ⟨.ofNat 128 n⟩, 0⟩
  clock := ⟨fun _ => Time.Instant.epoch, 0⟩
  localParts := ⟨LocalPart.ofNat, 0⟩
  reach := reachNobody

/-- Writes the files that a command changed. -/
def writeChanges (before after : Folder) : IO Unit := do
  for file in after.files do
    if !before.files.contains file then
      let path := if file.1.head? = some "/" then "/" ++ Text.join "/" (file.1.drop 1)
        else Text.join "/" file.1
      IO.FS.writeFile path file.2

def say (e : Ending) : IO Unit := do
  e.output.forM fun line => IO.println line
  e.errors.forM fun line => IO.eprintln line

/-- What is said of a command line that cannot be carried out. -/
def sayUsage (flaw : UsageFlaw) : IO UInt32 := do
  match flaw with
  | .helpAsked =>
    usage.forM fun line => IO.println line
    return 0
  | .versionAsked =>
    IO.println "cairn 0.4.0"
    return 0
  | flaw =>
    IO.eprintln ("error: " ++ flaw.name)
    usage.forM fun line => IO.eprintln line
    return 2

/-- Starts the log, which a command only shows on the console, and carries out an invocation. -/
def carryOut (i : Invocation) : IO UInt32 := do
  let folder ← folderFor i
  let vars ← lookUp (Configuration.variableNames ++ namesIn folder)
  let logging : LoggingSettings := { LoggingSettings.default with localEnabled := false }
  match Log.start (i.logLevel.getD "info") logging folder with
  | .error e =>
    IO.eprintln ("Failed to initialize logging: " ++ e.message)
    return 5
  | .ok _ =>
    let e := i.run (settingFor folder vars)
    writeChanges folder e.folder
    say e
    return e.code.toUInt32

end Depository.Program

def main (args : List String) : IO UInt32 := do
  let vars ← Depository.Program.lookUp ["CAIRN_CONFIG", "CAIRN_LOG_LEVEL"]
  match Depository.CommandLine.Invocation.ofWords vars args with
  | .error flaw => Depository.Program.sayUsage flaw
  | .ok i => Depository.Program.carryOut i
