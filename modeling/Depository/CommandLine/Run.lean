import Depository.CommandLine.Invocation
import Depository.CommandLine.Report
import Depository.CommandLine.Sample
import Depository.Database.Connection
import Depository.Dataset.Fingerprint
import Depository.Repository.Locking
import Depository.Repository.Run
import Depository.Service.MailRelay
import Depository.Service.Registry
import Depository.Service.Solr

/-!
# Carrying out commands

A command reads and writes files below a folder, says lines, and ends with a code: 0 for success,
1 when some datasets failed, 2 for a configuration that cannot be used, 4 when the store cannot be
reached, and 5 for all else.
-/

namespace Depository.CommandLine

/-- What a command finds around it; `reach` says how servers answer, if at all. -/
structure Setting where
  folder : Folder
  vars : Variables
  ids : Supply Uuid
  clock : Supply Time.Instant
  localParts : Supply LocalPart
  reach : Service.Request → Option Service.Response

/-- How a command ended: its code, what it said, and the files afterwards. -/
structure Ending where
  code : Nat
  output : List String
  errors : List String
  folder : Folder

/-- Ends with a line among the errors. -/
def Setting.refuse (s : Setting) (code : Nat) (line : String) : Ending :=
  ⟨code, [], [line], s.folder⟩

/-- Ends with lines of output. -/
def Setting.say (s : Setting) (code : Nat) (lines : List String) : Ending :=
  ⟨code, lines, [], s.folder⟩

/-- The world around a store that was just opened. -/
def Setting.world (s : Setting) (store : Store) : World :=
  ⟨store, s.ids, s.clock, s.localParts, [], []⟩

/-- The services of a configuration. -/
def Setting.surroundings (s : Setting) (c : Configuration) : Surroundings where
  identifiers := c.identifiers
  application := c.application
  schema := .citation
  mutePolicy := c.notifications.policy
  registry _ target := (Service.Registry.register c.registry target).via s.reach
  registryHas id := (Service.Registry.hasIdentifier c.registry id).via s.reach
  index := some fun _ d minor => (Service.Solr.update c.index d minor).via s.reach
  mailer := some fun _ m => (Service.MailRelay.send c.mail m).via s.reach
  ingest _ v files := .ok (v.fingerprint? files)
  exporter _ d := Export.allFormats c.exports.formats d
  outage _ _ := none
  vanished _ := false

/-- Does work on the store of the configuration in a file. -/
def Setting.withStore (s : Setting) (path : String)
    (work : Configuration → World → Ending) : Ending :=
  match Configuration.load s.folder s.vars path with
  | .error e => s.refuse 2 ("Failed to load configuration: " ++ e.message)
  | .ok c =>
    match Database.openStore c with
    | .error e => s.refuse 4 ("Failed to connect to store: " ++ e.message)
    | .ok store => work c (s.world store)

/-- Says what a configuration means. -/
def validate (s : Setting) (path : String) : Ending :=
  let title := "🔍 Validating configuration file: " ++ path
  match Configuration.load s.folder s.vars path with
  | .error e => s.say 2 [title, "❌ Configuration is invalid", "   Error: " ++ e.message]
  | .ok c => s.say 0 ([title, "✅ Configuration is valid", ""] ++ configurationLines c ++ [""])

/-- What to do after a sample has been written. -/
def nextSteps (output : String) : List String :=
  ["✅ Configuration file created: " ++ output, "", "Next steps:",
   "  1. Edit " ++ output ++ " with your settings",
   "  2. Set database_target to 'postgresql' or 'memory'",
   "  3. Create a .env file with your credentials:",
   "     - Set CAIRN_REGISTRY_PASSWORD",
   "     - Set CAIRN_PG_URL (if using PostgreSQL)",
   "  4. Validate configuration: cairn validate-config", ""]

/-- Writes a sample configuration; a file that is there stays unless told otherwise. -/
def writeSample (s : Setting) (output : String) (withExamples force : Bool) : Ending :=
  let title := ["📝 Initializing Cairn configuration", ""]
  if s.folder.contains output && !force then
    s.say 2 (title ++ ["❌ Configuration file already exists: " ++ output,
      "   Use --force to overwrite"])
  else match s.folder.write output (Sample.text withExamples) with
    | .ok folder => ⟨0, title ++ nextSteps output, [], folder⟩
    | .error flaw =>
      s.say 5 (title ++ ["❌ Failed to write configuration file", "   Error: " ++ flaw.message])

def runCode (s : RunSummary) : Nat := if s.isSuccessful then 0 else 1

/-- The files of a folder after exports have been written below a directory. -/
def withExports (folder : Folder) (directory : String) (artifacts : List Export.Artifact) :
    Folder :=
  artifacts.foldl
    (fun f a => f.put (Folder.parts directory ++ Folder.parts a.path) a.text) folder

/-- Exports all datasets, and indexes them if asked to. -/
def exportAll (s : Setting) (force reindex : Bool) (c : Configuration) (w : World) : Ending :=
  let around := s.surroundings c
  let title := "🚀 Exporting datasets to " ++ c.exports.directory
  let (exported, w) := (Repository.exportAll force).run around w
  let folder := withExports s.folder c.exports.directory w.exports
  match exported with
  | .error e => ⟨5, [title], ["Export failed: " ++ e.message], folder⟩
  | .ok summary =>
    let lines := title :: runLines "Export" summary 0
    if !reindex then ⟨runCode summary, lines, [], folder⟩
    else
      let lines := lines ++ ["🔎 Reindexing datasets"]
      match (Repository.indexAll.run around w).1 with
      | .error e => ⟨5, lines, ["Reindex failed: " ++ e.message], folder⟩
      | .ok indexed =>
        ⟨max (runCode summary) (runCode indexed), lines ++ runLines "Reindex" indexed 0, [],
          folder⟩

/-- Ends as an action on the store does; a failure is reported as it is. -/
def Setting.finish (s : Setting) (c : Configuration) (w : World) (x : Action α)
    (onFailure : Failure → String) (ending : α → Ending) : Ending :=
  match (x.run (s.surroundings c) w).1 with
  | .ok a => ending a
  | .error e => s.refuse 5 (onFailure e)

def plainFailure (e : Failure) : String := "Error: " ++ e.message

def listLocks (s : Setting) (filter : LockFilter) (c : Configuration) (w : World) : Ending :=
  s.finish c w (Repository.listLocks filter) plainFailure fun locks =>
    s.say 0 (if locks.isEmpty then ["No locks found"] else locks.map lockLine)

def releaseLocks (s : Setting) (dataset : DatasetId) (reason : LockReason) (c : Configuration)
    (w : World) : Ending :=
  s.finish c w (Repository.removeLocks dataset reason) plainFailure fun removed =>
    s.say 0 ["🔓 Released " ++ toString removed.length ++ " " ++ reason.text ++ " lock(s) on " ++
      dataset.text]

def assignFileIdentifiers (s : Setting) (dataset : DatasetId) (c : Configuration) (w : World) :
    Ending :=
  s.finish c w (Repository.assignFileIdentifiers dataset)
    (fun e => "File identifier assignment failed: " ++ e.message) fun summary =>
      s.say (if summary.failed = 0 then 0 else 1) (identifierLines dataset summary)

/-- Carries out an invocation. -/
def Invocation.run (i : Invocation) (s : Setting) : Ending :=
  match i.command with
  | .validate => validate s i.configPath
  | .writeSample output withExamples force => CommandLine.writeSample s output withExamples force
  | .exportAll force reindex => s.withStore i.configPath (exportAll s force reindex)
  | .listLocks filter => s.withStore i.configPath (listLocks s filter)
  | .releaseLocks dataset reason => s.withStore i.configPath (releaseLocks s dataset reason)
  | .assignFileIdentifiers dataset =>
    s.withStore i.configPath (assignFileIdentifiers s dataset)

end Depository.CommandLine
