import Depository.Configuration.Load
import Depository.Export.Summary
import Depository.Lock.Basic
import Depository.Repository.FileIdentifiers

/-!
# Lines for the reader

What the commands say: about a configuration, a run over all datasets, a lock. Of the secrets in a
configuration only a password among the parameters of an address may be said.
-/

namespace Depository.CommandLine

/-- A text filled up with blanks to a width. -/
def padRight (width : Nat) (s : String) : String :=
  s ++ String.ofList (List.replicate (width - s.length) ' ')

/-- The part of a connection address after the last at sign, before which the credentials
stand. -/
def connectionHost (url : String) : String :=
  ((Text.split '@' url).getLast?).getD url

def deploymentTitle : Deployment → String
  | .development => "Development"
  | .staging => "Staging"
  | .production => "Production"

def providerTitle : RegistryProvider → String
  | .datacite => "DataCite"
  | .ezid => "Ezid"

/-- What is said about the store. -/
def storeTitle (c : Configuration) : String :=
  match c.databaseTarget, c.database with
  | .memory, _ => "in-memory"
  | .postgresql, none => "PostgreSQL"
  | .postgresql, some d =>
    "PostgreSQL at " ++ connectionHost d.connectionString.exposed ++ " (pool " ++
      toString d.maxConnections ++ ")"

/-- What a configuration means, as labels and values. -/
def configurationSummary (c : Configuration) : List (String × String) :=
  let ids := c.identifiers
  [("Environment", deploymentTitle c.deployment),
   ("Log level", c.application.logLevel),
   ("Site URL", c.application.siteUrl),
   ("Store", storeTitle c),
   ("Identifiers",
     ids.protocol ++ ":" ++ ids.authority ++ "/" ++ ids.shoulder ++ "* (" ++ ids.style ++ ")"),
   ("Registration",
     (if ids.registersImmediately then "on save" else "on publish") ++ ", at most " ++
       toString ids.maxRegistrationAttempts ++ " registry calls"),
   ("Registry", providerTitle c.registry.provider ++ " at " ++ c.registry.baseUrl),
   ("Search index", if c.index.enabled then c.index.solrUrl else "disabled"),
   ("Mail", if c.mail.enabled then c.mail.relayUrl else "disabled"),
   ("Export", Text.join ", " c.exports.formats ++ " -> " ++ c.exports.directory)]

def configurationLines (c : Configuration) : List String :=
  (configurationSummary c).map fun (label, value) => "  " ++ padRight 13 label ++ " " ++ value

/-- The failures of a run that are shown one by one. -/
def shownFailures : Nat := 10

/-- The lines about a run that took so many hundredths of a second. -/
def runLines (title : String) (s : RunSummary) (hundredths : Nat) : List String :=
  ["", "📊 " ++ title ++ " Summary:",
   "  Total Datasets: " ++ toString s.total,
   "  Processed: " ++ toString s.processed,
   "  Succeeded: " ++ toString s.succeeded,
   "  Failed: " ++ toString s.failed,
   "  Skipped: " ++ toString s.skipped,
   "  Duration: " ++ RunSummary.decimalText 2 (hundredths * 10000) ++ "s",
   "  Success Rate: " ++ RunSummary.decimalText 2 s.successMillionths ++ "%"] ++
  ((s.failures.take shownFailures).map fun f =>
    "    - " ++ f.dataset.text ++ ": " ++ f.message) ++
  (if shownFailures < s.failures.length then
    ["    ... and " ++ toString (s.failures.length - shownFailures) ++ " more failures"]
   else []) ++ [""]

/-- A point in time to the second. -/
def secondText (t : Time.Instant) : String := t.date.text ++ " " ++ t.clockText

/-- The line about a lock. -/
def lockLine (l : Lock) : String :=
  l.dataset.text ++ "  " ++ padRight 22 l.reason.text ++ " since " ++ secondText l.startTime ++
    "  user=" ++ ((l.user.map (·.text)).getD "-") ++ "  " ++ l.info.getD ""

def identifierLines (d : DatasetId) (s : Repository.FileIdentifierSummary) : List String :=
  ["🏷️  Dataset " ++ d.text, "  Assigned: " ++ toString s.assigned,
   "  Registered: " ++ toString s.registered, "  Failed: " ++ toString s.failed]

end Depository.CommandLine
