import Depository.Document.Entity
import Depository.Export.Document
import Depository.Export.Summary
import Depository.Registration.Outcome
import Depository.Repository.FileIdentifiers

/-!
# Documents of reports

How answers of a registry, reports of runs and descriptions of datasets stand in JSON.
-/

namespace Depository

def RegistrationOutcome.toJson (o : RegistrationOutcome) : Json :=
  .obj [("status", .str o.status.name), ("shown", .str o.status.text),
    ("identifier", o.identifier.toJson), ("message", Json.ofText? o.message),
    ("is_registered", .bool o.isRegistered)]

def RegistrationReport.toJson (r : RegistrationReport) : Json :=
  .obj [("attempts", .ofNat r.attempts), ("status", .str r.status.name),
    ("identifier", r.identifier.toJson)]

def DatasetFailure.toJson (f : DatasetFailure) : Json :=
  .obj [("dataset_id", f.dataset.toJson), ("message", .str f.message)]

def RunSummary.toJson (s : RunSummary) : Json :=
  .obj [("total_datasets", .ofNat s.total), ("processed", .ofNat s.processed),
    ("succeeded", .ofNat s.succeeded), ("failed", .ofNat s.failed),
    ("skipped", .ofNat s.skipped), ("failures", Json.ofList DatasetFailure.toJson s.failures)]

/-- The counts of a run with its success rate. -/
def RunSummary.assessment (s : RunSummary) : Json :=
  .obj [("summary", s.toJson), ("successful", .bool s.isSuccessful), ("rate", .str s.successRate)]

def Repository.FileIdentifierSummary.toJson (s : FileIdentifierSummary) : Json :=
  .obj [("assigned", .ofNat s.assigned), ("registered", .ofNat s.registered),
    ("failed", .ofNat s.failed)]

namespace Dataset

/-- The place of the last version. -/
def latestPlace? (d : Dataset) : Option Nat :=
  if d.versions.isEmpty then none else some (d.versions.length - 1)

/-- The place of the last released version. -/
def releasedPlace? (d : Dataset) : Option Nat :=
  (d.versions.reverse.findIdx? (·.isReleased)).map fun i => d.versions.length - 1 - i

def versionDescription (v : Version) : Json :=
  .obj [("number", .str v.friendlyNumber), ("title", Json.ofText? v.title?),
    ("draft", .bool v.isDraft), ("released", .bool v.isReleased)]

def fileDescription (f : DataFile) : Json :=
  .obj [("released", .bool f.isReleased), ("tabular", .bool f.isTabular),
    ("checksum", .str f.checksumType.name)]

/-- What can be said about a dataset as a whole. -/
def description (d : Dataset) : Json :=
  let place (p : Option Nat) : Json := Json.ofOption Json.ofNat p
  .obj [("latest", place d.latestPlace?),
    ("edit", place (d.draft?.bind fun _ => d.latestPlace?)),
    ("released", place d.releasedPlace?), ("is_released", .bool d.isReleased),
    ("is_deaccessioned", .bool d.isDeaccessioned),
    ("release_time", Json.ofOption Time.Instant.toJson d.releaseTime?),
    ("needs_export", .bool (Export.isNeeded d false)),
    ("needs_export_forced", .bool (Export.isNeeded d true)),
    ("versions", Json.ofList versionDescription d.versions),
    ("files", Json.ofList fileDescription d.files)]

end Dataset

end Depository
