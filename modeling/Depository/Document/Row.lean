import Depository.Document.Entity

/-!
# Rows

The rows of a relational table beside the document of a dataset: the columns that are searched
or constrained.
-/

namespace Depository

open Json (ofText? ofOption)

/-- The row of a dataset. -/
structure DatasetRow where
  id : DatasetId
  owner : String
  globalId : Option String
  harvested : Bool
  document : Json
  modificationTime : Option Time.Instant
  lastExportTime : Option Time.Instant

def Dataset.row (d : Dataset) : DatasetRow where
  id := d.id
  owner := d.owner
  globalId := d.globalId.map (·.text)
  harvested := d.harvested
  document := d.toJson
  modificationTime := d.modificationTime
  lastExportTime := d.lastExportTime

def DatasetRow.toJson (r : DatasetRow) : Json :=
  .obj [("id", r.id.toJson), ("owner", .str r.owner), ("global_id", ofText? r.globalId),
    ("harvested", .bool r.harvested), ("document", r.document),
    ("modification_time", ofOption Time.Instant.toJson r.modificationTime),
    ("last_export_time", ofOption Time.Instant.toJson r.lastExportTime)]

/-- The row of a data file. -/
structure FileRow where
  id : DataFileId
  dataset : DatasetId
  globalId : Option String
  released : Bool
  deriving DecidableEq

def FileRow.toJson (r : FileRow) : Json :=
  .obj [("id", r.id.toJson), ("dataset_id", r.dataset.toJson), ("global_id", ofText? r.globalId),
    ("released", .bool r.released)]

/-- One row for each file of a dataset. -/
def Dataset.fileRows (d : Dataset) : List FileRow :=
  d.files.map fun f => ⟨f.id, d.id, f.globalId.map (·.text), f.isReleased⟩

end Depository
