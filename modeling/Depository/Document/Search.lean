import Depository.Document.Entity

/-!
# Search documents

What the search index holds about a dataset: one document for its last version and one for each
record of that version.
-/

namespace Depository.Search

open Json (ofText? ofOption)

/-- The state of a version in the documents of the index. -/
def stateName : VersionState → String := VersionState.name

/-- The identity of the document about a dataset. -/
def datasetKey (id : DatasetId) : String := "dataset_" ++ id.text

/-- The document about a dataset. -/
def datasetDocument (d : Dataset) (v : Version) : Json :=
  .obj [
    ("id", .str (datasetKey d.id)),
    ("entityId", d.id.toJson),
    ("dvObjectType", .str "datasets"),
    ("identifier", ofText? (d.globalId.map (·.text))),
    ("title", ofText? v.title?),
    ("versionState", .str (stateName v.state)),
    ("versionNumber", .str v.friendlyNumber),
    ("parentId", .str d.owner),
    ("harvested", .bool d.harvested)]

/-- The identity of the document about a file in a version of the given state. -/
def fileKey (file : DataFileId) (state : VersionState) : String :=
  "datafile_" ++ file.text ++ "_" ++ Text.lowerAsciiText (stateName state)

/-- The document about a record. -/
def fileDocument (d : Dataset) (v : Version) (fm : FileMetadata) : Json :=
  let file := d.file? fm.dataFile
  .obj [
    ("id", .str (fileKey fm.dataFile v.state)),
    ("entityId", fm.dataFile.toJson),
    ("dvObjectType", .str "files"),
    ("name", .str fm.label),
    ("description", ofText? fm.description),
    ("fileContentType", ofText? (file.map (·.contentType))),
    ("fileSizeInBytes", ofOption (fun f => Json.ofNat f.size.toNat) file),
    ("fileChecksumValue", ofText? (file.map (·.checksumValue))),
    ("unf", ofText? (file.bind (·.unf))),
    ("fileTag", Json.ofTexts (d.categoriesOf fm.id)),
    ("restricted", .bool fm.restricted),
    ("parentId", .str (datasetKey d.id))]

/-- The documents of a dataset; none without a version. -/
def documents (d : Dataset) : List Json :=
  match d.latest? with
  | none => []
  | some v => datasetDocument d v :: v.fileMetadata.map (fileDocument d v)

end Depository.Search
