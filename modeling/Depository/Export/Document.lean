import Depository.Document.Entity
import Depository.Failure
import Depository.Json.Writer

/-!
# Export documents

The formats in which a released version is exported, and the files that an export of a dataset
writes. An unknown format ends the export after the formats before it have been written.
-/

namespace Depository.Export

open Json (ofOption ofText?)

/-- The whole version with the files that it refers to. -/
def dataverseJson (d : Dataset) (v : Version) : Json :=
  .obj [
    ("id", d.id.toJson),
    ("identifier", ofText? (d.globalId.map (·.text))),
    ("persistentUrl", ofText? (d.globalId.map fun g => "https://doi.org/" ++ g.path)),
    ("publicationDate", ofOption Time.Instant.toJson d.releaseTime?),
    ("datasetVersion", v.toJson),
    ("files", Json.ofList DataFile.toJson (d.files.filter fun f => (v.recordFor? f.id).isSome))]

/-- The metadata by which the version is cited. -/
def datacite (d : Dataset) (v : Version) : Json :=
  let values (name : String) : List String := (v.fieldValues? name).getD []
  .obj [
    ("doi", ofText? (d.globalId.map (·.path))),
    ("titles", .arr [.obj [("title", .str (v.title?.getD "Untitled"))]]),
    ("creators", .arr ((values "author").map fun name => .obj [("name", .str name)])),
    ("descriptions", Json.ofTexts (values "dsDescription")),
    ("subjects", Json.ofTexts (values "subject")),
    ("version", .str v.friendlyNumber),
    ("publicationYear", ofText? (v.releaseTime.map fun t => Time.yearText t.date.year)),
    ("types", .obj [("resourceTypeGeneral", .str "Dataset")])]

/-- The document of a version in a format. -/
def render (format : String) (d : Dataset) (v : Version) : Except Failure Json :=
  if format = "dataverse_json" then .ok (dataverseJson d v)
  else if format = "datacite" then .ok (datacite d v)
  else .error (.exporting ("unsupported export format '" ++ format ++ "'"))

/-- A file of an export, by its path below the directory of exports. -/
structure Artifact where
  path : String
  text : String
  deriving DecidableEq

/-- Where the export of a dataset in a format lies. -/
def path (d : Dataset) (format : String) : String :=
  d.id.text ++ "/export_" ++ format ++ ".json"

/-- The files written, and what ended the export early. -/
structure Result where
  written : List Artifact
  failure : Option Failure

/-- Writes the formats in order up to the first unknown one. -/
def writeFormats (d : Dataset) (v : Version) : List String → Result
  | [] => ⟨[], none⟩
  | format :: rest =>
    match render format d v with
    | .error e => ⟨[], some e⟩
    | .ok document =>
      let result := writeFormats d v rest
      { result with written := ⟨path d format, document.pretty⟩ :: result.written }

/-- Exports the released version of a dataset in all formats. -/
def allFormats (formats : List String) (d : Dataset) : Result :=
  match d.released? with
  | none => ⟨[], some (.exporting ("dataset " ++ d.id.text ++ " has no released version"))⟩
  | some v => writeFormats d v formats

/-- Whether a dataset is to be exported: a local one that is released and not deaccessioned, and
that, unless forced, was not exported since its last release. -/
def isNeeded (d : Dataset) (force : Bool) : Bool :=
  if d.harvested || !d.isReleased || d.isDeaccessioned then false
  else if force then true
  else match d.lastExportTime, d.releaseTime? with
    | none, _ => true
    | some exported, some released => decide (exported < released)
    | some _, none => false

end Depository.Export
