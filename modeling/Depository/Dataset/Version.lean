import Depository.Dataset.File
import Depository.Schema.Field
import Depository.Supply

/-!
# Versions

The versions of a dataset. At most the last one is a draft; a new draft starts as a copy of the
version before it, with records of its own.
-/

namespace Depository

inductive VersionState where
  | draft | released | deaccessioned
  deriving DecidableEq

namespace VersionState

def all : List VersionState := [.draft, .released, .deaccessioned]

def name : VersionState → String
  | .draft => "DRAFT"
  | .released => "RELEASED"
  | .deaccessioned => "DEACCESSIONED"

end VersionState

/-- A version of a dataset. -/
structure Version where
  id : VersionId
  state : VersionState
  versionNumber : Option UInt32
  minorVersionNumber : Option UInt32
  fields : List Field
  fileMetadata : List FileMetadata
  createTime : Option Time.Instant
  lastUpdateTime : Option Time.Instant
  releaseTime : Option Time.Instant
  unf : Option String
  validationProblems : List Violation
  deriving DecidableEq

namespace Version

/-- An empty draft. -/
def draft (id : VersionId) : Version where
  id := id
  state := .draft
  versionNumber := none
  minorVersionNumber := none
  fields := []
  fileMetadata := []
  createTime := none
  lastUpdateTime := none
  releaseTime := none
  unf := none
  validationProblems := []

def isDraft (v : Version) : Bool := v.state == .draft

def isReleased (v : Version) : Bool := v.state == .released

/-- The number as it is shown: a missing minor number counts as zero, a missing number as a
draft. -/
def friendlyNumber (v : Version) : String :=
  match v.versionNumber, v.minorVersionNumber with
  | some major, some minor => toString major ++ "." ++ toString minor
  | some major, none => toString major ++ ".0"
  | none, _ => "DRAFT"

/-- The values of the first field of the given name. -/
def fieldValues? (v : Version) (name : String) : Option (List String) :=
  (v.fields.find? fun f => f.typeName == name).map (·.values)

/-- The first value of the first field of the given name. -/
def firstValue? (v : Version) (name : String) : Option String :=
  (v.fieldValues? name).bind (·.head?)

def title? (v : Version) : Option String := v.firstValue? "title"

/-- The record with the given identity. -/
def record? (v : Version) (id : FileMetadataId) : Option FileMetadata :=
  v.fileMetadata.find? fun fm => fm.id == id

/-- The record about the given file; the first, if there are several. -/
def recordFor? (v : Version) (file : DataFileId) : Option FileMetadata :=
  v.fileMetadata.find? fun fm => fm.dataFile == file

/-- The records of a version with new identities, taken after the one of the draft. -/
def copiedRecords (ids : Supply Uuid) (v : Version) : List FileMetadata :=
  v.fileMetadata.mapIdx fun i fm => { fm with id := ⟨ids.ahead (i + 1)⟩ }

/-- A draft with the fields, the records and the fingerprint of another version. -/
def derive (ids : Supply Uuid) (v : Version) : Version :=
  { draft ⟨ids.next⟩ with
    fields := v.fields
    fileMetadata := v.copiedRecords ids
    unf := v.unf }

end Version

end Depository
