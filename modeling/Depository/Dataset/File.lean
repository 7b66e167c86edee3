import Depository.Identifier.EntityId
import Depository.Identifier.GlobalId
import Depository.Text.Case
import Depository.Time.Instant

/-!
# Data files

The files of a dataset, what a version says about each, and the categories that group them.
-/

namespace Depository

/-- How the checksum of a file is computed. -/
inductive ChecksumAlgorithm where
  | md5 | sha1 | sha256 | sha512
  deriving DecidableEq

namespace ChecksumAlgorithm

def all : List ChecksumAlgorithm := [.md5, .sha1, .sha256, .sha512]

def name : ChecksumAlgorithm → String
  | .md5 => "MD5"
  | .sha1 => "SHA-1"
  | .sha256 => "SHA-256"
  | .sha512 => "SHA-512"

/-- The algorithm of the given name, in any case, with hyphens, underscores or nothing between
its parts; the error is the name in capitals with hyphens. -/
def ofText (s : String) : Except String ChecksumAlgorithm :=
  let normal := String.ofList ((Text.upper s).toList.map fun c => if c = '_' then '-' else c)
  if normal = "MD5" then .ok .md5
  else if normal = "SHA-1" ∨ normal = "SHA1" then .ok .sha1
  else if normal = "SHA-256" ∨ normal = "SHA256" then .ok .sha256
  else if normal = "SHA-512" ∨ normal = "SHA512" then .ok .sha512
  else .error normal

def unknownMessage (normal : String) : String := "Unknown checksum algorithm: " ++ normal

end ChecksumAlgorithm

/-- A file of a dataset. The fingerprint `unf` is there for tabular files, `publicationDate`
once a version with the file was released, `createDate` once the file was saved. -/
structure DataFile where
  id : DataFileId
  contentType : String
  size : UInt64
  checksumValue : String
  checksumType : ChecksumAlgorithm
  unf : Option String
  storageIdentifier : String
  publicationDate : Option Time.Instant
  createDate : Option Time.Instant
  creator : Option UserId
  modificationTime : Option Time.Instant
  globalId : Option GlobalId
  globalIdCreateTime : Option Time.Instant
  identifierRegistered : Bool
  deriving DecidableEq

namespace DataFile

/-- A file that was neither saved nor released. -/
def new (id : DataFileId) (contentType : String) (size : UInt64) (checksumValue : String) :
    DataFile where
  id := id
  contentType := contentType
  size := size
  checksumValue := checksumValue
  checksumType := .md5
  unf := none
  storageIdentifier := "file://" ++ id.text
  publicationDate := none
  createDate := none
  creator := none
  modificationTime := none
  globalId := none
  globalIdCreateTime := none
  identifierRegistered := false

def isReleased (f : DataFile) : Bool := f.publicationDate.isSome

def isTabular (f : DataFile) : Bool := f.unf.isSome

end DataFile

/-- What a version says about a data file. -/
structure FileMetadata where
  id : FileMetadataId
  dataFile : DataFileId
  label : String
  description : Option String
  directoryLabel : Option String
  restricted : Bool
  deriving DecidableEq

def FileMetadata.new (id : FileMetadataId) (dataFile : DataFileId) (label : String) :
    FileMetadata :=
  ⟨id, dataFile, label, none, none, false⟩

/-- A named group of file metadata records. -/
structure Category where
  name : String
  members : List FileMetadataId
  deriving DecidableEq

end Depository
