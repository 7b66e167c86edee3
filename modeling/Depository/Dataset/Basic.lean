import Depository.Dataset.Version

/-!
# Datasets

A dataset with its versions, files and categories, and the operations that edit it: opening a
draft, adding and removing files, grouping them, and releasing the draft.
-/

namespace Depository

structure Dataset where
  id : DatasetId
  owner : String
  creator : Option UserId
  globalId : Option GlobalId
  globalIdCreateTime : Option Time.Instant
  identifierRegistered : Bool
  harvested : Bool
  versions : List Version
  files : List DataFile
  categories : List Category
  thumbnailFile : Option DataFileId
  createTime : Time.Instant
  modificationTime : Option Time.Instant
  lastExportTime : Option Time.Instant
  deriving DecidableEq

namespace Dataset

def latest? (d : Dataset) : Option Version := d.versions.getLast?

/-- The version that can be edited: the last one, if it is a draft. -/
def draft? (d : Dataset) : Option Version := d.latest?.filter (·.isDraft)

/-- The last of the released versions. -/
def released? (d : Dataset) : Option Version := d.versions.reverse.find? (·.isReleased)

def isReleased (d : Dataset) : Bool := d.released?.isSome

/-- Whether the last version that is not a draft was deaccessioned. -/
def isDeaccessioned (d : Dataset) : Bool :=
  (d.versions.reverse.find? fun v => !v.isDraft).any fun v => v.state == .deaccessioned

def releaseTime? (d : Dataset) : Option Time.Instant := d.released?.bind (·.releaseTime)

/-- The file with the given identity; the first, if it is repeated. -/
def file? (d : Dataset) (id : DataFileId) : Option DataFile := d.files.find? fun f => f.id == id

/-- Changes the last element of a list. -/
def mapLast (change : α → α) : List α → List α
  | [] => []
  | [a] => [change a]
  | a :: b :: rest => a :: mapLast change (b :: rest)

/-- Changes the first element that satisfies a condition. -/
def mapFirst (cond : α → Bool) (change : α → α) : List α → List α
  | [] => []
  | a :: rest => if cond a then change a :: rest else a :: mapFirst cond change rest

/-- Changes the last version. -/
def mapLatest (change : Version → Version) (d : Dataset) : Dataset :=
  { d with versions := mapLast change d.versions }

/-- Changes the last version, if it is a draft. -/
def mapDraft (change : Version → Version) (d : Dataset) : Dataset :=
  if d.draft?.isSome then d.mapLatest change else d

/-- Changes the file with the given identity; the first, if it is repeated. -/
def mapFile (id : DataFileId) (change : DataFile → DataFile) (d : Dataset) : Dataset :=
  { d with files := mapFirst (fun f => f.id == id) change d.files }

/-- A category that also holds the copies of the records it holds. -/
def extendCategory (copies : List (FileMetadataId × FileMetadataId)) (c : Category) : Category :=
  { c with members := c.members ++ (copies.filter fun p => c.members.contains p.1).map (·.2) }

/-- Appends a draft that is a copy of the given version, its records in the same categories. -/
def appendDerived (ids : Supply Uuid) (v : Version) (d : Dataset) : Dataset :=
  let draft := v.derive ids
  let copies := (v.fileMetadata.map (·.id)).zip (draft.fileMetadata.map (·.id))
  { d with
    versions := d.versions ++ [draft]
    categories := d.categories.map (extendCategory copies) }

/-- The dataset with a draft as its last version. A new draft is a copy of the last version, or
empty if there is none. -/
def openDraft (ids : Supply Uuid) (d : Dataset) : Dataset × Supply Uuid :=
  if d.draft?.isSome then (d, ids)
  else match d.latest? with
    | some v => (d.appendDerived ids v, ids.drop (v.fileMetadata.length + 1))
    | none => ({ d with versions := [.draft ⟨ids.next⟩] }, ids.drop 1)

/-- Adds a file with a record in the draft. -/
def addFile (ids : Supply Uuid) (file : DataFile) (label : String) (d : Dataset) :
    FileMetadataId × Dataset × Supply Uuid :=
  let id : FileMetadataId := ⟨ids.next⟩
  let (d, ids) := openDraft (ids.drop 1) { d with files := d.files ++ [file] }
  let record := FileMetadata.new id file.id label
  (id, d.mapLatest fun v => { v with fileMetadata := v.fileMetadata ++ [record] }, ids)

/-- Puts a record into the category of the given name, which is made if there is none. -/
def addToCategory (id : FileMetadataId) (name : String) (d : Dataset) : Dataset :=
  let add (c : Category) : Category :=
    if c.members.contains id then c else { c with members := c.members ++ [id] }
  if d.categories.any fun c => c.name == name then
    { d with categories := mapFirst (fun c => c.name == name) add d.categories }
  else { d with categories := d.categories ++ [⟨name, [id]⟩] }

/-- The names of the categories that hold a record. -/
def categoriesOf (id : FileMetadataId) (d : Dataset) : List String :=
  (d.categories.filter fun c => c.members.contains id).map (·.name)

/-- Takes records out of all categories. -/
def unlink (ids : List FileMetadataId) (d : Dataset) : Dataset :=
  { d with categories := d.categories.map fun c =>
      { c with members := c.members.filter fun id => !ids.contains id } }

/-- The record with the given identity in the draft. -/
def draftRecord? (id : FileMetadataId) (d : Dataset) : Option FileMetadata :=
  d.draft?.bind (·.record? id)

/-- Removes a record from the draft and from all categories. -/
def removeDraftRecord (id : FileMetadataId) (d : Dataset) : Option FileMetadata × Dataset :=
  match d.draftRecord? id with
  | none => (none, d)
  | some record =>
    let d := d.mapLatest fun v =>
      { v with fileMetadata := v.fileMetadata.eraseP fun fm => fm.id == id }
    (some record, d.unlink [record.id])

/-- The records about a file in all versions. -/
def recordsOf (file : DataFileId) (d : Dataset) : List FileMetadata :=
  d.versions.flatMap fun v => v.fileMetadata.filter fun fm => fm.dataFile == file

/-- Removes a file with all records about it. -/
def removeFile (id : DataFileId) (d : Dataset) : Option DataFile × Dataset :=
  match d.file? id with
  | none => (none, d)
  | some file =>
    let orphaned := (d.recordsOf id).map (·.id)
    let strip (v : Version) : Version :=
      { v with fileMetadata := v.fileMetadata.filter fun fm => fm.dataFile != id }
    let rest : Dataset :=
      { d with
        files := d.files.eraseP (fun f => f.id == id)
        versions := d.versions.map strip
        thumbnailFile := if d.thumbnailFile = some id then none else d.thumbnailFile }
    (some file, rest.unlink orphaned)

/-- Makes a file of the dataset its thumbnail. -/
def setThumbnail (id : DataFileId) (d : Dataset) : Bool × Dataset :=
  if (d.file? id).isSome then (true, { d with thumbnailFile := some id }) else (false, d)

def removeThumbnail (d : Dataset) : Option DataFileId × Dataset :=
  (d.thumbnailFile, { d with thumbnailFile := none })

/-- The number of the next release: the first is 1.0, a minor one raises the second number of
the last released version, and any other the first. After the greatest number comes zero. -/
def nextNumber (minor : Bool) (d : Dataset) : UInt32 × UInt32 :=
  match d.released? with
  | none => (1, 0)
  | some v =>
    let major := v.versionNumber.getD 0
    if minor then (major, v.minorVersionNumber.getD 0 + 1) else (major + 1, 0)

/-- Releases the draft and with it the files it refers to. -/
def releaseDraft (time : Time.Instant) (minor : Bool) (d : Dataset) : Bool × Dataset :=
  match d.draft? with
  | none => (false, d)
  | some draft =>
    let (major, minorNumber) := d.nextNumber minor
    let released := draft.fileMetadata.map (·.dataFile)
    let publish (f : DataFile) : DataFile :=
      if released.contains f.id ∧ f.publicationDate = none then
        { f with publicationDate := some time }
      else f
    let d := d.mapLatest fun v =>
      { v with
        state := .released
        versionNumber := some major
        minorVersionNumber := some minorNumber
        releaseTime := some time }
    (true, { d with files := d.files.map publish })

end Dataset

/-- The parts from which a new dataset is made; the owner has to be given. -/
structure DatasetParts where
  id : Option DatasetId
  owner : Option String
  creator : Option UserId
  globalId : Option GlobalId
  harvested : Bool
  fields : List Field
  createTime : Option Time.Instant

/-- A new dataset with one draft. The identity of the draft is taken first, then that of the
dataset if none is given; `now` is the time of creation if none is given. -/
def DatasetParts.build? (ids : Supply Uuid) (now : Time.Instant) (p : DatasetParts) :
    Option Dataset :=
  p.owner.map fun owner => {
    id := p.id.getD ⟨ids.ahead 1⟩
    owner := owner
    creator := p.creator
    globalId := p.globalId
    globalIdCreateTime := none
    identifierRegistered := false
    harvested := p.harvested
    versions := [{ Version.draft ⟨ids.next⟩ with fields := p.fields }]
    files := []
    categories := []
    thumbnailFile := none
    createTime := p.createTime.getD now
    modificationTime := none
    lastExportTime := none }

end Depository
