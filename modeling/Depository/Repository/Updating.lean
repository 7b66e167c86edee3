import Depository.Repository.Locking
import Depository.Repository.Registering
import Depository.Schema.Draft

/-!
# Updating a dataset

An update saves the draft of a dataset. The caller has to be allowed to edit and no lock may
keep the caller from it; the fields have to satisfy the schema. Then the dataset is stamped, the
named files are deleted, the fingerprint is renewed, the identifier is registered if the settings
say so, and all of it is stored at once. What follows the commit cannot make the update fail.
-/

namespace Depository.Repository

open Depository.Action

/-- A dataset to be saved. `records` and `file` name files to be deleted, by their records in the
draft or as such; a lenient update repairs fields that do not satisfy the schema. -/
structure UpdateRequest where
  principal : Principal
  dataset : Dataset
  records : List FileMetadataId
  file : Option DataFileId
  lenient : Bool

/-- The dataset as it was stored, and how its identifier was registered if that was tried. -/
structure UpdateOutcome where
  dataset : Dataset
  registration : Option RegistrationReport

/-! ### The caller -/

/-- What a user may do with a dataset; a superuser may do everything. -/
def permissionsOfUser (u : User) (dataset : DatasetId) : Action (List Permission) :=
  if u.superuser then pure Permission.all else permissionsFor u.id dataset

/-- The caller, who has to be a user that may edit the dataset and is not kept back by a lock. -/
def authorize (principal : Principal) (dataset : DatasetId) : Action User := do
  match principal with
  | .guest => fail (.authorization "Only authenticated users can update datasets")
  | .authenticated u =>
    let permissions ← permissionsOfUser u dataset
    if permissions.contains .editDataset then
      checkEdit dataset (permissions.contains .publishDataset)
      return u
    else
      fail (.authorization (u.identifier ++ " may not edit dataset " ++ dataset.text))

/-! ### The draft -/

/-- The fields of the draft arranged and judged by a schema. -/
def judgeDraft (schema : Schema) (lenient : Bool) (d : Dataset) : Except Failure Dataset :=
  match d.latest? with
  | none => .ok d
  | some draft =>
    match schema.judge lenient { draft with fields := schema.arrange draft.fields } with
    | (some e, _) => .error e
    | (none, judged) => .ok (d.mapLatest fun _ => judged)

/-- The records to be deleted: those named, and the record about the named file if the draft has
one. All of them have to be in the draft. -/
def recordsToDelete (records : List FileMetadataId) (file : Option DataFileId) (d : Dataset) :
    Except Failure (List FileMetadataId) :=
  let byFile := (file.bind fun f => d.draft?.bind (·.recordFor? f)).map (·.id)
  let all := records ++ byFile.toList
  match all.find? fun id => (d.draftRecord? id).isNone with
  | some unknown =>
    .error (.validation ("file metadata " ++ unknown.text ++ " is not part of the draft") [])
  | none => .ok all

/-- A file that is saved: a new one gets its creator and the time of creation, every one the time
of modification. -/
def stampFile (user : UserId) (time : Time.Instant) (f : DataFile) : DataFile :=
  let f := if f.createDate.isNone then { f with createDate := some time, creator := some user }
    else f
  { f with modificationTime := some time }

/-- A draft that is saved: its fields tidied, and the time of creation set if it was not. -/
def stampDraft (time : Time.Instant) (v : Version) : Version :=
  { v with
    fields := tidyFields v.fields
    createTime := v.createTime.or (some time) }

/-- The dataset with the stamps of creation and modification. -/
def stamp (user : UserId) (time : Time.Instant) (d : Dataset) : Dataset :=
  let d := d.mapDraft (stampDraft time)
  { d with files := d.files.map (stampFile user time) }

/-! ### Deleting files -/

/-- A record to be deleted and the file that it is about. -/
structure Deletion where
  record : FileMetadataId
  file : DataFileId
  deriving DecidableEq

/-- What is to be deleted for the given records of the draft. -/
def deletionsOf (records : List FileMetadataId) (d : Dataset) : List Deletion :=
  records.filterMap fun id => (d.draftRecord? id).map fun fm => ⟨id, fm.dataFile⟩

/-- Whether one of the files has a fingerprint. -/
def touchesFingerprint (deletions : List Deletion) (d : Dataset) : Bool :=
  deletions.any fun x => ((d.file? x.file).bind (·.unf)).isSome

/-- The dataset without its thumbnail, if that is one of the files. -/
def clearThumbnail (deletions : List Deletion) (d : Dataset) : Dataset :=
  if deletions.any fun x => d.thumbnailFile == some x.file then { d with thumbnailFile := none }
  else d

/-- Deletes one file. A released file stays and only its record is removed. -/
def delete (w : UnitOfWork) (x : Deletion) : UnitOfWork :=
  if (w.dataset.file? x.file).any (·.isReleased) then
    { w with dataset := (w.dataset.removeDraftRecord x.record).2 }
  else ({ w with dataset := (w.dataset.removeFile x.file).2 } : UnitOfWork).deleteFile x.file

/-- Deletes files one after another. -/
def deleteAll (deletions : List Deletion) (w : UnitOfWork) : UnitOfWork := deletions.foldl delete w

/-! ### The stages -/

/-- An update that was admitted and judged, with its time and the user who makes it. -/
structure PreparedUpdate where
  user : User
  time : Time.Instant
  dataset : Dataset
  records : List FileMetadataId

/-- Admits the caller, opens the draft and judges it. Nothing is changed yet. -/
def prepare (r : UpdateRequest) : Action PreparedUpdate := do
  let time ← now
  let user ← authorize r.principal r.dataset.id
  let d ← withIds fun ids => r.dataset.openDraft ids
  let d ← ofExcept (judgeDraft (← surroundings).schema r.lenient d)
  let records ← ofExcept (recordsToDelete r.records r.file d)
  return ⟨user, time, d, records⟩

/-- The draft with its fingerprint as the ingest service finds it. -/
def renewFingerprint (d : Dataset) : Action Dataset := do
  match d.latest? with
  | none => return d
  | some draft =>
    let unf ← recalculate draft d.files
    return d.mapLatest fun v => { v with unf }

/-- Registers the identifier of a dataset that was not registered yet, if the settings say so. A
failure to find an identifier leaves the dataset as it is. -/
def registerIfDue (d : Dataset) : Action (Dataset × Option RegistrationReport) := do
  if (← surroundings).identifiers.registersImmediately && d.globalIdCreateTime.isNone then
    match ← outcome (registerDataset d) with
    | .ok (report, d) => return (d, some report)
    | .error _ => return (d, none)
  else return (d, none)

/-- The dataset with the time of the update. -/
def stampUpdate (time : Time.Instant) (d : Dataset) : Dataset :=
  { d.mapDraft (fun v => { v with lastUpdateTime := some time }) with
    modificationTime := some time }

/-- The work of a prepared update before its identifier is registered. -/
def stage (p : PreparedUpdate) : Action UnitOfWork := do
  let d := stamp p.user.id p.time p.dataset
  let deletions := deletionsOf p.records d
  let work := deleteAll deletions (.merge (clearThumbnail deletions d))
  if touchesFingerprint deletions d then
    return { work with dataset := ← renewFingerprint work.dataset }
  else return work

/-- Notes who worked on the draft, and brings the index up to date. Failures are passed over. -/
def follow (user : User) (time : Time.Instant) (saved : Dataset) : Action Unit := do
  match saved.draft? with
  | some v =>
    let _ ← outcome (touch v.id user.id time)
  | none => pure ()
  let _ ← outcome (reindex saved true)
  return ()

/-- Carries out a prepared update. -/
def carryOut (p : PreparedUpdate) : Action UpdateOutcome := do
  let work ← stage p
  let (d, registration) ← registerIfDue work.dataset
  let saved ← commit { work with dataset := stampUpdate p.time d }
  follow p.user p.time saved
  return ⟨saved, registration⟩

/-- Saves the draft of a dataset. -/
def update (r : UpdateRequest) : Action UpdateOutcome := do
  carryOut (← prepare r)

end Depository.Repository
