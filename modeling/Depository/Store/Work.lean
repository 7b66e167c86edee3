import Depository.Dataset.Basic
import Depository.Failure

/-!
# Units of work

A dataset as it is to be stored, with the files to delete for good, and the conditions under
which it may replace what is stored: one draft at most, no deletion of attached or released
files, and released versions kept with their fields and records.
-/

namespace Depository

/-- A dataset to be stored and the files to be deleted with it. -/
structure UnitOfWork where
  dataset : Dataset
  deletedFiles : List DataFileId

/-- Why a unit of work may not be stored. -/
inductive CommitFlaw where
  | manyDrafts (dataset : DatasetId)
  | stillAttached (file : DataFileId)
  | releasedFile (file : DataFileId)
  | droppedVersion (version : VersionId)
  | frozenVersion (number : String) (dataset : DatasetId)
  | identifierTaken (id : GlobalId)
  deriving DecidableEq

namespace CommitFlaw

def message : CommitFlaw → String
  | .manyDrafts dataset => "dataset " ++ dataset.text ++ " has more than one draft version"
  | .stillAttached file =>
    "data file " ++ file.text ++ " is staged for deletion but still attached"
  | .releasedFile file => "released data file " ++ file.text ++ " cannot be deleted"
  | .droppedVersion version => "released version " ++ version.text ++ " was dropped"
  | .frozenVersion number dataset =>
    "released version " ++ number ++ " of dataset " ++ dataset.text ++ " is frozen"
  | .identifierTaken id => "global id " ++ id.text ++ " already belongs to another dataset"

def failure (flaw : CommitFlaw) : StoreFailure := .constraintViolation flaw.message

end CommitFlaw

namespace UnitOfWork

/-- The work of storing a dataset. -/
def merge (dataset : Dataset) : UnitOfWork := ⟨dataset, []⟩

/-- Marks a file for deletion; each file is marked once. -/
def deleteFile (file : DataFileId) (w : UnitOfWork) : UnitOfWork :=
  if w.deletedFiles.contains file then w
  else { w with deletedFiles := w.deletedFiles ++ [file] }

/-- The flaw that shows in the work alone. -/
def ownFlaw? (w : UnitOfWork) : Option CommitFlaw :=
  if 1 < (w.dataset.versions.filter (·.isDraft)).length then some (.manyDrafts w.dataset.id)
  else (w.deletedFiles.find? fun id => (w.dataset.file? id).isSome).map .stillAttached

/-- The flaw of a version that is not a draft in the stored dataset. -/
def versionFlaw? (w : UnitOfWork) (old : Version) : Option CommitFlaw :=
  match w.dataset.versions.find? fun v => v.id == old.id with
  | none => some (.droppedVersion old.id)
  | some new =>
    if new.fields = old.fields ∧ new.fileMetadata = old.fileMetadata then none
    else some (.frozenVersion old.friendlyNumber w.dataset.id)

/-- The flaw that shows against the stored dataset. -/
def flawAgainst? (w : UnitOfWork) (stored : Dataset) : Option CommitFlaw :=
  match w.deletedFiles.find? fun id => (stored.file? id).any (·.isReleased) with
  | some id => some (.releasedFile id)
  | none => (stored.versions.filter fun v => !v.isDraft).findSome? w.versionFlaw?

/-- The first flaw of the work, given what is stored under the identity of its dataset. -/
def flaw? (w : UnitOfWork) (stored : Option Dataset) : Option CommitFlaw :=
  match w.ownFlaw? with
  | some flaw => some flaw
  | none => stored.bind w.flawAgainst?

end UnitOfWork

end Depository
