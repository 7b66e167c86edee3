import Depository.Repository.Action

/-!
# Calls

The calls of the store and of the services around the repository. Every call is logged, whether
it fails or not.
-/

namespace Depository.Repository

open Depository.Action

/-! ### The store -/

/-- The dataset of an identity. A dataset that has vanished is not found. -/
def findDataset? (id : DatasetId) : Action (Option Dataset) := do
  let found ← fun s w =>
    let vanished := s.vanished (w.count (Event.isAnswered .findDataset))
    (askStore .findDataset fun store => if vanished then none else store.findDataset? id) s w
  return found

/-- The dataset of an identity, which has to be there. -/
def findDataset (id : DatasetId) : Action Dataset := do
  match ← findDataset? id with
  | some d => return d
  | none => fail (.persistence (.notFound ("dataset " ++ id.text)))

/-- Stores a unit of work and answers the dataset stored. -/
def commit (work : UnitOfWork) : Action Dataset :=
  changeStore .commit fun store => (store.commit work).map fun store => (work.dataset, store)

def nextSequence : Action (Option Int) :=
  changeStore .nextSequence fun store => .ok store.nextSequence

/-- Whether a candidate is used by no dataset and no file. -/
def isLocallyUnique (candidate : GlobalId) : Action Bool := fun s w =>
  askStore .checkIdentifier (fun store => store.isLocallyUnique candidate) s
    (w.record (.candidate candidate))

def permissionsFor (user : UserId) (dataset : DatasetId) : Action (List Permission) :=
  askStore .permissions fun store => store.permissionsFor user dataset

def touch (version : VersionId) (user : UserId) (time : Time.Instant) : Action Unit :=
  changeStore .touch fun store => .ok ((), store.touch version user time)

def localDatasetIds : Action (List DatasetId) :=
  askStore .localDatasets fun store => store.localDatasetIds

def stampExport (dataset : DatasetId) (time : Time.Instant) : Action Unit :=
  changeStore .stampExport fun store =>
    (store.setLastExportTime dataset time).map fun store => ((), store)

def addLockIfAbsent (l : Lock) : Action Lock :=
  changeStore .addLock fun store => .ok (store.addLockIfAbsent l)

def removeLocks (dataset : DatasetId) (reason : LockReason) : Action (List Lock) :=
  changeStore .removeLocks fun store => .ok (store.removeLocks dataset reason)

def listLocks (f : LockFilter) : Action (List Lock) :=
  askStore .listLocks fun store => store.listLocks f

def saveNotification (n : Notification) : Action Notification :=
  changeStore .saveNotification fun store => .ok (n, store.saveNotification n)

/-! ### The services -/

/-- Submits an identifier to the registry. -/
def submit (target : RegistrationTarget) : Action RegistrationOutcome := fun s w =>
  let answer := s.registry (w.count Event.isRegistration) target
  (answer, w.record (.registration target answer))

/-- Brings the index up to date; without an index there is nothing to do. -/
def reindex (d : Dataset) (minor : Bool) : Action Unit := fun s w =>
  match s.index with
  | none => (.ok (), w)
  | some index =>
    let answer := index (w.count Event.isIndexing) d minor
    (answer, w.record (.indexing d minor answer))

/-- Sends a message and tells whether it left; without a mailer it does not. -/
def sendMail (message : Email) : Action Bool := fun s w =>
  match s.mailer with
  | none => (.ok false, w)
  | some mailer => (mailer (w.count Event.isMail) message, w.record (.mail message))

/-- The fingerprint that the ingest service finds for a version. -/
def recalculate (v : Version) (files : List DataFile) : Action (Option String) := fun s w =>
  (s.ingest (w.count Event.isIngest) v files,
    w.record (.ingest v.fileMetadata.length files.length))

/-- Exports a dataset in all formats. -/
def exportFormats (d : Dataset) : Action Unit := fun s w =>
  let result := s.exporter (w.count Event.isExporting) d
  let w := result.written.foldl (fun w a => w.putExport a) (w.record (.exporting d.id))
  match result.failure with
  | some e => (.error e, w)
  | none => (.ok (), w)

end Depository.Repository
