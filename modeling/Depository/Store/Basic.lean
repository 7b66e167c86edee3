import Depository.Account.Basic
import Depository.Lock.Basic
import Depository.Notification.Basic
import Depository.Store.Table
import Depository.Store.Work

/-!
# The store

All that the repository keeps, and the operations on it. An operation that fails leaves the
store as it was. Every dataset stands under its own identity; locks stand under the dataset and
the reason, and the locks of each user are listed beside them.
-/

namespace Depository

instance {kind : EntityKind} : Ranked (EntityId kind) where
  rank := EntityId.rank
  rank_injective := EntityId.rank_injective

/-- What a lock is stored under. -/
abbrev LockKey := DatasetId × LockReason

instance : Ranked LockKey where
  rank k := k.1.rank * 8 + k.2.rank
  rank_injective := by
    rintro ⟨d, r⟩ ⟨e, q⟩ h
    have hr := LockReason.rank_lt r
    have hq := LockReason.rank_lt q
    simp only at h
    have hd : d.rank = e.rank := by omega
    have hrq : r.rank = q.rank := by omega
    rw [EntityId.rank_injective hd, LockReason.rank_injective hrq]

instance : Ranked (VersionId × UserId) where
  rank k := k.1.rank * 0x100000000000000000000000000000000 + k.2.rank
  rank_injective := by
    rintro ⟨v, u⟩ ⟨w, x⟩ h
    have hu := EntityId.rank_lt u
    have hx := EntityId.rank_lt x
    simp only at h
    have hv : v.rank = w.rank := by omega
    have hux : u.rank = x.rank := by omega
    rw [EntityId.rank_injective hv, EntityId.rank_injective hux]

/-- All that the repository keeps. `hardDeletedFiles` lists the files deleted for good and
`commits` counts the units of work stored; without a sequence no numbers are given out. The
sequence counts without bound, and so stands for one of 64 bits until 2^63 numbers are drawn. -/
structure Store where
  datasets : Table DatasetId Dataset
  locks : Table LockKey Lock
  locksByUser : Table UserId (KeySet LockKey)
  users : Table UserId User
  roles : List RoleAssignment
  versionUsers : Table (VersionId × UserId) Time.Instant
  notifications : Table NotificationId Notification
  identifierSequence : Int
  hardDeletedFiles : List DataFileId
  commits : Nat
  hasSequence : Bool

def Lock.key (l : Lock) : LockKey := (l.dataset, l.reason)

namespace Store

/-- A store that keeps nothing yet. -/
def empty (hasSequence : Bool) : Store where
  datasets := .empty
  locks := .empty
  locksByUser := .empty
  users := .empty
  roles := []
  versionUsers := .empty
  notifications := .empty
  identifierSequence := 0
  hardDeletedFiles := []
  commits := 0
  hasSequence := hasSequence

/-- Stores a dataset without any check. -/
def putDataset (d : Dataset) (s : Store) : Store :=
  { s with datasets := s.datasets.insert d.id d }

def findDataset? (id : DatasetId) (s : Store) : Option Dataset := s.datasets.get? id

def findByGlobalId? (g : GlobalId) (s : Store) : Option Dataset :=
  s.datasets.values.find? fun d => d.globalId == some g

/-- A file and the dataset that owns it. -/
def findFile? (id : DataFileId) (s : Store) : Option (DatasetId × DataFile) :=
  s.datasets.values.findSome? fun d => (d.file? id).map fun f => (d.id, f)

/-- Whether a dataset or one of its files has an identifier. -/
def uses (g : GlobalId) (d : Dataset) : Bool :=
  d.globalId == some g || d.files.any fun f => f.globalId == some g

/-- Whether any dataset or file has an identifier, one dataset left out of account. -/
def identifierInUse (g : GlobalId) (except : Option DatasetId) (s : Store) : Bool :=
  s.datasets.values.any fun d => some d.id != except && uses g d

def isLocallyUnique (g : GlobalId) (s : Store) : Bool := !s.identifierInUse g none

/-- The first flaw that keeps a unit of work from being stored. -/
def commitFlaw? (w : UnitOfWork) (s : Store) : Option CommitFlaw :=
  match w.flaw? (s.findDataset? w.dataset.id) with
  | some flaw => some flaw
  | none =>
    match w.dataset.globalId with
    | none => none
    | some g =>
      if s.identifierInUse g (some w.dataset.id) then some (.identifierTaken g) else none

/-- The store after a unit of work. -/
def applyWork (w : UnitOfWork) (s : Store) : Store :=
  { s with
    datasets := s.datasets.insert w.dataset.id w.dataset
    hardDeletedFiles := s.hardDeletedFiles ++ w.deletedFiles
    commits := s.commits + 1 }

/-- Stores a unit of work unless it has a flaw. -/
def commit (w : UnitOfWork) (s : Store) : Except StoreFailure Store :=
  match s.commitFlaw? w with
  | some flaw => .error flaw.failure
  | none => .ok (s.applyWork w)

/-- The next number of the sequence, if there is one. -/
def nextSequence (s : Store) : Option Int × Store :=
  if s.hasSequence then
    let n := s.identifierSequence + 1
    (some n, { s with identifierSequence := n })
  else (none, s)

def rolesOf (user : UserId) (dataset : DatasetId) (s : Store) : List Role :=
  (s.roles.filter fun a => a.user == user && a.dataset == dataset).map (·.role)

def permissionsFor (user : UserId) (dataset : DatasetId) (s : Store) : List Permission :=
  permissionsOf (s.rolesOf user dataset)

/-- Grants a role; a role that is held already is not listed twice. -/
def assignRole (a : RoleAssignment) (s : Store) : Store :=
  if s.roles.contains a then s else { s with roles := s.roles ++ [a] }

/-- Records when a user last worked on a version. -/
def touch (version : VersionId) (user : UserId) (time : Time.Instant) (s : Store) : Store :=
  { s with versionUsers := s.versionUsers.insert (version, user) time }

/-- The datasets that were not harvested, in the order of their identities. -/
def localDatasetIds (s : Store) : List DatasetId :=
  (s.datasets.values.filter fun d => !d.harvested).map (·.id)

def setLastExportTime (id : DatasetId) (time : Time.Instant) (s : Store) :
    Except StoreFailure Store :=
  match s.findDataset? id with
  | none => .error (.notFound ("dataset " ++ id.text))
  | some d =>
    .ok { s with datasets := s.datasets.insert id { d with lastExportTime := some time } }

def findUser? (id : UserId) (s : Store) : Option User := s.users.get? id

def saveUser (u : User) (s : Store) : Store := { s with users := s.users.insert u.id u }

/-- Lists a lock beside its user. -/
def indexLock (l : Lock) (s : Store) : Store :=
  match l.user with
  | none => s
  | some u =>
    let held := (s.locksByUser.get? u).getD .empty
    { s with locksByUser := s.locksByUser.insert u (held.insert l.key ()) }

/-- Takes a lock off the list of its user, and the list away when it becomes empty. -/
def unindexLock (l : Lock) (s : Store) : Store :=
  match l.user with
  | none => s
  | some u =>
    match s.locksByUser.get? u with
    | none => s
    | some held =>
      let rest := held.erase l.key
      if rest.isEmpty then { s with locksByUser := s.locksByUser.erase u }
      else { s with locksByUser := s.locksByUser.insert u rest }

/-- The lock under the key of the given one, which is stored if there is none. -/
def addLockIfAbsent (l : Lock) (s : Store) : Lock × Store :=
  match s.locks.get? l.key with
  | some held => (held, s)
  | none =>
    let s := s.indexLock l
    (l, { s with locks := s.locks.insert l.key l })

/-- Removes the lock of a dataset for a reason. -/
def removeLocks (dataset : DatasetId) (reason : LockReason) (s : Store) : List Lock × Store :=
  match s.locks.get? (dataset, reason) with
  | none => ([], s)
  | some l => ([l], unindexLock l { s with locks := s.locks.erase (dataset, reason) })

/-- The locks on the list of a user, in the order of the list. -/
def heldBy (u : UserId) (s : Store) : List Lock :=
  ((s.locksByUser.get? u).getD .empty).keys.filterMap s.locks.get?

/-- The locks of a dataset, read from its first key on until the keys of another one begin. -/
def placedOn (d : DatasetId) (s : Store) : List Lock :=
  ((s.locks.startingAt (d, .ingest)).takeWhile fun e => e.1.1 == d).map (·.2)

/-- The locks that fit a filter, by start. The locks of a user are found from the list of that
user, those of a dataset among the keys of the dataset. -/
def listLocks (f : LockFilter) (s : Store) : List Lock :=
  let candidates := match f.user, f.dataset with
    | some u, _ => s.heldBy u
    | none, some d => s.placedOn d
    | none, none => s.locks.values
  Lock.byStart (candidates.filter f.matches)

/-- Replaces the lock under the key of the given one. -/
def updateLock (l : Lock) (s : Store) : Except StoreFailure Store :=
  match s.locks.get? l.key with
  | none => .error (.notFound ("lock " ++ l.reason.text ++ " on dataset " ++ l.dataset.text))
  | some previous =>
    let s := (s.unindexLock previous).indexLock l
    .ok { s with locks := s.locks.insert l.key l }

def saveNotification (n : Notification) (s : Store) : Store :=
  { s with notifications := s.notifications.insert n.id n }

def findNotification? (id : NotificationId) (s : Store) : Option Notification :=
  s.notifications.get? id

def findNotifications (q : NotificationQuery) (s : Store) : List Notification :=
  Notification.newestFirst (s.notifications.values.filter q.matches)

def unreadCount (user : UserId) (s : Store) : Nat :=
  (s.notifications.values.filter (NotificationQuery.unreadByUser user).matches).length

def markRead (id : NotificationId) (s : Store) : Except StoreFailure Store :=
  match s.notifications.get? id with
  | none => .error (.notFound ("notification " ++ id.text))
  | some n =>
    .ok { s with notifications := s.notifications.insert id { n with read := true } }

def deleteNotification (id : NotificationId) (s : Store) : Store :=
  { s with notifications := s.notifications.erase id }

end Store

end Depository
