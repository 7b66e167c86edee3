import Depository.Repository.Call

/-!
# Locking

Taking and freeing locks, the check that precedes an edit, and work under a lock.
-/

namespace Depository.Repository

open Depository.Action

/-- A lock that starts now. -/
def newLock (dataset : DatasetId) (reason : LockReason) (user : Option UserId)
    (info : Option String) : Action Lock := do
  let id ← freshId
  let startTime ← now
  return ⟨⟨id⟩, dataset, reason, user, startTime, info⟩

/-- Takes a lock, or answers the one that is held already. -/
def addLock (dataset : DatasetId) (reason : LockReason) (user : Option UserId)
    (info : Option String) : Action Lock := do
  addLockIfAbsent (← newLock dataset reason user info)

def locksOfDataset (dataset : DatasetId) : Action (List Lock) :=
  listLocks ⟨some dataset, none, none⟩

def locksOfUser (user : UserId) : Action (List Lock) := listLocks ⟨none, none, some user⟩

/-- Whether a dataset is locked for any reason. -/
def isLocked (dataset : DatasetId) : Action Bool := do
  return !(← locksOfDataset dataset).isEmpty

/-- Replaces the holder and the remark of a lock. -/
def updateLock (l : Lock) : Action Unit := fun _ w =>
  match w.store.updateLock l with
  | .ok store => (.ok (), { w with store })
  | .error e => (.error (.persistence e), w)

/-- The reasons that keep a caller from editing. -/
def blockingReasons (canPublish : Bool) (locks : List Lock) : List LockReason :=
  (locks.filter fun l => l.reason.blocksEdit canPublish).map (·.reason)

/-- Fails if a lock keeps the caller from editing. -/
def checkEdit (dataset : DatasetId) (canPublish : Bool) : Action Unit := do
  let locks ← locksOfDataset dataset
  match blockingReasons canPublish locks with
  | [] => return ()
  | reasons =>
    fail (.lockConflict ("dataset " ++ dataset.text ++ " is locked: " ++
      Text.join ", " (reasons.map (·.text))))

def heldMessage (dataset : DatasetId) (reason : LockReason) : String :=
  "dataset " ++ dataset.text ++ " already holds a " ++ reason.text ++ " lock"

/-- What a call makes of the lock that it is answered: the key is its own if the lock is. -/
def settleOwner (dataset : DatasetId) (reason : LockReason) (candidate held : Lock) : Action Unit :=
  if held.id = candidate.id then return ()
  else fail (.lockConflict (heldMessage dataset reason))

/-- Takes a lock for work under it; fails if it is held already. -/
def acquire (dataset : DatasetId) (reason : LockReason) (user : Option UserId)
    (info : Option String) : Action Unit := do
  let candidate ← newLock dataset reason user info
  let held ← addLockIfAbsent candidate
  settleOwner dataset reason candidate held

/-- Frees a lock; a failure to do so is passed over. -/
def release (dataset : DatasetId) (reason : LockReason) : Action Unit := do
  let _ ← outcome (removeLocks dataset reason)
  return ()

/-- What follows work under a lock: the lock is freed and the result handed on. -/
def giveBack (dataset : DatasetId) (reason : LockReason) (result : Except Failure α) :
    Action α := do
  release dataset reason
  ofExcept result

/-- Does some work under a lock, which is freed however the work ends. -/
def withLock (dataset : DatasetId) (reason : LockReason) (user : Option UserId)
    (info : Option String) (work : Action α) : Action α := do
  acquire dataset reason user info
  let result ← outcome work
  giveBack dataset reason result

end Depository.Repository
