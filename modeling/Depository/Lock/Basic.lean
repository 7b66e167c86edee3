import Depository.Identifier.EntityId
import Depository.Text.Ascii
import Depository.Text.Blank
import Depository.Time.Instant

/-!
# Locks

A dataset is locked for a reason. Each reason decides whether it keeps a caller from editing.
-/

namespace Depository

/-- Why a dataset is locked. -/
inductive LockReason where
  | ingest | workflow | inReview | dcmUpload | editInProgress | finalizePublication
  | globusUpload | fileValidationFailed
  deriving DecidableEq

namespace LockReason

def all : List LockReason :=
  [.ingest, .workflow, .inReview, .dcmUpload, .editInProgress, .finalizePublication,
   .globusUpload, .fileValidationFailed]

/-- The place of a reason in their order. -/
def rank : LockReason → Nat
  | .ingest => 0
  | .workflow => 1
  | .inReview => 2
  | .dcmUpload => 3
  | .editInProgress => 4
  | .finalizePublication => 5
  | .globusUpload => 6
  | .fileValidationFailed => 7

/-- The name under which a reason is stored. -/
def stored : LockReason → String
  | .ingest => "Ingest"
  | .workflow => "Workflow"
  | .inReview => "InReview"
  | .dcmUpload => "DcmUpload"
  | .editInProgress => "EditInProgress"
  | .finalizePublication => "FinalizePublication"
  | .globusUpload => "GlobusUpload"
  | .fileValidationFailed => "FileValidationFailed"

/-- The name under which a reason is shown and typed in. -/
def text : LockReason → String
  | .finalizePublication => "finalizePublication"
  | r => r.stored

/-- Whether the reason keeps a caller from editing. A review does not keep back those who may
publish, and a failed file validation nobody. -/
def blocksEdit (r : LockReason) (callerCanPublish : Bool) : Bool :=
  match r with
  | .inReview => !callerCanPublish
  | .fileValidationFailed => false
  | _ => true

/-- The reason of the given name, in any case of its letters and with blanks around it. -/
def ofText? (s : String) : Option LockReason :=
  all.find? fun r => Text.sameIgnoringCase r.text (Text.trim s)

def unknownMessage (s : String) : String := "Unknown lock reason: " ++ s

theorem rank_injective {a b : LockReason} (h : a.rank = b.rank) : a = b := by
  cases a <;> cases b <;> simp_all [rank]

theorem rank_lt (r : LockReason) : r.rank < 8 := by cases r <;> decide

end LockReason

/-- A lock on a dataset. -/
structure Lock where
  id : LockId
  dataset : DatasetId
  reason : LockReason
  user : Option UserId
  startTime : Time.Instant
  info : Option String
  deriving DecidableEq

/-- Which locks are asked for; a part that is left open fits every lock. -/
structure LockFilter where
  dataset : Option DatasetId
  reason : Option LockReason
  user : Option UserId

/-- Whether a lock fits all parts of a filter. -/
def LockFilter.matches (f : LockFilter) (l : Lock) : Bool :=
  f.dataset.all (· == l.dataset) && f.reason.all (· == l.reason) &&
    f.user.all fun u => l.user == some u

/-- Locks in the order of their start; those that start together keep their order. -/
def Lock.byStart (locks : List Lock) : List Lock :=
  locks.mergeSort fun a b => a.startTime ≤ b.startTime

end Depository
