import Depository.Text.Ascii
import Depository.Text.Blank
import Depository.Text.Split

/-!
# Kinds of notification

The kinds of event that notifications report, their names, and sets of kinds.
-/

namespace Depository

/-- The kind of event that a notification reports. -/
inductive NotificationType where
  | assignRole | revokeRole | createDataset | createAccount | submittedDataset
  | returnedDataset | publishedDataset | requestFileAccess | grantFileAccess
  | rejectFileAccess | checksumFail | ingestCompleted | ingestCompletedWithErrors
  | publishFailedPidReg | workflowSuccess | workflowFailure | statusUpdated
  | datasetMentioned | globusUploadCompleted
  deriving DecidableEq

namespace NotificationType

def all : List NotificationType :=
  [.assignRole, .revokeRole, .createDataset, .createAccount, .submittedDataset,
   .returnedDataset, .publishedDataset, .requestFileAccess, .grantFileAccess,
   .rejectFileAccess, .checksumFail, .ingestCompleted, .ingestCompletedWithErrors,
   .publishFailedPidReg, .workflowSuccess, .workflowFailure, .statusUpdated,
   .datasetMentioned, .globusUploadCompleted]

/-- The canonical name, in capitals. -/
def name : NotificationType → String
  | .assignRole => "ASSIGNROLE"
  | .revokeRole => "REVOKEROLE"
  | .createDataset => "CREATEDS"
  | .createAccount => "CREATEACC"
  | .submittedDataset => "SUBMITTEDDS"
  | .returnedDataset => "RETURNEDDS"
  | .publishedDataset => "PUBLISHEDDS"
  | .requestFileAccess => "REQUESTFILEACCESS"
  | .grantFileAccess => "GRANTFILEACCESS"
  | .rejectFileAccess => "REJECTFILEACCESS"
  | .checksumFail => "CHECKSUMFAIL"
  | .ingestCompleted => "INGESTCOMPLETED"
  | .ingestCompletedWithErrors => "INGESTCOMPLETEDWITHERRORS"
  | .publishFailedPidReg => "PUBLISHFAILED_PIDREG"
  | .workflowSuccess => "WORKFLOW_SUCCESS"
  | .workflowFailure => "WORKFLOW_FAILURE"
  | .statusUpdated => "STATUSUPDATED"
  | .datasetMentioned => "DATASETMENTIONED"
  | .globusUploadCompleted => "GLOBUSUPLOADCOMPLETED"

/-- The kind of the given name, in any case of its letters and with blanks around it. -/
def ofText? (s : String) : Option NotificationType :=
  all.find? fun t => Text.sameIgnoringCase t.name (Text.trim s)

def unknownMessage (s : String) : String := "Unknown notification type: " ++ Text.trim s

/-- The kinds named in a text with commas between the names, blank pieces passed over; the
error is the first piece that names none. -/
def listOfText (s : String) : Except String (List NotificationType) :=
  let pieces := ((Text.split ',' s).map Text.trim).filter fun p => !p.isEmpty
  pieces.mapM fun p =>
    match ofText? p with
    | some t => .ok t
    | none => .error p

theorem mem_all (t : NotificationType) : t ∈ all := by cases t <;> decide

end NotificationType

/-- A set of kinds of notification. -/
structure TypeSet where
  has : NotificationType → Bool

namespace TypeSet

def empty : TypeSet := ⟨fun _ => false⟩

def ofList (types : List NotificationType) : TypeSet := ⟨fun t => types.contains t⟩

/-- The members in the order of the kinds. -/
def toList (s : TypeSet) : List NotificationType := NotificationType.all.filter s.has

@[ext] theorem ext {s t : TypeSet} (h : ∀ k, s.has k = t.has k) : s = t := by
  cases s
  cases t
  simp only [TypeSet.mk.injEq]
  exact funext h

theorem ofList_toList (s : TypeSet) : ofList s.toList = s := by
  ext k
  simp [ofList, toList, List.contains_eq_mem, NotificationType.mem_all]

end TypeSet

end Depository
