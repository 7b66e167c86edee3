import Depository.Configuration.Basic
import Depository.Export.Document
import Depository.Notification.Email
import Depository.Notification.Mute
import Depository.Registration.Outcome
import Depository.Schema.Basic
import Depository.Store.Basic
import Depository.Supply

/-!
# The world and its surroundings

The world holds all that changes: the store, the supplies of fresh values, the exports and a log
of all calls. The surroundings are the settings and the services whose answers nobody controls.
-/

namespace Depository

/-- Six characters of the alphabet of local identifiers, by their places in it. -/
abbrev LocalPart := Vector (Fin 36) 6

/-- The last six digits of a number in base 36, lowest first. -/
def LocalPart.ofNat (n : Nat) : LocalPart :=
  Vector.ofFn fun i => Fin.ofNat 36 (n / Nat.pow 36 i.val)

/-- The calls of the store that a disturbance may hit. -/
inductive StoreCall where
  | findDataset | commit | nextSequence | checkIdentifier | permissions | touch
  | localDatasets | stampExport | addLock | removeLocks | listLocks | saveNotification
  deriving DecidableEq

def StoreCall.all : List StoreCall :=
  [.findDataset, .commit, .nextSequence, .checkIdentifier, .permissions, .touch, .localDatasets,
   .stampExport, .addLock, .removeLocks, .listLocks, .saveNotification]

/-- The name under which a call is reported. -/
def StoreCall.name : StoreCall → String
  | .findDataset => "find_dataset"
  | .commit => "commit"
  | .nextSequence => "next_identifier_sequence"
  | .checkIdentifier => "is_identifier_locally_unique"
  | .permissions => "permissions_for"
  | .touch => "touch_version_user"
  | .localDatasets => "find_all_local_dataset_ids"
  | .stampExport => "set_last_export_time"
  | .addLock => "add_lock_if_absent"
  | .removeLocks => "remove_locks"
  | .listLocks => "list_locks"
  | .saveNotification => "save_notification"

/-- A call that was made. -/
inductive Event where
  | store (call : StoreCall) (failed : Bool)
  | candidate (id : GlobalId)
  | registration (target : RegistrationTarget) (answer : Except Failure RegistrationOutcome)
  | indexing (dataset : Dataset) (minor : Bool) (answer : Except Failure Unit)
  | mail (message : Email)
  | ingest (records files : Nat)
  | exporting (dataset : DatasetId)

namespace Event

def isStore (call : StoreCall) : Event → Bool
  | .store c _ => c == call
  | _ => false

def isAnswered (call : StoreCall) : Event → Bool
  | .store c failed => c == call && !failed
  | _ => false

def isRegistration : Event → Bool
  | .registration _ _ => true
  | _ => false

def isIndexing : Event → Bool
  | .indexing _ _ _ => true
  | _ => false

def isMail : Event → Bool
  | .mail _ => true
  | _ => false

def isIngest : Event → Bool
  | .ingest _ _ => true
  | _ => false

def isExporting : Event → Bool
  | .exporting _ => true
  | _ => false

end Event

/-- All that changes. -/
structure World where
  store : Store
  ids : Supply Uuid
  clock : Supply Time.Instant
  localParts : Supply LocalPart
  exports : List Export.Artifact
  log : List Event

/-- The settings, and the services around the repository. A service answers by the number of
calls made to it before; `outage` says which calls of the store fail and how, `vanished` which
lookups of a dataset find nothing. -/
structure Surroundings where
  identifiers : IdentifierSettings
  application : ApplicationSettings
  schema : Schema
  mutePolicy : MutePolicy
  registry : Nat → RegistrationTarget → Except Failure RegistrationOutcome
  registryHas : GlobalId → Except Failure Bool
  index : Option (Nat → Dataset → Bool → Except Failure Unit)
  mailer : Option (Nat → Email → Except Failure Bool)
  ingest : Nat → Version → List DataFile → Except Failure (Option String)
  exporter : Nat → Dataset → Export.Result
  outage : StoreCall → Nat → Option String
  vanished : Nat → Bool

namespace World

/-- The number of calls of a kind made so far. -/
def count (w : World) (kind : Event → Bool) : Nat := w.log.countP kind

def record (e : Event) (w : World) : World := { w with log := w.log ++ [e] }

/-- The world with a file among the exports, in place of any other at its path. -/
def putExport (a : Export.Artifact) (w : World) : World :=
  { w with exports := w.exports.filter (fun b => b.path != a.path) ++ [a] }

end World

end Depository
