import Depository.Identifier.GlobalId
import Depository.Schema.Field

/-!
# Failures

What can go wrong, by class. Failures of the first three classes are found before anything has
been changed.
-/

namespace Depository

/-- Failures of the store. -/
inductive StoreFailure where
  | connectionFailed (detail : String)
  | notFound (detail : String)
  | constraintViolation (detail : String)
  | queryFailed (detail : String)
  | commitFailed (detail : String)
  | corruptRecord (detail : String)
  deriving DecidableEq

/-- Failures around persistent identifiers. -/
inductive IdentifierFailure where
  | collision (detail : String)
  | registryUnavailable (detail : String)
  | invalidResponse (detail : String)
  | generationFailed (detail : String)
  | invalidGlobalId (detail : String)
  deriving DecidableEq

/-- Why an operation of the repository failed. -/
inductive Failure where
  | authorization (detail : String)
  | lockConflict (detail : String)
  | validation (summary : String) (violations : List Violation)
  | persistence (cause : StoreFailure)
  | identifier (cause : IdentifierFailure)
  | configuration (detail : String)
  | index (detail : String)
  | exporting (detail : String)
  | notification (detail : String)
  | serialization (detail : String)
  | fileSystem (detail : String)
  | other (detail : String)
  deriving DecidableEq

def StoreFailure.message : StoreFailure → String
  | .connectionFailed d => "Failed to connect to store: " ++ d
  | .notFound d => "Entity not found: " ++ d
  | .constraintViolation d => "Constraint violation: " ++ d
  | .queryFailed d => "Query failed: " ++ d
  | .commitFailed d => "Commit failed: " ++ d
  | .corruptRecord d => "Corrupt record: " ++ d

/-- The name of the class of a failure of the store. -/
def StoreFailure.kind : StoreFailure → String
  | .connectionFailed _ => "ConnectionFailed"
  | .notFound _ => "NotFound"
  | .constraintViolation _ => "ConstraintViolation"
  | .queryFailed _ => "QueryFailed"
  | .commitFailed _ => "CommitFailed"
  | .corruptRecord _ => "CorruptRecord"

/-- The name of the class of a failure around identifiers. -/
def IdentifierFailure.kind : IdentifierFailure → String
  | .collision _ => "Collision"
  | .registryUnavailable _ => "RegistryUnavailable"
  | .invalidResponse _ => "InvalidResponse"
  | .generationFailed _ => "GenerationFailed"
  | .invalidGlobalId _ => "InvalidGlobalId"

def IdentifierFailure.message : IdentifierFailure → String
  | .collision d => "Identifier already exists: " ++ d
  | .registryUnavailable d => "Identifier registry unavailable: " ++ d
  | .invalidResponse d => "Invalid registry response: " ++ d
  | .generationFailed d => "Identifier generation failed: " ++ d
  | .invalidGlobalId d => "Invalid global identifier: " ++ d

namespace Failure

def message : Failure → String
  | .authorization d => "Authorization error: " ++ d
  | .lockConflict d => "Lock conflict: " ++ d
  | .validation d _ => "Validation error: " ++ d
  | .persistence cause => "Persistence error: " ++ cause.message
  | .identifier cause => "Identifier error: " ++ cause.message
  | .configuration d => "Configuration error: " ++ d
  | .index d => "Index error: " ++ d
  | .exporting d => "Export error: " ++ d
  | .notification d => "Notification error: " ++ d
  | .serialization d => "Serialization error: " ++ d
  | .fileSystem d => "I/O error: " ++ d
  | .other d => d

/-- The name of the class of a failure. -/
def kind : Failure → String
  | .authorization _ => "Authorization"
  | .lockConflict _ => "LockConflict"
  | .validation _ _ => "Validation"
  | .persistence cause => "Persistence." ++ cause.kind
  | .identifier cause => "Identifier." ++ cause.kind
  | .configuration _ => "Configuration"
  | .index _ => "Index"
  | .exporting _ => "Export"
  | .notification _ => "Notification"
  | .serialization _ => "Serialization"
  | .fileSystem _ => "Io"
  | .other _ => "Other"

/-- A failure of each class with the same detail, the one without a class of its own last. -/
def ofEachKind (detail : String) : List Failure :=
  [.authorization detail, .lockConflict detail, .validation detail [], .configuration detail,
   .index detail, .exporting detail, .notification detail, .serialization detail,
   .fileSystem detail, .persistence (.connectionFailed detail), .persistence (.notFound detail),
   .persistence (.constraintViolation detail), .persistence (.queryFailed detail),
   .persistence (.commitFailed detail), .persistence (.corruptRecord detail),
   .identifier (.collision detail), .identifier (.registryUnavailable detail),
   .identifier (.invalidResponse detail), .identifier (.generationFailed detail),
   .identifier (.invalidGlobalId detail), .other detail]

/-- Whether the failure aborts an operation before any change. -/
def isPrecondition : Failure → Bool
  | .authorization _ | .lockConflict _ | .validation _ _ => true
  | _ => false

end Failure

/-- A flaw of a persistent identifier as a failure. -/
def GlobalId.Flaw.failure (flaw : GlobalId.Flaw) : IdentifierFailure :=
  .invalidGlobalId flaw.message

end Depository
