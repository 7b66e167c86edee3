import Depository.Account.Basic
import Depository.Dataset.Basic
import Depository.Json.Record
import Depository.Lock.Basic
import Depository.Notification.Basic

/-!
# Documents of scalars

How identities, instants, names of cases and numbers stand in the JSON documents of entities.
-/

namespace Depository

open Json (asText? asCase? asUnsigned?)

def EntityId.toJson {kind : EntityKind} (id : EntityId kind) : Json := .str id.text

def EntityId.ofJson? {kind : EntityKind} (j : Json) : Option (EntityId kind) :=
  (asText? j).bind fun s => (Uuid.ofText? s).map (⟨·⟩)

def Time.Instant.toJson (t : Time.Instant) : Json := .str t.text

def Time.Instant.ofJson? (j : Json) : Option Time.Instant := (asText? j).bind Time.instantOfText?

/-- The case of the given name among all cases. -/
def caseNamed? (all : List α) (name : α → String) (s : String) : Option α :=
  all.find? fun a => name a == s

def ChecksumAlgorithm.ofJson? (j : Json) : Option ChecksumAlgorithm :=
  (asCase? j).bind (caseNamed? all name)

def VersionState.ofJson? (j : Json) : Option VersionState :=
  (asCase? j).bind (caseNamed? all name)

def FieldKind.ofJson? (j : Json) : Option FieldKind := (asCase? j).bind (caseNamed? all name)

def LockReason.ofJson? (j : Json) : Option LockReason := (asCase? j).bind (caseNamed? all stored)

def Role.ofJson? (j : Json) : Option Role := (asCase? j).bind (caseNamed? all name)

def NotificationType.ofJson? (j : Json) : Option NotificationType :=
  (asText? j).bind NotificationType.ofText?

def TypeSet.toJson (s : TypeSet) : Json := Json.ofList (fun t => .str t.name) s.toList

def TypeSet.ofJson? (j : Json) : Option TypeSet :=
  (Json.asList? NotificationType.ofJson? j).map TypeSet.ofList

def versionNumber? (j : Json) : Option UInt32 := (asUnsigned? 32 j).map UInt32.ofNat

def fileSize? (j : Json) : Option UInt64 := (asUnsigned? 64 j).map UInt64.ofNat

end Depository
