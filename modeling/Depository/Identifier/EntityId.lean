import Depository.Identifier.Uuid
import Depository.Text.Blank

/-!
# Entity identities

Every entity is addressed by an identity of its own kind, so that the identity of a file cannot
stand where that of a dataset is meant. Identities are ordered as their numbers are.
-/

namespace Depository

/-- The kinds of entity that have an identity. -/
inductive EntityKind where
  | dataset | version | dataFile | fileMetadata | lock | user | notification
  deriving DecidableEq

/-- The name under which an identity of the kind is reported. -/
def EntityKind.name : EntityKind → String
  | .dataset => "DatasetId"
  | .version => "VersionId"
  | .dataFile => "DataFileId"
  | .fileMetadata => "FileMetadataId"
  | .lock => "LockId"
  | .user => "UserId"
  | .notification => "NotificationId"

/-- The identity of an entity of one kind. -/
structure EntityId (kind : EntityKind) where
  uuid : Uuid
  deriving DecidableEq

abbrev DatasetId := EntityId .dataset
abbrev VersionId := EntityId .version
abbrev DataFileId := EntityId .dataFile
abbrev FileMetadataId := EntityId .fileMetadata
abbrev LockId := EntityId .lock
abbrev UserId := EntityId .user
abbrev NotificationId := EntityId .notification

namespace EntityId

variable {kind : EntityKind}

def text (id : EntityId kind) : String := id.uuid.text

/-- The number by which identities are ordered. -/
def rank (id : EntityId kind) : Nat := id.uuid.bits.toNat

/-- Reads an identity with blanks around it. -/
def ofText? (s : String) : Option (EntityId kind) := (Uuid.ofText? (Text.trim s)).map (⟨·⟩)

theorem rank_lt (id : EntityId kind) : id.rank < 0x100000000000000000000000000000000 :=
  id.uuid.bits.isLt

theorem rank_injective {a b : EntityId kind} (h : a.rank = b.rank) : a = b := by
  obtain ⟨⟨a⟩⟩ := a
  obtain ⟨⟨b⟩⟩ := b
  simp only [rank] at h
  rw [BitVec.eq_of_toNat_eq h]

end EntityId

end Depository
