import Depository.Document.Entity
import Depository.Store.Basic

/-!
# Snapshots

The whole store as a JSON document. What has no order of its own is sorted: notifications by the
time they were sent, the work of users on versions by the place of the version.
-/

namespace Depository.Store

open Json (ofList)

/-- The dataset that holds a version, and the place of the version in it, as sort keys; a version
that no dataset holds comes first. -/
def versionPlace (s : Store) (v : VersionId) : Nat × Nat :=
  let place (d : Dataset) : Option (Nat × Nat) :=
    (d.versions.findIdx? fun w => w.id == v).map fun i => (d.id.rank + 1, i + 1)
  (s.datasets.values.findSome? place).getD (0, 0)

/-- The order of the work on versions: by dataset, place of the version, and user. -/
def precedesInWork (a b : (Nat × Nat) × Nat) : Bool :=
  a.1.1 < b.1.1 ||
    (a.1.1 == b.1.1 && (a.1.2 < b.1.2 || (a.1.2 == b.1.2 && a.2 ≤ b.2)))

/-- Who worked last on which version, and when. -/
def workDocument (s : Store) : Json :=
  let entries := s.versionUsers.entries.map fun ((v, u), t) =>
    ((s.versionPlace v, u.rank), Json.arr [v.toJson, u.toJson, t.toJson])
  .arr ((entries.mergeSort fun a b => precedesInWork a.1 b.1).map (·.2))

/-- The order of notifications in a snapshot. -/
def precedesInTime (a b : Notification) : Bool :=
  if a.sendDate ≠ b.sendDate then a.sendDate ≤ b.sendDate
  else if a.object ≠ b.object then a.object ≤ b.object
  else
    NotificationType.all.findIdx (· == a.type) ≤ NotificationType.all.findIdx (· == b.type)

/-- The locks that each user holds. -/
def holdersDocument (s : Store) : Json :=
  .arr (s.locksByUser.entries.map fun (u, held) =>
    .arr [u.toJson, .arr (held.keys.map fun (d, r) => .arr [d.toJson, .str r.stored])])

/-- The store as a document. -/
def snapshot (s : Store) : Json :=
  .obj [("datasets", ofList Dataset.toJson s.datasets.values),
    ("locks", ofList Lock.toJson s.locks.values), ("locks_by_user", s.holdersDocument),
    ("users", ofList User.toJson s.users.values),
    ("roles", ofList RoleAssignment.toJson s.roles), ("version_users", s.workDocument),
    ("notifications",
      ofList Notification.toJson (s.notifications.values.mergeSort precedesInTime)),
    ("identifier_sequence", .int s.identifierSequence),
    ("hard_deleted_files", ofList EntityId.toJson s.hardDeletedFiles),
    ("commits", .ofNat s.commits)]

end Depository.Store
