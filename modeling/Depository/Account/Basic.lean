import Depository.Identifier.EntityId
import Depository.Notification.Kind
import Depository.Text.Case

/-!
# Accounts

Users, the caller of an operation, and the roles that grant permissions on a dataset.
-/

namespace Depository

/-- A registered account. -/
structure User where
  id : UserId
  identifier : String
  email : String
  superuser : Bool
  mutedEmails : TypeSet
  mutedNotifications : TypeSet

/-- An account that mutes nothing. -/
def User.new (id : UserId) (identifier email : String) (superuser : Bool) : User :=
  ⟨id, identifier, email, superuser, .empty, .empty⟩

/-- The caller of an operation. -/
inductive Principal where
  | guest
  | authenticated (user : User)

namespace Principal

def user? : Principal → Option User
  | .guest => none
  | .authenticated u => some u

def isSuperuser (p : Principal) : Bool := p.user?.any (·.superuser)

def text : Principal → String
  | .guest => ":guest"
  | .authenticated u => u.identifier

end Principal

/-- What a caller may do with a dataset. -/
inductive Permission where
  | editDataset | publishDataset | viewUnpublishedDataset | downloadFile
  deriving DecidableEq

namespace Permission

def all : List Permission :=
  [.editDataset, .publishDataset, .viewUnpublishedDataset, .downloadFile]

def name : Permission → String
  | .editDataset => "EditDataset"
  | .publishDataset => "PublishDataset"
  | .viewUnpublishedDataset => "ViewUnpublishedDataset"
  | .downloadFile => "DownloadFile"

theorem mem_all (p : Permission) : p ∈ all := by cases p <;> decide

end Permission

/-- A role that a user may have on a dataset. -/
inductive Role where
  | curator | contributor | member
  deriving DecidableEq

namespace Role

def all : List Role := [.curator, .contributor, .member]

def name : Role → String
  | .curator => "curator"
  | .contributor => "contributor"
  | .member => "member"

/-- Whether a role grants a permission. -/
def grants : Role → Permission → Bool
  | .curator, _ => true
  | .contributor, p => p != .publishDataset
  | .member, p => p == .viewUnpublishedDataset || p == .downloadFile

/-- The permissions of a role, in their order. -/
def permissions (r : Role) : List Permission := Permission.all.filter r.grants

/-- The role of the given name, in any case of its letters; the error is the name in small
letters. -/
def ofText (s : String) : Except String Role :=
  let small := Text.lower s
  match all.find? fun r => r.name == small with
  | some r => .ok r
  | none => .error small

def unknownMessage (small : String) : String := "Unknown role: " ++ small

end Role

/-- The permissions that at least one of some roles grants, in their order. -/
def permissionsOf (roles : List Role) : List Permission :=
  Permission.all.filter fun p => roles.any fun r => r.grants p

/-- A role of a user on one dataset. -/
structure RoleAssignment where
  dataset : DatasetId
  user : UserId
  role : Role
  deriving DecidableEq

theorem mem_permissionsOf {roles : List Role} {p : Permission} :
    p ∈ permissionsOf roles ↔ ∃ r ∈ roles, r.grants p = true := by
  simp [permissionsOf, Permission.mem_all, List.any_eq_true]

end Depository
