import Depository.Proofs.Repository.Effect
import Depository.Proofs.Store.LockIndex
import Depository.Repository.Updating

/-!
# Admission to an update

Who may save a dataset: a user who may edit it, as a superuser or by a role, and whom no lock of
the dataset keeps back. Admitting a caller asks the store and changes nothing.
-/

namespace Depository

/-- The calls by which a caller is admitted. -/
def Event.Consults : Event → Prop
  | .store .permissions _ | .store .listLocks _ => True
  | _ => False

/-- The calls by which an update is admitted and staged. -/
def Event.Prepares : Event → Prop
  | .store .permissions _ | .store .listLocks _ | .ingest _ _ => True
  | _ => False

theorem Event.Consults.prepares {e : Event} (h : e.Consults) : e.Prepares := by
  cases e with
  | store call _ => cases call <;> trivial
  | _ => cases h

theorem Event.Consults.isIngest {e : Event} (h : e.Consults) : e.isIngest = false := by
  cases e <;> first | rfl | cases h

theorem Event.Prepares.isIndexing {e : Event} (h : e.Prepares) : e.isIndexing = false := by
  cases e <;> first | rfl | cases h

theorem Event.Prepares.isRegistration {e : Event} (h : e.Prepares) : e.isRegistration = false := by
  cases e <;> first | rfl | cases h

/-! ### Permissions and locks -/

namespace Store

/-- Whether a user may do something with a dataset, as a superuser or by a role on it. -/
def allows (s : Store) (u : User) (dataset : DatasetId) (p : Permission) : Bool :=
  u.superuser ||
    s.roles.any fun a => a.user == u.id && a.dataset == dataset && a.role.grants p

private theorem mem_permissionsFor {s : Store} {user : UserId} {dataset : DatasetId}
    {p : Permission} :
    p ∈ s.permissionsFor user dataset ↔
      ∃ a ∈ s.roles, (a.user = user ∧ a.dataset = dataset) ∧ a.role.grants p = true := by
  simp only [permissionsFor, mem_permissionsOf, rolesOf, List.mem_map, List.mem_filter,
    Bool.and_eq_true, beq_iff_eq]
  constructor
  · rintro ⟨_, ⟨a, ⟨ha, hown⟩, rfl⟩, hgrants⟩
    exact ⟨a, ha, hown, hgrants⟩
  · rintro ⟨a, ha, hown, hgrants⟩
    exact ⟨a.role, ⟨a, ⟨ha, hown⟩, rfl⟩, hgrants⟩

private theorem allows_of_superuser {s : Store} {u : User} (h : u.superuser = true)
    (dataset : DatasetId) (p : Permission) : s.allows u dataset p = Permission.all.contains p := by
  have hp : Permission.all.contains p = true := List.contains_iff_mem.mpr p.mem_all
  rw [allows, h, hp, Bool.true_or]

private theorem allows_of_role {s : Store} {u : User} (h : u.superuser = false)
    (dataset : DatasetId)
    (p : Permission) : s.allows u dataset p = (s.permissionsFor u.id dataset).contains p := by
  rw [Bool.eq_iff_iff, List.contains_iff_mem, mem_permissionsFor, allows, h, Bool.false_or]
  simp [and_assoc]

end Store

namespace Repository

open Depository.Action

/-! ### Admission -/

theorem confined_permissionsOfUser (u : User) (dataset : DatasetId) :
    Confined .none Event.Consults (permissionsOfUser u dataset) := by
  unfold permissionsOfUser
  split
  · exact confined_pure _
  · exact confined_askStore _ fun _ => trivial

theorem confined_checkEdit (dataset : DatasetId) (canPublish : Bool) :
    Confined .none Event.Consults (checkEdit dataset canPublish) := by
  have hlocks : Confined .none Event.Consults (locksOfDataset dataset) :=
    confined_askStore _ fun _ => trivial
  refine hlocks.bind fun locks => ?_
  split
  · exact confined_pure _
  · exact confined_fail _

theorem confined_authorize (principal : Principal) (dataset : DatasetId) :
    Confined .none Event.Consults (authorize principal dataset) := by
  cases principal with
  | guest => exact confined_fail _
  | authenticated u =>
    refine (confined_permissionsOfUser u dataset).bind fun permissions => ?_
    split
    · exact (confined_checkEdit _ _).bind fun _ => confined_pure u
    · exact confined_fail _

theorem keepsIds_authorize (principal : Principal) (dataset : DatasetId) :
    KeepsIds (authorize principal dataset) := by
  cases principal with
  | guest => exact keepsIds_fail _
  | authenticated u =>
    have hpermissions : KeepsIds (permissionsOfUser u dataset) := by
      unfold permissionsOfUser
      split
      · exact keepsIds_pure _
      · exact keepsIds_askStore _ _
    have hcheck (canPublish : Bool) : KeepsIds (checkEdit dataset canPublish) := by
      refine (keepsIds_askStore _ _).bind fun locks => ?_
      split
      · exact keepsIds_pure _
      · exact keepsIds_fail _
    refine hpermissions.bind fun permissions => ?_
    split
    · exact (hcheck _).bind fun _ => keepsIds_pure u
    · exact keepsIds_fail _

theorem of_run_permissionsOfUser_ok {u : User} {dataset : DatasetId} {s : Surroundings}
    {w v : World} {permissions : List Permission}
    (h : (permissionsOfUser u dataset).run s w = (.ok permissions, v)) (p : Permission) :
    permissions.contains p = w.store.allows u dataset p := by
  unfold permissionsOfUser at h
  split at h
  · next hsuper =>
    cases h
    rw [Store.allows_of_superuser hsuper]
  · next hsuper =>
    obtain ⟨rfl, -⟩ := of_run_askStore_ok h
    rw [Store.allows_of_role (by simpa using hsuper)]

theorem of_run_checkEdit_ok {dataset : DatasetId} {canPublish : Bool} {s : Surroundings}
    {w v : World} (h : (checkEdit dataset canPublish).run s w = (.ok (), v)) {l : Lock}
    (hl : w.store.HoldsLock dataset l) : l.reason.blocksEdit canPublish = false := by
  obtain ⟨locks, u, hlocks, h⟩ := of_run_bind_ok h
  obtain ⟨rfl, -⟩ := of_run_askStore_ok hlocks
  split at h
  · next hnone =>
    have hmem := Store.mem_listLocks_dataset.mpr hl
    unfold blockingReasons at hnone
    rw [List.map_eq_nil_iff, List.filter_eq_nil_iff] at hnone
    simpa using hnone l hmem
  · cases h

/-- Who may save a dataset as a request asks: a user with the permission to edit, while no lock
keeps that user back. -/
structure Admitted (s : Store) (r : UpdateRequest) (u : User) : Prop where
  caller : r.principal = .authenticated u
  allowed : s.allows u r.dataset.id .editDataset = true
  unlocked : ∀ l, s.HoldsLock r.dataset.id l →
    l.reason.blocksEdit (s.allows u r.dataset.id .publishDataset) = false

/-- Where locks stand under their own keys, no lock of the dataset at all keeps the user back. -/
theorem Admitted.unlocked_of_keyed {s : Store} {r : UpdateRequest} {u : User}
    (h : Admitted s r u) (hkeyed : s.LocksKeyed) :
    ∀ l ∈ s.locks.values, l.dataset = r.dataset.id →
      l.reason.blocksEdit (s.allows u r.dataset.id .publishDataset) = false := by
  intro l hl hd
  exact h.unlocked l (hkeyed.holdsLock_iff.mpr ⟨hl, hd⟩)

theorem of_run_authorize_ok {r : UpdateRequest} {s : Surroundings} {w v : World} {u : User}
    (h : (authorize r.principal r.dataset.id).run s w = (.ok u, v)) : Admitted w.store r u := by
  cases hprincipal : r.principal with
  | guest =>
    rw [hprincipal] at h
    cases h
  | authenticated caller =>
    rw [hprincipal] at h
    obtain ⟨permissions, w₁, hpermissions, h⟩ := of_run_bind_ok h
    have hallows := of_run_permissionsOfUser_ok hpermissions
    have hstore : w.store = w₁.store :=
      (confined_permissionsOfUser caller r.dataset.id).allows hpermissions
    split at h
    · next hedit =>
      obtain ⟨_, w₂, hcheck, h⟩ := of_run_bind_ok h
      cases h
      refine ⟨hprincipal, (hallows _).symm.trans hedit, fun l hl => ?_⟩
      rw [← hallows]
      exact of_run_checkEdit_ok hcheck (hstore ▸ hl)
    · cases h

theorem confined_prepare (r : UpdateRequest) : Confined .none Event.Consults (prepare r) := by
  refine confined_now.bind fun time => (confined_authorize _ _).bind fun user => ?_
  refine (confined_withIds _).bind fun d => confined_surroundings.bind fun s => ?_
  refine (confined_ofExcept _).bind fun d => (confined_ofExcept _).bind fun records => ?_
  exact confined_pure _

theorem of_run_prepare_ok {r : UpdateRequest} {s : Surroundings} {w v : World} {p : PreparedUpdate}
    (h : (prepare r).run s w = (.ok p, v)) : Admitted w.store r p.user := by
  obtain ⟨time, w₁, hnow, h⟩ := of_run_bind_ok h
  cases hnow
  obtain ⟨user, w₂, huser, h⟩ := of_run_bind_ok h
  have hadmitted := of_run_authorize_ok huser
  obtain ⟨d, w₃, -, h⟩ := of_run_bind_ok h
  obtain ⟨_, w₄, -, h⟩ := of_run_bind_ok h
  obtain ⟨_, w₅, -, h⟩ := of_run_bind_ok h
  obtain ⟨_, w₆, -, h⟩ := of_run_bind_ok h
  cases h
  exact hadmitted

/-- What is prepared was opened with the next identities and judged, with records to be deleted. -/
theorem of_run_prepare_judged {r : UpdateRequest} {s : Surroundings} {w v : World}
    {p : PreparedUpdate} (h : (prepare r).run s w = (.ok p, v)) :
    judgeDraft s.schema r.lenient (r.dataset.openDraft w.ids).1 = .ok p.dataset ∧
      recordsToDelete r.records r.file p.dataset = .ok p.records := by
  obtain ⟨time, w₁, hnow, h⟩ := of_run_bind_ok h
  cases hnow
  obtain ⟨user, w₂, huser, h⟩ := of_run_bind_ok h
  have hids : w₂.ids = w.ids := by
    have hkept := keepsIds_authorize r.principal r.dataset.id s { w with clock := w.clock.drop 1 }
    rwa [huser] at hkept
  obtain ⟨d, w₃, hopen, h⟩ := of_run_bind_ok h
  cases hopen
  obtain ⟨_, w₄, hs, h⟩ := of_run_bind_ok h
  cases hs
  obtain ⟨e, w₅, hjudge, h⟩ := of_run_bind_ok h
  obtain ⟨records, w₆, hrecords, h⟩ := of_run_bind_ok h
  cases h
  rw [← hids]
  exact ⟨congrArg Prod.fst hjudge, congrArg Prod.fst hrecords⟩

end Repository

end Depository
