import Depository.Proofs.Repository.Calls
import Depository.Proofs.Store.LockIndex
import Depository.Proofs.Store.Retention

/-!
# Looking up datasets

Whatever is done to a store that began empty, its datasets stand under their own identities, have
one draft at most, and do not share persistent identifiers, so that a lookup by an identity or by
an identifier has one answer.
-/

namespace Depository

/-- The persistent identifiers of the files of a dataset. -/
def Dataset.fileIdentifiers (d : Dataset) : List GlobalId := d.files.filterMap (·.globalId)

namespace Store

/-! ### Operations -/

/-- The operations that may change a store. -/
inductive Operation where
  | commit (work : UnitOfWork)
  | setLastExportTime (dataset : DatasetId) (time : Time.Instant)
  | nextSequence
  | assignRole (a : RoleAssignment)
  | touch (version : VersionId) (user : UserId) (time : Time.Instant)
  | saveUser (u : User)
  | addLock (l : Lock)
  | removeLocks (dataset : DatasetId) (reason : LockReason)
  | updateLock (l : Lock)
  | saveNotification (n : Notification)
  | markRead (id : NotificationId)
  | deleteNotification (id : NotificationId)

/-- The store after an operation, or why the operation failed. -/
def Operation.apply (s : Store) : Operation → Except StoreFailure Store
  | .commit work => s.commit work
  | .setLastExportTime dataset time => s.setLastExportTime dataset time
  | .nextSequence => .ok s.nextSequence.2
  | .assignRole a => .ok (s.assignRole a)
  | .touch version user time => .ok (s.touch version user time)
  | .saveUser u => .ok (s.saveUser u)
  | .addLock l => .ok (s.addLockIfAbsent l).2
  | .removeLocks dataset reason => .ok (s.removeLocks dataset reason).2
  | .updateLock l => s.updateLock l
  | .saveNotification n => .ok (s.saveNotification n)
  | .markRead id => s.markRead id
  | .deleteNotification id => .ok (s.deleteNotification id)

/-- The store after an operation was tried. -/
def perform (s : Store) (op : Operation) : Store :=
  match op.apply s with
  | .ok t => t
  | .error _ => s

/-- The store after operations were tried one after another. -/
def performAll (s : Store) (operations : List Operation) : Store := operations.foldl perform s

/-- Some operations lead to the store from one that was empty. -/
def Reachable (s : Store) : Prop :=
  ∃ hasSequence operations, (Store.empty hasSequence).performAll operations = s

theorem perform_of_error {s : Store} {op : Operation} {e : StoreFailure}
    (h : op.apply s = .error e) : s.perform op = s := by
  unfold perform
  rw [h]

theorem perform_of_ok {s t : Store} {op : Operation} (h : op.apply s = .ok t) :
    s.perform op = t := by
  unfold perform
  rw [h]

theorem perform_commit {s : Store} {work : UnitOfWork} (h : s.Admits work) :
    s.perform (.commit work) = s.applyWork work :=
  perform_of_ok (commit_eq_ok_iff.mpr ⟨h, rfl⟩)

theorem Reachable.perform {s : Store} (h : s.Reachable) (op : Operation) :
    (s.perform op).Reachable := by
  obtain ⟨hasSequence, operations, rfl⟩ := h
  refine ⟨hasSequence, operations ++ [op], ?_⟩
  rw [performAll, List.foldl_append]
  rfl

private theorem datasets_indexLock (s : Store) (l : Lock) :
    (s.indexLock l).datasets = s.datasets := by
  unfold indexLock
  split <;> rfl

private theorem datasets_unindexLock (s : Store) (l : Lock) :
    (s.unindexLock l).datasets = s.datasets := by
  unfold unindexLock
  split
  · rfl
  · split
    · rfl
    · dsimp only
      split <;> rfl

theorem LockStep.datasets {s t : Store} (h : LockStep s t) : t.datasets = s.datasets := by
  cases h with
  | add l =>
    unfold addLockIfAbsent
    split
    · rfl
    · exact datasets_indexLock s l
  | remove dataset reason =>
    unfold removeLocks
    split
    · rfl
    · exact datasets_unindexLock _ _
  | @update _ l ht =>
    unfold updateLock at ht
    split at ht
    · cases ht
    · next previous _ =>
      cases ht
      exact (datasets_indexLock _ l).trans (datasets_unindexLock s previous)

/-- What an operation does when it succeeds: it stores a unit of work, notes an export, changes the
locks, or leaves the datasets and the locks alone. -/
theorem apply_cases {s t : Store} {op : Operation} (h : op.apply s = .ok t) :
    (∃ work, op = .commit work ∧ s.Admits work ∧ t = s.applyWork work) ∨
    (∃ id time d, op = .setLastExportTime id time ∧ s.findDataset? id = some d ∧
      t = { s with datasets := s.datasets.insert id { d with lastExportTime := some time } }) ∨
    LockStep s t ∨
    (t.datasets = s.datasets ∧ t.locks = s.locks ∧ t.locksByUser = s.locksByUser) := by
  cases op with
  | commit work => exact Or.inl ⟨work, rfl, commit_eq_ok_iff.mp h⟩
  | setLastExportTime id time =>
    right
    left
    change s.setLastExportTime id time = .ok t at h
    unfold setLastExportTime at h
    split at h
    · cases h
    · next d hd =>
      cases h
      exact ⟨id, time, d, rfl, hd, rfl⟩
  | addLock l =>
    cases h
    exact Or.inr (Or.inr (Or.inl (.add s l)))
  | removeLocks dataset reason =>
    cases h
    exact Or.inr (Or.inr (Or.inl (.remove s dataset reason)))
  | updateLock l => exact Or.inr (Or.inr (Or.inl (.update h)))
  | nextSequence =>
    cases h
    right; right; right
    unfold nextSequence
    split <;> exact ⟨rfl, rfl, rfl⟩
  | assignRole a =>
    cases h
    right; right; right
    unfold assignRole
    split <;> exact ⟨rfl, rfl, rfl⟩
  | touch version user time =>
    cases h
    exact Or.inr (Or.inr (Or.inr ⟨rfl, rfl, rfl⟩))
  | saveUser u =>
    cases h
    exact Or.inr (Or.inr (Or.inr ⟨rfl, rfl, rfl⟩))
  | saveNotification n =>
    cases h
    exact Or.inr (Or.inr (Or.inr ⟨rfl, rfl, rfl⟩))
  | markRead id =>
    right; right; right
    change s.markRead id = .ok t at h
    unfold markRead at h
    split at h
    · cases h
    · cases h
      exact ⟨rfl, rfl, rfl⟩
  | deleteNotification id =>
    cases h
    exact Or.inr (Or.inr (Or.inr ⟨rfl, rfl, rfl⟩))

/-! ### Identifiers in use -/

theorem uses_eq_true_iff {g : GlobalId} {d : Dataset} :
    uses g d = true ↔ d.globalId = some g ∨ g ∈ d.fileIdentifiers := by
  simp only [uses, Dataset.fileIdentifiers, Bool.or_eq_true, beq_iff_eq, List.any_eq_true,
    List.mem_filterMap]

/-- An identifier is free if no stored dataset other than the excepted one uses it. -/
theorem identifierInUse_eq_false_iff {s : Store} {g : GlobalId} {except : Option DatasetId} :
    s.identifierInUse g except = false ↔
      ∀ id d, s.findDataset? id = some d → some d.id ≠ except → uses g d = false := by
  unfold identifierInUse
  rw [List.any_eq_false]
  constructor
  · intro h id d hd hne
    have hused := h d (Table.mem_values.mpr ⟨id, hd⟩)
    simpa [hne] using hused
  · intro h d hd
    obtain ⟨id, hid⟩ := Table.mem_values.mp hd
    by_cases hne : some d.id = except
    · simp [hne]
    · simp [h id d hid hne]

/-- An identifier is unused if no stored dataset and no file of one has it. -/
theorem isLocallyUnique_iff {s : Store} {g : GlobalId} :
    s.isLocallyUnique g = true ↔ ∀ id d, s.findDataset? id = some d → uses g d = false := by
  simp [isLocallyUnique, identifierInUse_eq_false_iff]

/-! ### The invariant -/

/-- Every dataset stands under its own identity and has one draft at most, and no two datasets
have one identifier. -/
structure Unambiguous (s : Store) : Prop where
  keyed : ∀ id d, s.findDataset? id = some d → d.id = id
  oneDraft : ∀ id d, s.findDataset? id = some d → (d.versions.filter (·.isDraft)).length ≤ 1
  unshared : ∀ id d id' d' g, s.findDataset? id = some d → s.findDataset? id' = some d' →
    d.globalId = some g → d'.globalId = some g → id = id'

theorem unambiguous_empty (hasSequence : Bool) : (Store.empty hasSequence).Unambiguous := by
  refine ⟨fun id d hd => ?_, fun id d hd => ?_, fun id d id' d' g hd => ?_⟩ <;> cases hd

/-- A dataset found after another one was put in its place is that one or was found before. -/
theorem of_findDataset?_insert {s t : Store} {d e : Dataset} {id : DatasetId}
    (ht : t.datasets = s.datasets.insert d.id d) (he : t.findDataset? id = some e) :
    (id = d.id ∧ e = d) ∨ (id ≠ d.id ∧ s.findDataset? id = some e) := by
  unfold findDataset? at he
  rw [ht, Table.get?_insert] at he
  by_cases hid : id = d.id
  · rw [if_pos hid] at he
    exact Or.inl ⟨hid, (Option.some.inj he).symm⟩
  · rw [if_neg hid] at he
    exact Or.inr ⟨hid, he⟩

/-- A dataset may be put in its place if no other one has its identifier. -/
theorem Unambiguous.insert {s t : Store} (h : s.Unambiguous) {d : Dataset}
    (hdrafts : (d.versions.filter (·.isDraft)).length ≤ 1)
    (hfree : ∀ g, d.globalId = some g → ∀ id e, s.findDataset? id = some e → id ≠ d.id →
      e.globalId ≠ some g)
    (ht : t.datasets = s.datasets.insert d.id d) : t.Unambiguous := by
  refine ⟨?_, ?_, ?_⟩
  · intro id e he
    rcases of_findDataset?_insert ht he with ⟨hid, rfl⟩ | ⟨-, he⟩
    · exact hid.symm
    · exact h.keyed id e he
  · intro id e he
    rcases of_findDataset?_insert ht he with ⟨-, rfl⟩ | ⟨-, he⟩
    · exact hdrafts
    · exact h.oneDraft id e he
  · intro id e id' e' g he he' hg hg'
    -- Only where one of the two is the new dataset does its freedom come in.
    rcases of_findDataset?_insert ht he with ⟨hid, rfl⟩ | ⟨hid, he⟩
    · rcases of_findDataset?_insert ht he' with ⟨hid', -⟩ | ⟨hid', he'⟩
      · rw [hid, hid']
      · exact absurd hg' (hfree g hg id' e' he' hid')
    · rcases of_findDataset?_insert ht he' with ⟨hid', rfl⟩ | ⟨-, he'⟩
      · exact absurd hg (hfree g hg' id e he hid)
      · exact h.unshared id e id' e' g he he' hg hg'

private theorem Unambiguous.of_datasets {s t : Store} (h : s.Unambiguous)
    (ht : t.datasets = s.datasets) : t.Unambiguous := by
  have hfind (id : DatasetId) : t.findDataset? id = s.findDataset? id := by
    unfold findDataset?
    rw [ht]
  refine ⟨?_, ?_, ?_⟩
  · intro id d hd
    exact h.keyed id d (hfind id ▸ hd)
  · intro id d hd
    exact h.oneDraft id d (hfind id ▸ hd)
  · intro id d id' d' g hd hd'
    exact h.unshared id d id' d' g (hfind id ▸ hd) (hfind id' ▸ hd')

/-- An identifier that is free but for one dataset is neither that of another dataset nor that of
one of its files. -/
theorem Unambiguous.not_used {s : Store} (h : s.Unambiguous) {g : GlobalId} {id id' : DatasetId}
    {e : Dataset} (hfree : s.identifierInUse g (some id) = false)
    (he : s.findDataset? id' = some e) (hne : id' ≠ id) :
    e.globalId ≠ some g ∧ g ∉ e.fileIdentifiers := by
  have hother : some e.id ≠ some id := by
    rw [h.keyed id' e he]
    intro hsame
    exact hne (Option.some.inj hsame)
  have hunused := identifierInUse_eq_false_iff.mp hfree id' e he hother
  rw [← not_or, ← uses_eq_true_iff, hunused]
  exact Bool.false_ne_true

/-- A commit is refused an identifier that another dataset has. -/
theorem Unambiguous.insert_of_admits {s t : Store} (h : s.Unambiguous) {work : UnitOfWork}
    (hadmits : s.Admits work)
    (ht : t.datasets = s.datasets.insert work.dataset.id work.dataset) : t.Unambiguous := by
  refine h.insert hadmits.oneDraft ?_ ht
  intro g hg id e he hid
  exact (h.not_used (hadmits.unused g hg) he hid).1

theorem Unambiguous.perform {s : Store} (h : s.Unambiguous) (op : Operation) :
    (s.perform op).Unambiguous := by
  cases happly : op.apply s with
  | error e =>
    rw [perform_of_error happly]
    exact h
  | ok t =>
    rw [perform_of_ok happly]
    rcases apply_cases happly with
      ⟨work, -, hadmits, rfl⟩ | ⟨id, time, d, -, hd, rfl⟩ | hlocks | ⟨hdatasets, -, -⟩
    · exact h.insert_of_admits hadmits rfl
    · have hid : d.id = id := h.keyed id d hd
      subst hid
      -- The dataset keeps its identifier, which no other one had before.
      refine Unambiguous.insert h (d := { d with lastExportTime := some time })
        (h.oneDraft d.id d hd) ?_ rfl
      intro g hg id' e he hne he'
      exact hne (h.unshared id' e d.id d g he hd he' hg)
    · exact h.of_datasets hlocks.datasets
    · exact h.of_datasets hdatasets

theorem Unambiguous.performAll {s : Store} (h : s.Unambiguous) (operations : List Operation) :
    (s.performAll operations).Unambiguous := by
  induction operations generalizing s with
  | nil => exact h
  | cons op rest ih => exact ih (h.perform op)

private theorem Reachable.unambiguous {s : Store} (h : s.Reachable) : s.Unambiguous := by
  obtain ⟨hasSequence, operations, rfl⟩ := h
  exact (unambiguous_empty hasSequence).performAll operations

/-- Every dataset stands under its own identity. -/
def Keyed (s : Store) : Prop := ∀ id d, s.findDataset? id = some d → d.id = id

theorem Reachable.keyed {s : Store} (h : s.Reachable) : s.Keyed := h.unambiguous.keyed

/-! ### Lookups -/

/-- The dataset with an identifier is the one that is found by it. -/
theorem Unambiguous.findByGlobalId? {s : Store} (h : s.Unambiguous) {id : DatasetId} {d : Dataset}
    {g : GlobalId} (hd : s.findDataset? id = some d) (hg : d.globalId = some g) :
    s.findByGlobalId? g = some d := by
  have hmem : d ∈ s.datasets.values := Table.mem_values.mpr ⟨id, hd⟩
  cases hfound : s.findByGlobalId? g with
  | none =>
    have hnone := List.find?_eq_none.mp hfound d hmem
    simp [hg] at hnone
  | some e =>
    have hidentifier : e.globalId = some g := by simpa using List.find?_some hfound
    obtain ⟨id', he⟩ := Table.mem_values.mp (List.mem_of_find?_eq_some hfound)
    have hsame := h.unshared id' e id d g he hd hidentifier hg
    subst hsame
    rw [← hd]
    exact he.symm

private theorem isLocallyUnique_of_findDataset? {s : Store} {id : DatasetId} {d : Dataset}
    {g : GlobalId}
    (hd : s.findDataset? id = some d) (hg : d.globalId = some g) : s.isLocallyUnique g = false := by
  unfold isLocallyUnique
  by_contra hunique
  have hfree : s.identifierInUse g none = false := by simpa using hunique
  have hunused := identifierInUse_eq_false_iff.mp hfree id d hd (by simp)
  rw [uses_eq_true_iff.mpr (Or.inl hg)] at hunused
  cases hunused

/-- After any operations on a store that began empty, failed ones among them, every dataset stands
under its own identity and has one draft at most; its identifier is that of no other dataset, leads
back to it, and counts as taken. A commit that fails changes nothing. -/
theorem lookups_unambiguous {s : Store} (hs : s.Reachable) :
    (∀ id d, s.findDataset? id = some d →
      d.id = id ∧ (d.versions.filter (·.isDraft)).length ≤ 1 ∧
      ∀ g, d.globalId = some g →
        (∀ id' d', s.findDataset? id' = some d' → id' ≠ id → d'.globalId ≠ some g) ∧
        s.findByGlobalId? g = some d ∧ s.isLocallyUnique g = false) ∧
    ∀ surroundings w work e v, w.store = s →
      (Repository.commit work).run surroundings w = (.error e, v) → v.store = s := by
  have h : s.Unambiguous := by
    obtain ⟨hasSequence, operations, rfl⟩ := hs
    exact (unambiguous_empty hasSequence).performAll operations
  refine ⟨?_, ?_⟩
  · intro id d hd
    refine ⟨h.keyed id d hd, h.oneDraft id d hd, fun g hg => ⟨?_, ?_, ?_⟩⟩
    · intro id' d' hd' hne hg'
      exact hne (h.unshared id' d' id d g hd' hd hg' hg)
    · exact h.findByGlobalId? hd hg
    · exact isLocallyUnique_of_findDataset? hd hg
  · intro surroundings w work e v hw hrun
    rcases Repository.run_commit work surroundings w with ⟨_, _, hfailed⟩ | ⟨-, hstored⟩
    · rw [hfailed] at hrun
      cases hrun
      exact hw
    · rw [hstored] at hrun
      cases hrun

/-! ### An identifier that passes on -/

def tideIdentifier : GlobalId := ⟨"doi", "10.5072", "FK2TIDES"⟩

/-- An identifier that its first dataset gave up belongs to the next dataset that took it, also
after the first one has asked for it again. -/
theorem lookups_unambiguous_when_passed_on :
    let kept := { titled .draft "Tides" with globalId := some tideIdentifier }
    let taken := { otherDataset with globalId := some tideIdentifier }
    let s := (Store.empty true).performAll
      [.commit (.merge kept), .commit (.merge taken), .commit (.merge (titled .draft "Tides")),
        .commit (.merge taken), .setLastExportTime ⟨⟨4⟩⟩ .epoch, .commit (.merge kept)]
    s.Reachable ∧ s.findDataset? ⟨⟨4⟩⟩ = some { taken with lastExportTime := some .epoch } ∧
      s.findByGlobalId? tideIdentifier = some { taken with lastExportTime := some .epoch } ∧
      s.isLocallyUnique tideIdentifier = false := by
  intro kept taken s
  have hs : s.Reachable := ⟨true, _, rfl⟩
  have hd : s.findDataset? ⟨⟨4⟩⟩ = some { taken with lastExportTime := some .epoch } := by
    decide +kernel
  obtain ⟨-, -, hidentifier⟩ := (lookups_unambiguous hs).1 ⟨⟨4⟩⟩ _ hd
  exact ⟨hs, hd, (hidentifier tideIdentifier rfl).2⟩

end Store

end Depository
