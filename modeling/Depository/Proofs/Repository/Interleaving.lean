import Depository.Proofs.Repository.LockBlindness
import Depository.Proofs.Repository.Reregistration
import Depository.Proofs.Store.Lookups

/-!
# Updates among other tasks

An update reads the locks once, before anything else, and its commit does not look at them. So
what other tasks lock in between is not seen: at the commit the dataset holds, of all locks that
would have kept the caller back, exactly those that were taken after the check.
-/

namespace Depository

namespace Store

/-! ### Locks of reachable stores -/

/-- A lock is held under a key. -/
def Locked (s : Store) (k : LockKey) : Prop := ∃ l, s.locks.get? k = some l

private theorem LocksIndexed.of_locks {s t : Store} (h : s.LocksIndexed)
    (hlocks : t.locks = s.locks) (hlists : t.locksByUser = s.locksByUser) : t.LocksIndexed := by
  refine ⟨?_, ?_, ?_⟩
  · intro k l hl
    exact h.keyed k l (hlocks ▸ hl)
  · intro u k
    unfold Lists
    rw [hlocks, hlists]
    exact h.listed u k
  · intro u held hheld
    exact h.inhabited u held (hlists ▸ hheld)

theorem LocksIndexed.perform {s : Store} (h : s.LocksIndexed) (op : Operation) :
    (s.perform op).LocksIndexed := by
  cases happly : op.apply s with
  | error e =>
    rw [perform_of_error happly]
    exact h
  | ok t =>
    rw [perform_of_ok happly]
    rcases apply_cases happly with
      ⟨work, -, -, rfl⟩ | ⟨id, time, d, -, -, rfl⟩ | hstep | ⟨-, hlocks, hlists⟩
    · exact h.of_locks rfl rfl
    · exact h.of_locks rfl rfl
    · exact h.step hstep
    · exact h.of_locks hlocks hlists

theorem Reachable.locksIndexed {s : Store} (h : s.Reachable) : s.LocksIndexed := by
  obtain ⟨hasSequence, operations, rfl⟩ := h
  have hall (t : Store) (ht : t.LocksIndexed) : (t.performAll operations).LocksIndexed := by
    induction operations generalizing t with
    | nil => exact ht
    | cons op rest ih => exact ih (t.perform op) (ht.perform op)
  exact hall (.empty hasSequence) (locksIndexed_empty hasSequence)

private theorem LocksIndexed.locked_iff {s : Store} (h : s.LocksIndexed) {dataset : DatasetId}
    {reason : LockReason} : s.Locked (dataset, reason) ↔
      ∃ l ∈ s.locks.values, l.dataset = dataset ∧ l.reason = reason := by
  constructor
  · rintro ⟨l, hl⟩
    have hkey : (l.dataset, l.reason) = (dataset, reason) := h.keyed _ l hl
    exact ⟨l, Table.mem_values.mpr ⟨_, hl⟩, congrArg Prod.fst hkey, congrArg Prod.snd hkey⟩
  · rintro ⟨l, hl, rfl, rfl⟩
    obtain ⟨k, hk⟩ := Table.mem_values.mp hl
    have hkey : (l.dataset, l.reason) = k := h.keyed k l hk
    exact ⟨l, hkey ▸ hk⟩

/-- After a lock was asked for, it is held under its key, by whoever took it first. -/
theorem locked_addLockIfAbsent {s : Store} {l : Lock} {k : LockKey} :
    (s.addLockIfAbsent l).2.Locked k ↔ s.Locked k ∨ k = l.key := by
  unfold Locked addLockIfAbsent
  cases hheld : s.locks.get? l.key with
  | some held =>
    constructor
    · intro h
      exact Or.inl h
    · rintro (h | rfl)
      · exact h
      · exact ⟨held, hheld⟩
  | none =>
    simp only [locks_indexLock, Table.get?_insert]
    by_cases hk : k = l.key
    · simp [hk]
    · simp [hk]

private theorem roles_addLockIfAbsent (s : Store) (l : Lock) :
    (s.addLockIfAbsent l).2.roles = s.roles := by
  unfold addLockIfAbsent
  split
  · rfl
  · unfold indexLock
    split <;> rfl

private theorem allows_of_roles {s t : Store} (h : t.roles = s.roles) (u : User)
    (dataset : DatasetId) (p : Permission) : t.allows u dataset p = s.allows u dataset p := by
  unfold allows
  rw [h]

end Store

namespace Repository

open Depository.Action Depository.Dataset

/-! ### Runs among other tasks -/

/-- How far an update has come. -/
inductive Stage where
  | prepared (p : PreparedUpdate)
  | staged (p : PreparedUpdate) (work : UnitOfWork)
  | due (work : UnitOfWork)

/-- The dataset as an update has it at a stage. -/
def Stage.dataset : Stage → Dataset
  | .prepared p => p.dataset
  | .staged _ work => work.dataset
  | .due work => work.dataset

/-- An update whose lock check was made in the world `w`, at a later moment. Between its steps
other tasks ask for locks, and `taken` lists the keys of those that were granted or found held;
the services and the settings may be others at every step. The steps after the first one ignore
locks, so that by `IgnoresLocks.run_of_between` a lock that is taken while such a step waits for a
service is as good as one taken after it. -/
inductive Underway (r : UpdateRequest) (w : World) : Stage → List LockKey → World → Prop where
  | prepare {s : Surroundings} {p : PreparedUpdate} {v : World} :
      (prepare r).run s w = (.ok p, v) → Underway r w (.prepared p) [] v
  | stage {s : Surroundings} {p : PreparedUpdate} {work : UnitOfWork} {taken : List LockKey}
      {v v' : World} : Underway r w (.prepared p) taken v → (stage p).run s v = (.ok work, v') →
      Underway r w (.staged p work) taken v'
  | register {s : Surroundings} {p : PreparedUpdate} {work : UnitOfWork} {d : Dataset}
      {registration : Option RegistrationReport} {taken : List LockKey} {v v' : World} :
      Underway r w (.staged p work) taken v →
      (registerIfDue work.dataset).run s v = (.ok (d, registration), v') →
      Underway r w (.due { work with dataset := stampUpdate p.time d }) taken v'
  | lock {s : Surroundings} {point : Stage} {taken : List LockKey} {dataset : DatasetId}
      {reason : LockReason} {user : Option UserId} {info : Option String} {l : Lock}
      {v v' : World} : Underway r w point taken v →
      (addLock dataset reason user info).run s v = (.ok l, v') →
      Underway r w point (taken ++ [(dataset, reason)]) v'
  | lockFailed {s : Surroundings} {point : Stage} {taken : List LockKey} {dataset : DatasetId}
      {reason : LockReason} {user : Option UserId} {info : Option String} {e : Failure}
      {v v' : World} : Underway r w point taken v →
      (addLock dataset reason user info).run s v = (.error e, v') → Underway r w point taken v'

/-- An update that nobody interrupts is a run without other tasks. -/
private theorem underway_of_update {s : Surroundings} {r : UpdateRequest} {w v : World}
    {o : UpdateOutcome} (h : (update r).run s w = (.ok o, v)) :
    ∃ work u u', Underway r w (.due work) [] u ∧ (commit work).run s u = (.ok o.dataset, u') ∧
      v.store.locks = u'.store.locks ∧ v.store.roles = u'.store.roles := by
  obtain ⟨p, work, d, registration, w₁, w₂, w₃, w₄, hprepare, hstage, hregister, hcommit, hfollow,
    rfl⟩ := of_run_update_ok h
  obtain ⟨hvisited, -⟩ := (confined_follow p.user p.time (stampUpdate p.time d)).allows hfollow
  refine ⟨_, w₃, w₄, .register (.stage (.prepare hprepare) hstage) hregister, hcommit, ?_, ?_⟩
  · rw [show v.store = _ from hvisited]
  · rw [show v.store = _ from hvisited]

theorem of_run_addLock {dataset : DatasetId} {reason : LockReason} {user : Option UserId}
    {info : Option String} {s : Surroundings} {w v : World} {result : Except Failure Lock}
    (h : (addLock dataset reason user info).run s w = (result, v)) :
    (∃ e, result = .error e ∧ v.store = w.store) ∨
      ∃ l held, l.key = (dataset, reason) ∧ result = .ok held ∧
        v.store = (w.store.addLockIfAbsent l).2 := by
  obtain ⟨l, u, hnew, hkey, hstore⟩ : ∃ l u, (newLock dataset reason user info).run s w = (.ok l, u) ∧
      l.key = (dataset, reason) ∧ u.store = w.store := ⟨_, _, rfl, rfl, rfl⟩
  have hrun : (addLock dataset reason user info).run s w = (addLockIfAbsent l).run s u :=
    run_bind_of_ok hnew
  rw [hrun] at h
  rcases run_changeStore .addLock (fun store => .ok (store.addLockIfAbsent l)) s u with
    ⟨e, failed, hfailed⟩ | ⟨held, t, ht, hadded⟩
  · cases h.symm.trans hfailed
    exact Or.inl ⟨_, rfl, hstore⟩
  · have hadded' : t = (w.store.addLockIfAbsent l).2 := by
      rw [← hstore]
      exact (congrArg Prod.snd (Except.ok.inj ht)).symm
    cases h.symm.trans hadded
    exact Or.inr ⟨l, held, hkey, rfl, hadded'⟩

/-- What holds of an update underway: its caller was let through, the locks are those held at the
check and those taken since, and the dataset is the one of the request. -/
structure Guarded (r : UpdateRequest) (w : World) (u : User) (point : Stage)
    (taken : List LockKey) (v : World) : Prop where
  admitted : Admitted w.store r u
  indexed : v.store.LocksIndexed
  roles : v.store.roles = w.store.roles
  locked : ∀ k, v.store.Locked k ↔ w.store.Locked k ∨ k ∈ taken
  staged : Staged r.dataset point.dataset

/-- A step of the update itself leaves locks and roles alone. -/
theorem Guarded.step {r : UpdateRequest} {w v v' : World} {u : User} {point point' : Stage}
    {taken : List LockKey} (h : Guarded r w u point taken v)
    (hstore : StoreEffect.numbering.allows v.store v'.store)
    (hstaged : Staged point.dataset point'.dataset) : Guarded r w u point' taken v' := by
  have hlocks : v'.store.locks = v.store.locks := by rw [hstore.1]
  have hlists : v'.store.locksByUser = v.store.locksByUser := by rw [hstore.1]
  have hroles : v'.store.roles = v.store.roles := by rw [hstore.1]
  refine ⟨h.admitted, h.indexed.of_locks hlocks hlists, hroles.trans h.roles, ?_,
    h.staged.trans hstaged⟩
  intro k
  rw [← h.locked k, Store.Locked, Store.Locked, hlocks]

/-- Another task that asks for a lock changes the locks by that one. -/
theorem Guarded.lock {r : UpdateRequest} {w v v' : World} {u : User} {point : Stage}
    {taken : List LockKey} (h : Guarded r w u point taken v) {l : Lock}
    (hstore : v'.store = (v.store.addLockIfAbsent l).2) :
    Guarded r w u point (taken ++ [l.key]) v' := by
  refine ⟨h.admitted, ?_, ?_, ?_, h.staged⟩
  · rw [hstore]
    exact h.indexed.addLockIfAbsent l
  · rw [hstore, Store.roles_addLockIfAbsent]
    exact h.roles
  · intro k
    rw [hstore, Store.locked_addLockIfAbsent, h.locked k, List.mem_append, List.mem_singleton,
      or_assoc]

private theorem guarded_of_underway {r : UpdateRequest} {w v : World} {point : Stage}
    {taken : List LockKey} (hw : w.store.LocksIndexed) (h : Underway r w point taken v) :
    ∃ u, Guarded r w u point taken v := by
  induction h with
  | @prepare s p v hrun =>
    have hsame : v.store = w.store := ((confined_prepare r).allows hrun).symm
    refine ⟨p.user, of_run_prepare_ok hrun, ?_, ?_, ?_, returns_prepare r s w p v hrun⟩
    · rw [hsame]
      exact hw
    · rw [hsame]
    · intro k
      rw [hsame]
      simp
  | @stage s p work taken v v' _ hrun ih =>
    obtain ⟨u, hu⟩ := ih
    have hwork := returns_stage hu.staged.hasDraft s v work v' hrun
    refine ⟨u, hu.step ?_ hwork.staged⟩
    rw [show v.store = v'.store from (confined_stage p).allows hrun]
    exact StoreEffect.numbering.refl _
  | @register s p work d registration taken v v' _ hrun ih =>
    obtain ⟨u, hu⟩ := ih
    have hstore := (registering_confined.registerIfDue work.dataset).allows hrun
    have hregistered := returns_registerIfDue work.dataset s v (d, registration) v' hrun
    have hidentified := staged_identify hu.staged.hasDraft hregistered
    exact ⟨u, hu.step hstore
      (hidentified.trans (staged_stampUpdate hidentified.hasDraft p.time))⟩
  | lock _ hrun ih =>
    obtain ⟨u, hu⟩ := ih
    rcases of_run_addLock hrun with ⟨e, he, -⟩ | ⟨l, held, hkey, -, hstore⟩
    · cases he
    · rw [← hkey]
      exact ⟨u, hu.lock hstore⟩
  | lockFailed _ hrun ih =>
    obtain ⟨u, hu⟩ := ih
    rcases of_run_addLock hrun with ⟨e, -, hstore⟩ | ⟨l, held, -, hheld, -⟩
    · refine ⟨u, hu.step ?_ (.refl hu.staged.hasDraft)⟩
      rw [hstore]
      exact StoreEffect.numbering.refl _
    · cases hheld

/-- At the commit the dataset holds just those locks that were taken after the check, of all that
would have kept the caller back. -/
private theorem Guarded.locked_iff {r : UpdateRequest} {w v : World} {u : User} {point : Stage}
    {taken : List LockKey} (h : Guarded r w u point taken v) (hw : w.store.LocksIndexed)
    {reason : LockReason}
    (hblocks : reason.blocksEdit (w.store.allows u r.dataset.id .publishDataset) = true) :
    (∃ l ∈ v.store.locks.values, l.dataset = r.dataset.id ∧ l.reason = reason) ↔
      (r.dataset.id, reason) ∈ taken := by
  have hbefore : ¬ w.store.Locked (r.dataset.id, reason) := by
    rw [hw.locked_iff]
    rintro ⟨l, hl, hdataset, rfl⟩
    rw [h.admitted.unlocked_of_keyed hw.keyed l hl hdataset] at hblocks
    cases hblocks
  rw [← h.indexed.locked_iff, h.locked]
  simp [hbefore]

/-- Among other tasks that take locks, an update is committed to a dataset that holds, of all locks
for reasons that keep its caller from editing, exactly those that the other tasks took after the
lock check; one that nobody interrupts leaves the dataset without any such lock. -/
theorem locks_at_commit {r : UpdateRequest} {w : World} (hw : w.store.Reachable) :
    (∀ work taken v s saved v', Underway r w (.due work) taken v →
      (commit work).run s v = (.ok saved, v') →
      ∃ u, r.principal = .authenticated u ∧ v'.store.findDataset? r.dataset.id = some saved ∧
        ∀ reason, reason.blocksEdit (v'.store.allows u r.dataset.id .publishDataset) = true →
          ((∃ l ∈ v'.store.locks.values, l.dataset = r.dataset.id ∧ l.reason = reason) ↔
            (r.dataset.id, reason) ∈ taken)) ∧
    ∀ s o v, (update r).run s w = (.ok o, v) →
      ∃ u, r.principal = .authenticated u ∧
        ∀ l ∈ v.store.locks.values, l.dataset = r.dataset.id →
          l.reason.blocksEdit (v.store.allows u r.dataset.id .publishDataset) = false := by
  have hindexed := hw.locksIndexed
  refine ⟨?_, ?_⟩
  · intro work taken v s saved v' hunderway hcommit
    obtain ⟨u, hu⟩ := guarded_of_underway hindexed hunderway
    obtain ⟨rfl, -, hstored⟩ := of_run_commit_ok hcommit
    have hid : r.dataset.id = work.dataset.id := hu.staged.id_eq.symm
    have hroles : v'.store.roles = w.store.roles := by
      rw [hstored]
      exact hu.roles
    have hlocks : v'.store.locks = v.store.locks := by
      rw [hstored]
      rfl
    refine ⟨u, hu.admitted.caller, ?_, ?_⟩
    · rw [hstored, Store.findDataset?_applyWork, if_pos hid]
    · intro reason hblocks
      rw [Store.allows_of_roles hroles] at hblocks
      rw [hlocks]
      exact hu.locked_iff hindexed hblocks
  · intro s o v hrun
    obtain ⟨work, v₁, v₂, hunderway, hcommit, hlocks, hroles⟩ := underway_of_update hrun
    obtain ⟨u, hu⟩ := guarded_of_underway hindexed hunderway
    obtain ⟨-, -, hstored⟩ := of_run_commit_ok hcommit
    have hroles : v.store.roles = w.store.roles := by
      rw [hroles, hstored]
      exact hu.roles
    refine ⟨u, hu.admitted.caller, ?_⟩
    intro l hl hdataset
    by_contra hblocks
    rw [Bool.not_eq_false, Store.allows_of_roles hroles] at hblocks
    rw [hlocks, hstored] at hl
    have htaken := (hu.locked_iff hindexed hblocks).mp ⟨l, hl, hdataset, rfl⟩
    cases htaken

/-! ### A lock that comes after the check -/

/-- An update that saves a dataset while another task takes a lock, just after the lock check. -/
def savingWhileLocking (d : Dataset) (dataset : DatasetId) (reason : LockReason) :
    Action Dataset := do
  let p ← prepare (savingRequest d)
  let _ ← addLock dataset reason none none
  let work ← stage p
  let (d, _) ← registerIfDue work.dataset
  commit { work with dataset := stampUpdate p.time d }

private theorem underway_of_savingWhileLocking {d saved : Dataset} {dataset : DatasetId}
    {reason : LockReason} {s : Surroundings} {w v : World}
    (h : (savingWhileLocking d dataset reason).run s w = (.ok saved, v)) :
    ∃ work u, Underway (savingRequest d) w (.due work) [(dataset, reason)] u ∧
      (commit work).run s u = (.ok saved, v) := by
  obtain ⟨p, w₁, hprepare, h⟩ := of_run_bind_ok h
  obtain ⟨l, w₂, hlock, h⟩ := of_run_bind_ok h
  obtain ⟨work, w₃, hstage, h⟩ := of_run_bind_ok h
  obtain ⟨⟨e, registration⟩, w₄, hregister, h⟩ := of_run_bind_ok h
  exact ⟨_, w₄, .register (.stage (.lock (.prepare hprepare) hlock) hstage) hregister, h⟩

theorem reachable_of_run_commit {w : World} (h : w.store.Reachable) (work : UnitOfWork)
    (s : Surroundings) : ((commit work).run s w).2.store.Reachable := by
  rcases run_commit work s w with ⟨e, failed, hfailed⟩ | ⟨hadmits, hstored⟩
  · rw [hfailed]
    exact h
  · rw [hstored]
    exact Store.perform_commit hadmits ▸ h.perform (.commit work)

theorem reachable_storing (d : Dataset) : (storing d).store.Reachable :=
  reachable_of_run_commit ⟨true, [], rfl⟩ _ _

/-- A lock that is taken in between on another dataset leaves that of the update unlocked. -/
theorem locks_at_commit_when_elsewhere :
    (storing titledDraft).store.Reachable ∧ ∃ work v saved v',
      Underway (savingRequest titledDraft) (storing titledDraft) (.due work)
        [(⟨⟨9⟩⟩, .ingest)] v ∧
      (commit work).run plainSurroundings v = (.ok saved, v') ∧
      ∃ u, (savingRequest titledDraft).principal = .authenticated u ∧
        v'.store.findDataset? titledDraft.id = some saved ∧
        ∀ reason, reason.blocksEdit (v'.store.allows u titledDraft.id .publishDataset) = true →
          ¬ ∃ l ∈ v'.store.locks.values, l.dataset = titledDraft.id ∧ l.reason = reason := by
  have hok : ((savingWhileLocking titledDraft ⟨⟨9⟩⟩ .ingest).run plainSurroundings
      (storing titledDraft)).1.toOption.isSome = true := by decide +kernel
  have hreachable := reachable_storing titledDraft
  cases hrun : (savingWhileLocking titledDraft ⟨⟨9⟩⟩ .ingest).run plainSurroundings
      (storing titledDraft) with
  | mk result v' =>
    rw [hrun] at hok
    cases result with
    | error e => cases hok
    | ok saved =>
      obtain ⟨work, v, hunderway, hcommit⟩ := underway_of_savingWhileLocking hrun
      obtain ⟨u, hcaller, hfound, hlocks⟩ :=
        (locks_at_commit hreachable).1 work _ v plainSurroundings saved v' hunderway hcommit
      refine ⟨hreachable, work, v, saved, v', hunderway, hcommit, u, hcaller, hfound, ?_⟩
      intro reason hblocks hlocked
      have htaken := (hlocks reason hblocks).mp hlocked
      rw [List.mem_singleton] at htaken
      have hdataset : titledDraft.id = ⟨⟨9⟩⟩ := congrArg Prod.fst htaken
      exact absurd hdataset (by decide)

/-- A dataset that another task locks for an ingest, after the lock check of an update, is saved by
that update all the same. -/
theorem update_saved_under_lock :
    ∃ work v saved v' u l,
      Underway (savingRequest titledDraft) (storing titledDraft) (.due work)
        [(titledDraft.id, .ingest)] v ∧
      (commit work).run plainSurroundings v = (.ok saved, v') ∧
      (savingRequest titledDraft).principal = .authenticated u ∧ l ∈ v'.store.locks.values ∧
      l.dataset = titledDraft.id ∧
      l.reason.blocksEdit (v'.store.allows u titledDraft.id .publishDataset) = true := by
  have hlocked : ((savingWhileLocking titledDraft titledDraft.id .ingest).run plainSurroundings
      (storing titledDraft)).1.toOption.isSome = true ∧
      ((savingWhileLocking titledDraft titledDraft.id .ingest).run plainSurroundings
        (storing titledDraft)).2.store.locks.values.any
          (fun l => l.dataset == titledDraft.id && l.reason == .ingest) = true := by
    decide +kernel
  cases hrun : (savingWhileLocking titledDraft titledDraft.id .ingest).run plainSurroundings
      (storing titledDraft) with
  | mk result v' =>
    rw [hrun] at hlocked
    obtain ⟨hok, hlocked⟩ := hlocked
    cases result with
    | error e => cases hok
    | ok saved =>
      obtain ⟨work, v, hunderway, hcommit⟩ := underway_of_savingWhileLocking hrun
      obtain ⟨l, hl, hlock⟩ := List.any_eq_true.mp hlocked
      rw [Bool.and_eq_true, beq_iff_eq, beq_iff_eq] at hlock
      obtain ⟨hdataset, hreason⟩ := hlock
      refine ⟨work, v, saved, v', _, l, hunderway, hcommit, rfl, hl, hdataset, ?_⟩
      rw [hreason]
      rfl

end Repository

end Depository
