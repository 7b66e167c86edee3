import Depository.Proofs.Repository.Interleaving
import Depository.Proofs.Store.ExportStamps

/-!
# Locks that are held on

While nobody removes it, a lock should stay the one that was taken: its identity and its start
decide who owns it and where it is listed. An update is meant to change the holder and the info. It
puts another lock in the place of the one held, so the lock stays the same exactly where updates
bring its identity and its start along.
-/

namespace Depository

open Ranked (rank)

namespace Lock

/-- The same lock, perhaps with another holder or another info. -/
structure Same (a b : Lock) : Prop where
  id : b.id = a.id
  startTime : b.startTime = a.startTime

theorem Same.refl (l : Lock) : l.Same l := ⟨rfl, rfl⟩

theorem Same.trans {a b c : Lock} (hab : a.Same b) (hbc : b.Same c) : a.Same c :=
  ⟨hbc.id.trans hab.id, hbc.startTime.trans hab.startTime⟩

/-- A lock comes before another wherever both are listed: it started earlier, or it started together
with the other and stands under an earlier key. -/
def Before (a b : Lock) : Prop :=
  a.startTime.rank < b.startTime.rank ∨
    a.startTime.rank = b.startTime.rank ∧ rank a.key < rank b.key

private theorem Before.asymm {a b : Lock} (hab : a.Before b) : ¬ b.Before a := by
  intro hba
  unfold Before at hab hba
  omega

theorem Before.of_same {a a' b b' : Lock} (h : a.Before b) (ha : a.Same a') (hb : b.Same b')
    (hkey : a'.key = a.key) (hkey' : b'.key = b.key) : a'.Before b' := by
  unfold Before
  rwa [ha.startTime, hb.startTime, hkey, hkey']

end Lock

/-- In a list without a pair the other way round, two members that are related stand in order. -/
private theorem pair_sublist_of_pairwise {α : Type} {R : α → α → Prop} {l : List α} {a b : α}
    (hl : l.Pairwise R) (ha : a ∈ l) (hb : b ∈ l) (hne : a ≠ b) (hba : ¬ R b a) :
    [a, b].Sublist l := by
  obtain ⟨before, after, rfl⟩ := List.append_of_mem ha
  have hb : b ∈ before ∨ b ∈ after := by simpa [hne.symm] using hb
  rcases hb with hb | hb
  · exact absurd ((List.pairwise_append.mp hl).2.2 b hb a (by simp)) hba
  · exact ((List.singleton_sublist.mpr hb).cons_cons a).trans (List.sublist_append_right _ _)

namespace Store

/-! ### Listings -/

private theorem LocksIndexed.mem_listLocks {s : Store} (h : s.LocksIndexed) {f : LockFilter}
    {l : Lock} :
    l ∈ s.listLocks f ↔ s.locks.get? l.key = some l ∧ f.matches l = true := by
  rw [h.listLocks_eq, scan, (Lock.arranged_byStart _).perm.mem_iff, List.mem_filter,
    Table.mem_values]
  refine and_congr_left' ⟨?_, fun hl => ⟨l.key, hl⟩⟩
  rintro ⟨k, hk⟩
  rwa [h.keyed k l hk]

/-- Every listing is in the one order of locks. -/
private theorem LocksIndexed.listLocks_inOrder {s : Store} (h : s.LocksIndexed) (f : LockFilter) :
    (s.listLocks f).Pairwise Lock.Before := by
  rw [h.listLocks_eq, scan]
  have harranged := Lock.arranged_byStart (s.locks.values.filter f.matches)
  have hkeys : s.locks.values.Pairwise fun a b => rank a.key < rank b.key := by
    rw [Table.values, List.pairwise_map]
    refine s.locks.inOrder.imp_of_mem ?_
    intro a b ha hb hab
    rwa [h.keyed a.1 a.2 (Table.get?_of_mem ha), h.keyed b.1 b.2 (Table.get?_of_mem hb)]
  rw [List.pairwise_iff_forall_sublist]
  intro a b hab
  have hle : a.startTime.rank ≤ b.startTime.rank :=
    List.pairwise_iff_forall_sublist.mp harranged.ordered hab
  rcases Int.lt_or_eq_of_le hle with hlt | heq
  · exact Or.inl hlt
  · -- Locks that start together are listed as they stand in the table.
    have htied := hab.filter fun l => l.startTime.rank == b.startTime.rank
    rw [harranged.ties, List.filter_cons_of_pos (by simpa using heq),
      List.filter_cons_of_pos (by simp)] at htied
    have hstored := htied.trans (List.filter_sublist.trans List.filter_sublist)
    exact Or.inr ⟨heq, List.pairwise_iff_forall_sublist.mp hkeys hstored⟩

/-- The lock under a key is listed. -/
def ListsKey (s : Store) (f : LockFilter) (k : LockKey) : Prop := ∃ l ∈ s.listLocks f, l.key = k

/-- The lock under one key is listed before the lock under another. -/
def ListsBefore (s : Store) (f : LockFilter) (k k' : LockKey) : Prop :=
  ∃ l l', l.key = k ∧ l'.key = k' ∧ [l, l'].Sublist (s.listLocks f)

private theorem LocksIndexed.listsKey {s : Store} (h : s.LocksIndexed) {f : LockFilter}
    {k : LockKey}
    {l : Lock} (hl : s.locks.get? k = some l) (hk : s.ListsKey f k) : l ∈ s.listLocks f := by
  obtain ⟨m, hm, rfl⟩ := hk
  cases hl.symm.trans (h.mem_listLocks.mp hm).1
  exact hm

private theorem LocksIndexed.before_of_listsBefore {s : Store} (h : s.LocksIndexed) {f : LockFilter}
    {k k' : LockKey} {l l' : Lock} (hl : s.locks.get? k = some l) (hl' : s.locks.get? k' = some l')
    (hbefore : s.ListsBefore f k k') : l.Before l' := by
  obtain ⟨m, m', rfl, rfl, hsub⟩ := hbefore
  have hm := h.mem_listLocks.mp (hsub.subset (by simp : m ∈ [m, m']))
  have hm' := h.mem_listLocks.mp (hsub.subset (by simp : m' ∈ [m, m']))
  cases hl.symm.trans hm.1
  cases hl'.symm.trans hm'.1
  exact List.pairwise_iff_forall_sublist.mp (h.listLocks_inOrder f) hsub

private theorem LocksIndexed.listsBefore {s : Store} (h : s.LocksIndexed) {f : LockFilter}
    {l l' : Lock} (hl : l ∈ s.listLocks f) (hl' : l' ∈ s.listLocks f) (hbefore : l.Before l') :
    s.ListsBefore f l.key l'.key := by
  refine ⟨l, l', rfl, rfl, ?_⟩
  refine pair_sublist_of_pairwise (h.listLocks_inOrder f) hl hl' ?_ hbefore.asymm
  rintro rfl
  exact hbefore.asymm hbefore

/-! ### One operation -/

/-- What an operation does to the locks: one of the three things that are done to locks, or
nothing. -/
private theorem locks_apply {s t : Store} {op : Operation} (h : op.apply s = .ok t) :
    (∃ l, op = .addLock l ∧ t = (s.addLockIfAbsent l).2) ∨
    (∃ k : LockKey, op = .removeLocks k.1 k.2 ∧ t = (s.removeLocks k.1 k.2).2) ∨
    (∃ l, op = .updateLock l ∧ s.updateLock l = .ok t) ∨ t.locks = s.locks := by
  cases op with
  | addLock l =>
    cases h
    exact Or.inl ⟨l, rfl, rfl⟩
  | removeLocks dataset reason =>
    cases h
    exact Or.inr (Or.inl ⟨(dataset, reason), rfl, rfl⟩)
  | updateLock l => exact Or.inr (Or.inr (Or.inl ⟨l, rfl, h⟩))
  | commit work =>
    obtain ⟨-, rfl⟩ := commit_eq_ok_iff.mp h
    exact Or.inr (Or.inr (Or.inr rfl))
  | setLastExportTime dataset time =>
    right; right; right
    change s.setLastExportTime dataset time = .ok t at h
    unfold setLastExportTime at h
    split at h <;> cases h
    rfl
  | nextSequence =>
    cases h
    right; right; right
    unfold nextSequence
    split <;> rfl
  | assignRole a =>
    cases h
    right; right; right
    unfold assignRole
    split <;> rfl
  | markRead id =>
    right; right; right
    change s.markRead id = .ok t at h
    unfold markRead at h
    split at h <;> cases h
    rfl
  | touch version user time | saveUser u | saveNotification n | deleteNotification id =>
    cases h
    exact Or.inr (Or.inr (Or.inr rfl))

/-- A lock that is held is removed, replaced by an update, or stays. -/
private theorem get?_locks_perform {s : Store} {k : LockKey} {l : Lock}
    (hl : s.locks.get? k = some l) (op : Operation) :
    op = .removeLocks k.1 k.2 ∨
    (∃ u, op = .updateLock u ∧ u.key = k ∧ (s.perform op).locks.get? k = some u) ∨
    (s.perform op).locks.get? k = some l := by
  cases happly : op.apply s with
  | error e =>
    rw [perform_of_error happly]
    exact Or.inr (Or.inr hl)
  | ok t =>
    rw [perform_of_ok happly]
    rcases locks_apply happly with ⟨c, rfl, rfl⟩ | ⟨k', rfl, rfl⟩ | ⟨u, rfl, ht⟩ | hsame
    · right; right
      unfold addLockIfAbsent
      split
      · exact hl
      · next hnone =>
        have hne : k ≠ c.key := by
          rintro rfl
          rw [hnone] at hl
          cases hl
        simp [Table.get?_insert, hne, hl]
    · by_cases hk : k = k'
      · exact Or.inl (hk ▸ rfl)
      · right; right
        unfold removeLocks
        split
        · exact hl
        · simp [Table.get?_erase, hk, hl]
    · right
      unfold updateLock at ht
      split at ht
      · cases ht
      · cases ht
        by_cases hk : k = u.key
        · exact Or.inl ⟨u, rfl, hk.symm, by simp [Table.get?_insert, hk]⟩
        · exact Or.inr (by simp [Table.get?_insert, hk, hl])
    · right; right
      rwa [hsame]

private theorem get?_locks_updateLock {s : Store} {u held : Lock}
    (h : s.locks.get? u.key = some held) :
    (s.perform (.updateLock u)).locks.get? u.key = some u := by
  have happly : (Operation.updateLock u).apply s = s.updateLock u := rfl
  unfold updateLock at happly
  rw [h] at happly
  rw [perform_of_ok happly, Table.get?_insert, if_pos rfl]

/-! ### Runs -/

/-- What some operations, tried one after another on an empty store, have made of it after the first
`n` of them. -/
def history (hasSequence : Bool) (operations : List Operation) (n : Nat) : Store :=
  (Store.empty hasSequence).performAll (operations.take n)

/-- None of the operations from the `m`-th on, up to the `n`-th, removes the lock under a key. -/
def NotRemoved (operations : List Operation) (k : LockKey) (m n : Nat) : Prop :=
  ∀ i, m ≤ i → i < n → operations[i]? ≠ some (.removeLocks k.1 k.2)

/-- As long as a lock is not removed it is the same lock, it is the answer to those who ask for one
under its key, and two of them that are listed are listed in the same order. -/
structure LocksKept (run : Nat → Store) (operations : List Operation) : Prop where
  same : ∀ m n k l, m ≤ n → NotRemoved operations k m n → (run m).locks.get? k = some l →
    ∃ l', (run n).locks.get? k = some l' ∧ l.Same l'
  answered : ∀ m n c l, m ≤ n → NotRemoved operations c.key m n →
    (run m).locks.get? c.key = some l → l.Same ((run n).addLockIfAbsent c).1
  ordered : ∀ m n k k' f g, m ≤ n → NotRemoved operations k m n → NotRemoved operations k' m n →
    (run m).ListsBefore f k k' → (run n).ListsKey g k → (run n).ListsKey g k' →
      (run n).ListsBefore g k k'

section Runs

variable {hasSequence : Bool} {operations : List Operation}

private theorem locksIndexed_history (hasSequence : Bool) (operations : List Operation) (n : Nat) :
    (history hasSequence operations n).LocksIndexed :=
  Reachable.locksIndexed ⟨hasSequence, operations.take n, rfl⟩

/-- A lock that is held on stays the same if the updates of it bring the same lock. -/
private theorem same_of_faithful {k : LockKey} {l : Lock} {m n : Nat} (hmn : m ≤ n)
    (hkept : NotRemoved operations k m n)
    (hfaithful : ∀ i u held, operations[i]? = some (.updateLock u) →
      (history hasSequence operations i).locks.get? u.key = some held → held.Same u)
    (hl : (history hasSequence operations m).locks.get? k = some l) :
    ∃ l', (history hasSequence operations n).locks.get? k = some l' ∧ l.Same l' := by
  induction hmn with
  | refl => exact ⟨l, hl, .refl l⟩
  | @step n hmn ih =>
    obtain ⟨l', hl', hsame⟩ := ih fun i hmi hin => hkept i hmi (Nat.lt_succ_of_lt hin)
    cases hn : operations[n]? with
    | none => exact ⟨l', by rwa [history, performAll_take_succ_of_none hn], hsame⟩
    | some op =>
      rw [history, performAll_take_succ hn]
      rcases get?_locks_perform hl' op with rfl | ⟨u, rfl, rfl, hu⟩ | hstays
      · exact absurd hn (hkept n hmn (Nat.lt_succ_self n))
      · exact ⟨u, hu, hsame.trans (hfaithful n u l' hn hl')⟩
      · exact ⟨l', hstays, hsame⟩

end Runs

/-- Locks that are held on are kept, with their places in listings, exactly if every update that
finds a lock brings the identity and the start of that lock. -/
theorem locks_kept_iff (hasSequence : Bool) (operations : List Operation) :
    let run := history hasSequence operations
    LocksKept run operations ↔
      ∀ i u held, operations[i]? = some (.updateLock u) → (run i).locks.get? u.key = some held →
        u.id = held.id ∧ u.startTime = held.startTime := by
  intro run
  constructor
  · intro hkept i u held hi hheld
    have hstands : NotRemoved operations u.key i (i + 1) := by
      intro j hij hji hj
      obtain rfl : j = i := by omega
      rw [hi] at hj
      cases hj
    obtain ⟨l', hl', hsame⟩ := hkept.same i (i + 1) u.key held (Nat.le_succ i) hstands hheld
    have hnext : (run (i + 1)).locks.get? u.key = some u := by
      show (history _ _ _).locks.get? _ = _
      rw [history, performAll_take_succ hi]
      exact get?_locks_updateLock hheld
    cases hnext.symm.trans hl'
    exact ⟨hsame.id, hsame.startTime⟩
  · intro hfaithful
    have hsame (m n : Nat) (k : LockKey) (l : Lock) (hmn : m ≤ n)
        (hstands : NotRemoved operations k m n) (hl : (run m).locks.get? k = some l) :
        ∃ l', (run n).locks.get? k = some l' ∧ l.Same l' := by
      refine same_of_faithful hmn hstands ?_ hl
      intro i u held hi hheld
      obtain ⟨hid, hstart⟩ := hfaithful i u held hi hheld
      exact ⟨hid, hstart⟩
    refine ⟨hsame, ?_, ?_⟩
    · intro m n c l hmn hstands hl
      obtain ⟨l', hl', hll'⟩ := hsame m n c.key l hmn hstands hl
      unfold addLockIfAbsent
      rw [hl']
      exact hll'
    · intro m n k k' f g hmn hstands hstands' hbefore hlisted hlisted'
      have hm := locksIndexed_history hasSequence operations m
      have hn := locksIndexed_history hasSequence operations n
      obtain ⟨a, a', rfl, rfl, hsub⟩ := id hbefore
      have ha := (hm.mem_listLocks.mp (hsub.subset (by simp : a ∈ [a, a']))).1
      have ha' := (hm.mem_listLocks.mp (hsub.subset (by simp : a' ∈ [a, a']))).1
      obtain ⟨b, hb, hab⟩ := hsame m n _ a hmn hstands ha
      obtain ⟨b', hb', hab'⟩ := hsame m n _ a' hmn hstands' ha'
      have hkey := hn.keyed _ b hb
      have hkey' := hn.keyed _ b' hb'
      have hbb' := (hm.before_of_listsBefore ha ha' hbefore).of_same hab hab' hkey hkey'
      have hlists := hn.listsBefore (hn.listsKey hb hlisted) (hn.listsKey hb' hlisted') hbb'
      rwa [hkey, hkey'] at hlists

/-! ### A lock in the place of another -/

def ingestLock : Lock :=
  { lockOn 1 .ingest alice with startTime := { Time.Instant.epoch with second := ⟨1, by decide⟩ } }

def workflowLock : Lock :=
  { lockOn 2 .workflow bob with startTime := { Time.Instant.epoch with second := ⟨2, by decide⟩ } }

/-- The second lock is handed over to the holder of the first. -/
theorem locks_kept_when_handed_over :
    let operations := [.addLock ingestLock, .addLock workflowLock,
      .updateLock { workflowLock with user := some alice, info := some "resumed" }]
    LocksKept (history true operations) operations := by
  intro operations
  refine (locks_kept_iff true operations).mpr ?_
  intro i u held hi hheld
  match i, hi with
  | 2, hi =>
    cases hi
    cases hheld
    exact ⟨rfl, rfl⟩

/-- An update puts a lock with another identity and an earlier start in the place of the one that is
held: it is listed before the other lock now, and it answers those who ask for the lock. -/
theorem lock_replaced_by_update :
    let replacement := { workflowLock with id := ⟨⟨9⟩⟩, startTime := .epoch }
    let operations := [.addLock ingestLock, .addLock workflowLock, .updateLock replacement]
    let run := history true operations
    (run 2).ListsBefore ⟨none, none, none⟩ ingestLock.key workflowLock.key ∧
      (run 3).ListsBefore ⟨none, none, none⟩ workflowLock.key ingestLock.key ∧
      ((run 3).addLockIfAbsent workflowLock).1 = replacement ∧ ¬ LocksKept run operations := by
  intro replacement operations run
  refine ⟨?_, ?_, rfl, ?_⟩
  · have h : (run 2).LocksIndexed := locksIndexed_history true operations 2
    have hingest : ingestLock ∈ (run 2).listLocks ⟨none, none, none⟩ :=
      h.mem_listLocks.mpr ⟨rfl, rfl⟩
    have hworkflow : workflowLock ∈ (run 2).listLocks ⟨none, none, none⟩ :=
      h.mem_listLocks.mpr ⟨rfl, rfl⟩
    exact h.listsBefore hingest hworkflow (Or.inl (by decide))
  · have h : (run 3).LocksIndexed := locksIndexed_history true operations 3
    have hingest : ingestLock ∈ (run 3).listLocks ⟨none, none, none⟩ :=
      h.mem_listLocks.mpr ⟨rfl, rfl⟩
    have hworkflow : replacement ∈ (run 3).listLocks ⟨none, none, none⟩ :=
      h.mem_listLocks.mpr ⟨rfl, rfl⟩
    show (run 3).ListsBefore _ replacement.key ingestLock.key
    exact h.listsBefore hworkflow hingest (Or.inl (by decide))
  · intro hkept
    have hstands : NotRemoved operations workflowLock.key 2 3 := by
      intro i hi hi' hremoved
      obtain rfl : i = 2 := by omega
      cases hremoved
    obtain ⟨l, hl, hsame⟩ := hkept.same 2 3 workflowLock.key workflowLock (by decide) hstands rfl
    cases hl
    exact absurd hsame.id (by decide)

end Store

end Depository
