import Depository.Proofs.Store.Tables
import Depository.Store.Basic
import Mathlib.Logic.Relation

/-!
# Locks and the lists of their holders

Locks stand under their dataset and reason, and beside them the keys of the locks that each user
holds. Taking, replacing and freeing locks keeps the two in step, so a query finds the same locks
in the same order whether it goes by the holder, by the dataset, or through all of them.
-/

namespace Depository

open Ranked (rank)

namespace Lock

/-- The same locks by their start, and those that start together in the order they had. -/
structure Arranged (locks arranged : List Lock) : Prop where
  perm : arranged.Perm locks
  ordered : arranged.Pairwise fun a b => a.startTime ≤ b.startTime
  ties : ∀ start, arranged.filter (fun l => l.startTime.rank == start) =
    locks.filter fun l => l.startTime.rank == start

theorem arranged_byStart (locks : List Lock) : Arranged locks (byStart locks) := by
  have htrans (a b c : Lock) (hab : decide (a.startTime ≤ b.startTime) = true)
      (hbc : decide (b.startTime ≤ c.startTime) = true) :
      decide (a.startTime ≤ c.startTime) = true := by
    rw [decide_eq_true_eq] at hab hbc ⊢
    exact Int.le_trans hab hbc
  have htotal (a b : Lock) :
      (decide (a.startTime ≤ b.startTime) || decide (b.startTime ≤ a.startTime)) = true := by
    rw [Bool.or_eq_true, decide_eq_true_eq, decide_eq_true_eq]
    exact Int.le_total _ _
  have hperm : (byStart locks).Perm locks := List.mergeSort_perm locks _
  refine ⟨hperm, ?_, fun start => ?_⟩
  · exact (List.pairwise_mergeSort htrans htotal locks).imp fun h => of_decide_eq_true h
  · -- Locks that start together are in order already, so sorting keeps them as a sublist.
    have htied : (locks.filter fun l => l.startTime.rank == start).Pairwise
        fun a b => decide (a.startTime ≤ b.startTime) = true := by
      refine List.pairwise_filter.mpr (List.pairwise_of_forall fun a b ha hb => ?_)
      have hsame : a.startTime.rank = b.startTime.rank :=
        (beq_iff_eq.mp ha).trans (beq_iff_eq.mp hb).symm
      exact decide_eq_true (Int.le_of_eq hsame)
    have hsub := (List.sublist_mergeSort htrans htotal htied List.filter_sublist).filter
      fun l => l.startTime.rank == start
    rw [List.filter_filter] at hsub
    simp only [Bool.and_self] at hsub
    exact (hsub.eq_of_length (hperm.filter _).length_eq.symm).symm

end Lock

namespace Store

/-! ### What is listed -/

/-- A key is on the list of a user. -/
def Lists (s : Store) (u : UserId) (k : LockKey) : Prop :=
  ∃ held, s.locksByUser.get? u = some held ∧ held.get? k = some ()

/-- The locks stand under their own keys, the lists hold the keys of the locks of each user and no
others, and users without a lock have no list. -/
structure LocksIndexed (s : Store) : Prop where
  keyed : ∀ k l, s.locks.get? k = some l → l.key = k
  listed : ∀ u k, s.Lists u k ↔ ∃ l, s.locks.get? k = some l ∧ l.user = some u
  inhabited : ∀ u held, s.locksByUser.get? u = some held → held.isEmpty = false

theorem locksIndexed_empty (hasSequence : Bool) : (Store.empty hasSequence).LocksIndexed := by
  refine ⟨fun k l hl => ?_, fun u k => ⟨?_, ?_⟩, fun u held hheld => ?_⟩
  · cases hl
  · rintro ⟨held, hheld, -⟩
    cases hheld
  · rintro ⟨l, hl, -⟩
    cases hl
  · cases hheld

/-! ### Listing and striking off -/

@[simp] theorem locks_indexLock (l : Lock) (s : Store) : (s.indexLock l).locks = s.locks := by
  unfold indexLock
  split <;> rfl

@[simp] theorem locks_unindexLock (l : Lock) (s : Store) : (s.unindexLock l).locks = s.locks := by
  unfold unindexLock
  split
  · rfl
  · split
    · rfl
    · dsimp only
      split <;> rfl

private theorem locksByUser_indexLock (l : Lock) (s : Store) (u : UserId) :
    (s.indexLock l).locksByUser.get? u =
      if l.user = some u then some (((s.locksByUser.get? u).getD .empty).insert l.key ())
      else s.locksByUser.get? u := by
  unfold indexLock
  cases l.user with
  | none => simp
  | some holder =>
    dsimp only
    rw [Table.get?_insert]
    by_cases hu : u = holder
    · subst hu
      simp
    · have hne : ¬ holder = u := fun h => hu h.symm
      simp [hu, hne]

private theorem locksByUser_unindexLock (l : Lock) (s : Store) (u : UserId) :
    (s.unindexLock l).locksByUser.get? u =
      if l.user = some u then
        ((s.locksByUser.get? u).map (·.erase l.key)).filter fun held => !held.isEmpty
      else s.locksByUser.get? u := by
  cases hholder : l.user with
  | none => simp [unindexLock, hholder]
  | some holder =>
    by_cases hu : holder = u
    · subst hu
      cases hheld : s.locksByUser.get? holder with
      | none => simp [unindexLock, hholder, hheld]
      | some held =>
        by_cases hrest : (held.erase l.key).isEmpty = true
        · simp [unindexLock, hholder, hheld, hrest, Table.get?_erase, Option.filter_some]
        · simp [unindexLock, hholder, hheld, hrest, Table.get?_insert, Option.filter_some]
    · have hne : ¬ u = holder := fun h => hu h.symm
      cases hheld : s.locksByUser.get? holder with
      | none => simp [unindexLock, hholder, hheld, hu]
      | some held =>
        by_cases hrest : (held.erase l.key).isEmpty = true
        · simp [unindexLock, hholder, hheld, hrest, Table.get?_erase, hu, hne]
        · simp [unindexLock, hholder, hheld, hrest, Table.get?_insert, hu, hne]

private theorem lists_indexLock {s : Store} {l : Lock} {u : UserId} {k : LockKey} :
    (s.indexLock l).Lists u k ↔ s.Lists u k ∨ (l.user = some u ∧ k = l.key) := by
  unfold Lists
  rw [locksByUser_indexLock]
  by_cases hu : l.user = some u
  · rw [if_pos hu]
    simp only [Option.some.injEq, exists_eq_left', Table.get?_insert, hu, true_and]
    by_cases hk : k = l.key
    · simp [hk]
    · cases s.locksByUser.get? u <;> simp [hk, Table.get?_empty]
  · simp [hu]

private theorem lists_unindexLock {s : Store} {l : Lock} {u : UserId} {k : LockKey} :
    (s.unindexLock l).Lists u k ↔ s.Lists u k ∧ ¬ (l.user = some u ∧ k = l.key) := by
  unfold Lists
  rw [locksByUser_unindexLock]
  by_cases hu : l.user = some u
  · rw [if_pos hu]
    cases s.locksByUser.get? u with
    | none => simp
    | some held =>
      -- A list that still has a key is not empty, so it was not taken away.
      have hkept (hk : (held.erase l.key).get? k = some ()) :
          (held.erase l.key).isEmpty = false := by
        rw [Bool.eq_false_iff]
        intro hempty
        rw [Table.isEmpty_iff.mp hempty k] at hk
        cases hk
      have herase : (held.erase l.key).get? k = some () ↔ k ≠ l.key ∧ held.get? k = some () := by
        rw [Table.get?_erase]
        by_cases hk : k = l.key <;> simp [hk]
      constructor
      · rintro ⟨rest, hrest, hk⟩
        rw [Option.map_some, Option.filter_eq_some_iff, Option.some.injEq] at hrest
        obtain ⟨rfl, -⟩ := hrest
        obtain ⟨hne, hk⟩ := herase.mp hk
        exact ⟨⟨held, rfl, hk⟩, fun h => hne h.2⟩
      · rintro ⟨⟨_, hheld, hk⟩, hne⟩
        cases hheld
        have hk := herase.mpr ⟨fun h => hne ⟨hu, h⟩, hk⟩
        exact ⟨held.erase l.key, by simp [Option.filter_some, hkept hk], hk⟩
  · simp [hu]

private theorem inhabited_indexLock {s : Store} (l : Lock)
    (h : ∀ u held, s.locksByUser.get? u = some held → held.isEmpty = false) (u : UserId)
    (held : KeySet LockKey) (hheld : (s.indexLock l).locksByUser.get? u = some held) :
    held.isEmpty = false := by
  rw [locksByUser_indexLock] at hheld
  split at hheld
  · cases hheld
    rw [Bool.eq_false_iff]
    intro hempty
    have hnone := Table.isEmpty_iff.mp hempty l.key
    rw [Table.get?_insert, if_pos rfl] at hnone
    cases hnone
  · exact h u held hheld

private theorem inhabited_unindexLock {s : Store} (l : Lock)
    (h : ∀ u held, s.locksByUser.get? u = some held → held.isEmpty = false) (u : UserId)
    (held : KeySet LockKey) (hheld : (s.unindexLock l).locksByUser.get? u = some held) :
    held.isEmpty = false := by
  rw [locksByUser_unindexLock] at hheld
  split at hheld
  · simpa using (Option.filter_eq_some_iff.mp hheld).2
  · exact h u held hheld

/-! ### The operations on locks -/

/-- Replacing what stands under a key, from which its holder was struck off, by a lock of that key
that is listed. -/
theorem LocksIndexed.insert {s t : Store} (h : s.LocksIndexed) (l : Lock)
    (hlocks : t.locks = s.locks) (hlists : ∀ u k, t.Lists u k ↔ s.Lists u k ∧ k ≠ l.key)
    (hinhabited : ∀ u held, t.locksByUser.get? u = some held → held.isEmpty = false) :
    LocksIndexed { t.indexLock l with locks := (t.indexLock l).locks.insert l.key l } := by
  refine ⟨fun k k' hk => ?_, fun u k => ?_, inhabited_indexLock l hinhabited⟩
  · rw [locks_indexLock, hlocks, Table.get?_insert] at hk
    split at hk
    · next hkey =>
      cases hk
      exact hkey.symm
    · exact h.keyed k k' hk
  · refine Iff.trans lists_indexLock ?_
    rw [hlists, h.listed, locks_indexLock, hlocks, Table.get?_insert]
    by_cases hk : k = l.key
    · simp [hk, eq_comm]
    · simp [hk]

theorem LocksIndexed.addLockIfAbsent {s : Store} (h : s.LocksIndexed) (l : Lock) :
    (s.addLockIfAbsent l).2.LocksIndexed := by
  unfold Store.addLockIfAbsent
  split
  · exact h
  · next hnone =>
    refine h.insert l rfl (fun u k => ?_) h.inhabited
    rw [h.listed]
    refine ⟨fun hk => ⟨hk, ?_⟩, fun hk => hk.1⟩
    rintro rfl
    obtain ⟨held, hheld, -⟩ := hk
    rw [hnone] at hheld
    cases hheld

theorem LocksIndexed.removeLocks {s : Store} (h : s.LocksIndexed) (dataset : DatasetId)
    (reason : LockReason) : (s.removeLocks dataset reason).2.LocksIndexed := by
  unfold Store.removeLocks
  split
  · exact h
  · next l hl =>
    have hkey := h.keyed _ l hl
    refine ⟨fun k k' hk => ?_, fun u k => ?_, inhabited_unindexLock l h.inhabited⟩
    · rw [locks_unindexLock, Table.get?_erase] at hk
      split at hk
      · cases hk
      · exact h.keyed k k' hk
    · refine Iff.trans lists_unindexLock ?_
      refine Iff.trans (and_congr_left' (h.listed u k)) ?_
      rw [locks_unindexLock, Table.get?_erase]
      by_cases hk : k = (dataset, reason)
      · subst hk
        simp [hl, hkey]
      · simp [hk, hkey]

theorem LocksIndexed.updateLock {s t : Store} (h : s.LocksIndexed) {l : Lock}
    (ht : s.updateLock l = .ok t) : t.LocksIndexed := by
  unfold Store.updateLock at ht
  split at ht
  · cases ht
  · next previous hprevious =>
    cases ht
    have hkey := h.keyed _ previous hprevious
    refine h.insert l (locks_unindexLock previous s) (fun u k => ?_)
      (inhabited_unindexLock previous h.inhabited)
    rw [lists_unindexLock, h.listed, hkey]
    by_cases hk : k = l.key
    · subst hk
      simp [hprevious]
    · simp [hk]

/-- One operation on the locks. -/
inductive LockStep : Store → Store → Prop where
  | add (s : Store) (l : Lock) : LockStep s (s.addLockIfAbsent l).2
  | remove (s : Store) (dataset : DatasetId) (reason : LockReason) :
      LockStep s (s.removeLocks dataset reason).2
  | update {s t : Store} {l : Lock} : s.updateLock l = .ok t → LockStep s t

theorem LocksIndexed.step {s t : Store} (h : s.LocksIndexed) (hstep : LockStep s t) :
    t.LocksIndexed := by
  cases hstep with
  | add l => exact h.addLockIfAbsent l
  | remove dataset reason => exact h.removeLocks dataset reason
  | update ht => exact h.updateLock ht

private theorem locksIndexed_run {hasSequence : Bool} {s : Store}
    (h : Relation.ReflTransGen LockStep (.empty hasSequence) s) : s.LocksIndexed := by
  induction h with
  | refl => exact locksIndexed_empty hasSequence
  | tail _ hstep ih => exact ih.step hstep

/-! ### Queries -/

/-- All locks in the order of their keys that fit a filter, by start. -/
def scan (f : LockFilter) (s : Store) : List Lock := Lock.byStart (s.locks.values.filter f.matches)

/-- A lock of a dataset that stands under a key of the dataset. -/
def HoldsLock (s : Store) (d : DatasetId) (l : Lock) : Prop :=
  l.dataset = d ∧ ∃ reason, s.locks.get? (d, reason) = some l

/-- Every lock stands under its own key. -/
def LocksKeyed (s : Store) : Prop := ∀ k l, s.locks.get? k = some l → l.key = k

theorem LocksKeyed.holdsLock_iff {s : Store} (h : s.LocksKeyed) {d : DatasetId} {l : Lock} :
    s.HoldsLock d l ↔ l ∈ s.locks.values ∧ l.dataset = d := by
  rw [HoldsLock, Table.mem_values, and_comm]
  refine and_congr_left ?_
  rintro rfl
  constructor
  · rintro ⟨reason, hl⟩
    exact ⟨_, hl⟩
  · rintro ⟨k, hl⟩
    have hkey : (l.dataset, l.reason) = k := h k l hl
    exact ⟨l.reason, hkey ▸ hl⟩

private theorem LocksIndexed.heldBy_eq {s : Store} (h : s.LocksIndexed) (u : UserId) :
    s.heldBy u = s.locks.values.filter fun l => l.user == some u := by
  refine Table.filterMap_get?_keys fun k => ?_
  have hlisted := h.listed u k
  unfold Lists at hlisted
  cases hheld : s.locksByUser.get? u with
  | none => simpa [hheld, Table.get?_empty] using hlisted
  | some held => simpa [hheld, Unique.exists_iff] using hlisted

/-- The keys of a dataset are a block without gaps, so all that stands under them is found. -/
private theorem placedOn_eq (s : Store) (d : DatasetId) :
    s.placedOn d = (s.locks.entries.filter fun e => e.1.1 == d).map (·.2) := by
  have hrank (k : LockKey) : rank k = k.1.rank * 8 + k.2.rank := rfl
  rw [placedOn]
  congr 1
  refine Table.takeWhile_startingAt (p := fun k : LockKey => k.1 == d) (fun k hk => ?_)
    fun k m hstart hkm hm => ?_
  · rw [hrank, hrank, show k.1 = d by simpa using hk]
    exact Nat.le_add_right _ _
  · -- Between two keys of one dataset there is room for its reasons only.
    rw [hrank, hrank] at hstart hkm
    dsimp only at hstart
    rw [show m.1 = d by simpa using hm] at hkm
    have hreason := LockReason.rank_lt k.2
    have hreason' := LockReason.rank_lt m.2
    have hfirst : LockReason.rank .ingest = 0 := rfl
    have hdataset : k.1.rank = d.rank := by omega
    simpa using EntityId.rank_injective hdataset

private theorem LocksIndexed.placedOn_eq {s : Store} (h : s.LocksIndexed) (d : DatasetId) :
    s.placedOn d = s.locks.values.filter fun l => l.dataset == d := by
  have hown : ∀ e ∈ s.locks.entries, (e.1.1 == d) = (e.2.dataset == d) := by
    intro e he
    rw [← h.keyed e.1 e.2 (Table.get?_of_mem he)]
    rfl
  rw [Store.placedOn_eq, Table.values, List.filter_map, List.filter_congr hown]
  rfl

private theorem mem_placedOn {s : Store} {d : DatasetId} {l : Lock} :
    l ∈ s.placedOn d ↔ ∃ reason, s.locks.get? (d, reason) = some l := by
  rw [placedOn_eq, List.mem_map]
  constructor
  · rintro ⟨⟨⟨d', reason⟩, l'⟩, he, rfl⟩
    obtain ⟨hmem, hd⟩ := List.mem_filter.mp he
    have hd : d' = d := eq_of_beq hd
    exact ⟨reason, hd ▸ Table.get?_of_mem hmem⟩
  · rintro ⟨reason, hl⟩
    exact ⟨((d, reason), l), List.mem_filter.mpr ⟨Table.mem_of_get? hl, beq_self_eq_true d⟩, rfl⟩

theorem mem_listLocks_dataset {s : Store} {d : DatasetId} {l : Lock} :
    l ∈ s.listLocks ⟨some d, none, none⟩ ↔ s.HoldsLock d l := by
  simp only [listLocks, Lock.byStart, List.mem_mergeSort, List.mem_filter, LockFilter.matches,
    Option.all_some, Option.all_none, Bool.and_true, beq_iff_eq, mem_placedOn]
  rw [HoldsLock, and_comm, eq_comm]

private theorem filter_matches_of_user {f : LockFilter} {u : UserId} (h : f.user = some u)
    (locks : List Lock) :
    (locks.filter fun l => l.user == some u).filter f.matches = locks.filter f.matches := by
  rw [List.filter_filter]
  refine List.filter_congr fun l _ => ?_
  unfold LockFilter.matches
  rw [h, Option.all_some]
  cases l.user == some u <;> simp

private theorem filter_matches_of_dataset {f : LockFilter} {d : DatasetId} (h : f.dataset = some d)
    (locks : List Lock) :
    (locks.filter fun l => l.dataset == d).filter f.matches = locks.filter f.matches := by
  rw [List.filter_filter]
  refine List.filter_congr fun l _ => ?_
  unfold LockFilter.matches
  rw [h, Option.all_some, BEq.comm (a := d)]
  cases l.dataset == d <;> simp

/-- The listing of a filter is the scan, on whichever path it goes. -/
theorem LocksIndexed.listLocks_eq {s : Store} (h : s.LocksIndexed) (f : LockFilter) :
    s.listLocks f = s.scan f := by
  unfold listLocks
  cases hu : f.user with
  | some u =>
    show Lock.byStart ((s.heldBy u).filter f.matches) = s.scan f
    rw [h.heldBy_eq, filter_matches_of_user hu]
    rfl
  | none =>
    cases hd : f.dataset with
    | some d =>
      show Lock.byStart ((s.placedOn d).filter f.matches) = s.scan f
      rw [h.placedOn_eq, filter_matches_of_dataset hd]
      rfl
    | none => rfl

/-- The lists of holders and the locks themselves never part, and a query by the holder or by the
dataset finds what a scan of all locks finds, in the same order. -/
theorem lock_queries_agree {hasSequence : Bool} {s : Store}
    (h : Relation.ReflTransGen LockStep (.empty hasSequence) s) :
    s.LocksIndexed ∧ ∀ f : LockFilter, s.listLocks f = s.scan f ∧
      Lock.Arranged (s.locks.values.filter f.matches) (s.scan f) ∧
      (∀ u, f.user = some u → Lock.byStart ((s.heldBy u).filter f.matches) = s.scan f) ∧
      ∀ d, f.dataset = some d → Lock.byStart ((s.placedOn d).filter f.matches) = s.scan f := by
  have hs := locksIndexed_run h
  refine ⟨hs, fun f => ⟨hs.listLocks_eq f, Lock.arranged_byStart _, ?_, ?_⟩⟩
  · intro u hu
    rw [hs.heldBy_eq, filter_matches_of_user hu]
    rfl
  · intro d hd
    rw [hs.placedOn_eq, filter_matches_of_dataset hd]
    rfl

/-! ### A lock that is handed over -/

def alice : UserId := ⟨⟨11⟩⟩

def bob : UserId := ⟨⟨12⟩⟩

def lockOn (dataset : Nat) (reason : LockReason) (user : UserId) : Lock :=
  ⟨⟨⟨dataset⟩⟩, ⟨⟨dataset⟩⟩, reason, some user, .epoch, none⟩

/-- Three locks that start together on two datasets, held by two users. -/
def threeLocks : Store :=
  [lockOn 2 .ingest alice, lockOn 1 .workflow bob, lockOn 1 .ingest alice].foldl
    (fun s l => (s.addLockIfAbsent l).2) (.empty true)

/-- The lock of the second user is handed over to the first. -/
def handedOver : Store :=
  match threeLocks.updateLock (lockOn 1 .workflow alice) with
  | .ok s => s
  | .error _ => threeLocks

theorem run_handedOver : Relation.ReflTransGen LockStep (.empty true)
    (handedOver.removeLocks ⟨⟨1⟩⟩ .ingest).2 := by
  have hlocked : Relation.ReflTransGen LockStep (.empty true) threeLocks :=
    ((Relation.ReflTransGen.single (.add _ _)).tail (.add _ _)).tail (.add _ _)
  exact (hlocked.tail (.update (l := lockOn 1 .workflow alice) rfl)).tail (.remove _ _ _)

theorem lock_queries_agree_when_handed_over :
    let s := (handedOver.removeLocks ⟨⟨1⟩⟩ .ingest).2
    s.Lists alice (⟨⟨1⟩⟩, .workflow) ∧ s.locksByUser.get? bob = none ∧
      s.heldBy alice = [lockOn 1 .workflow alice, lockOn 2 .ingest alice] ∧
      s.listLocks ⟨none, none, some alice⟩ = s.scan ⟨none, none, some alice⟩ :=
  ⟨⟨_, rfl, rfl⟩, rfl, rfl, ((lock_queries_agree run_handedOver).2 ⟨none, none, some alice⟩).1⟩

end Store

end Depository
