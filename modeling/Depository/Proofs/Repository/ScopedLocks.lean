import Depository.Proofs.Repository.Interleaving

/-!
# Work under locks

Any number of calls that do work under a lock run beside each other, and beside other tasks that
ask for locks and change their holders. A call owns the lock if the one that is stored has the
identity it made up; it frees the lock by its key. Nobody else frees locks. So a key has one owner
at most, and it is held as long as it has one.
-/

namespace Depository

namespace Store

private theorem locked_removeLocks {s : Store} {dataset : DatasetId} {reason : LockReason}
    {k : LockKey} :
    (s.removeLocks dataset reason).2.Locked k ↔ s.Locked k ∧ k ≠ (dataset, reason) := by
  unfold Locked removeLocks
  cases hheld : s.locks.get? (dataset, reason) with
  | none =>
    constructor
    · rintro ⟨l, hl⟩
      have hne : k ≠ (dataset, reason) := by
        rintro rfl
        cases hheld.symm.trans hl
      exact ⟨⟨l, hl⟩, hne⟩
    · exact And.left
  | some held =>
    simp only [locks_unindexLock, Table.get?_erase]
    by_cases hk : k = (dataset, reason) <;> simp [hk]

private theorem locked_updateLock {s t : Store} {l : Lock} (h : s.updateLock l = .ok t)
    {k : LockKey} :
    t.Locked k ↔ s.Locked k := by
  unfold updateLock at h
  cases hheld : s.locks.get? l.key with
  | none =>
    rw [hheld] at h
    cases h
  | some held =>
    rw [hheld] at h
    cases h
    unfold Locked
    simp only [locks_indexLock, locks_unindexLock, Table.get?_insert]
    by_cases hk : k = l.key
    · simp [hk, hheld]
    · simp [hk]

private theorem addLockIfAbsent_of_locked {s : Store} {l : Lock} (h : s.Locked l.key) :
    (s.addLockIfAbsent l).2 = s := by
  obtain ⟨held, hheld⟩ := h
  simp [addLockIfAbsent, hheld]

/-- Who asks with an identity that no stored lock has is answered it if the key was free, and only
then. -/
private theorem addLockIfAbsent_id_eq_iff {s : Store} {l : Lock}
    (hnew : ∀ k held, s.locks.get? k = some held → held.id ≠ l.id) :
    (s.addLockIfAbsent l).1.id = l.id ↔ ¬ s.Locked l.key := by
  unfold Locked addLockIfAbsent
  cases hheld : s.locks.get? l.key with
  | none => simp
  | some held => simpa using hnew l.key held hheld

end Store

/-- No stored lock has the identity that is made up next. -/
def World.FreshLock (w : World) : Prop :=
  ∀ k l, w.store.locks.get? k = some l → l.id ≠ ⟨w.ids.next⟩

/-- From `w` to `v` the store is called once, and the call frees the key if the store answers. -/
def World.Frees (s : Surroundings) (k : LockKey) (w v : World) : Prop :=
  v.log = w.log ++ [.store .removeLocks
    (s.outage .removeLocks (w.count (Event.isStore .removeLocks))).isSome] ∧
  (s.outage .removeLocks (w.count (Event.isStore .removeLocks)) = none → ¬ v.store.Locked k)

namespace Repository

open Depository.Action Relation

/-! ### Taking and freeing -/

section

variable {α : Type} {dataset : DatasetId} {reason : LockReason} {user : Option UserId}
  {info : Option String} {s : Surroundings} {w v : World}

theorem run_addLockIfAbsent (l : Lock) (s : Surroundings) (w : World) :
    (∃ e failed, (addLockIfAbsent l).run s w =
      (.error (.persistence e), w.record (.store .addLock failed))) ∨
    (addLockIfAbsent l).run s w = (.ok (w.store.addLockIfAbsent l).1,
      { w.record (.store .addLock false) with store := (w.store.addLockIfAbsent l).2 }) := by
  rcases run_changeStore .addLock (fun store => .ok (store.addLockIfAbsent l)) s w with
    hfailed | ⟨held, t, ht, hadded⟩
  · exact Or.inl hfailed
  · obtain ⟨rfl, rfl⟩ := Prod.mk.inj (Except.ok.inj ht)
    exact Or.inr hadded

private theorem exists_candidate (dataset : DatasetId) (reason : LockReason) (user : Option UserId)
    (info : Option String) (s : Surroundings) (w : World) :
    ∃ l u, l.id = ⟨w.ids.next⟩ ∧ l.key = (dataset, reason) ∧ u.store = w.store ∧ u.log = w.log ∧
      (acquire dataset reason user info).run s w =
        (addLockIfAbsent l >>= settleOwner dataset reason l).run s u := by
  obtain ⟨l, u, hnew, hid, hkey, hstore, hlog⟩ : ∃ l u,
      (newLock dataset reason user info).run s w = (.ok l, u) ∧ l.id = ⟨w.ids.next⟩ ∧
      l.key = (dataset, reason) ∧ u.store = w.store ∧ u.log = w.log :=
    ⟨_, _, rfl, rfl, rfl, rfl, rfl⟩
  exact ⟨l, u, hid, hkey, hstore, hlog, run_bind_of_ok hnew⟩

/-- What a call is answered that asks for a lock: its own candidate if the key is free. -/
private theorem exists_answered_candidate (dataset : DatasetId) (reason : LockReason)
    (user : Option UserId) (info : Option String) (hfresh : w.FreshLock)
    (hanswered : s.outage .addLock (w.count (Event.isStore .addLock)) = none) :
    ∃ l held v, (held.id = l.id ↔ ¬ w.store.Locked (dataset, reason)) ∧
      (w.store.Locked (dataset, reason) → v.store = w.store) ∧
      (acquire dataset reason user info).run s w = (settleOwner dataset reason l held).run s v := by
  obtain ⟨l, u, hid, hkey, hstore, hlog, hrun⟩ := exists_candidate dataset reason user info s w
  have hcount : u.count (Event.isStore .addLock) = w.count (Event.isStore .addLock) := by
    rw [World.count, World.count, hlog]
  have hadd : (addLockIfAbsent l).run s u = (.ok (u.store.addLockIfAbsent l).1,
      { u.record (.store .addLock false) with store := (u.store.addLockIfAbsent l).2 }) :=
    run_changeStore_of_ok (hcount ▸ hanswered) rfl
  have hnew (k : LockKey) (held : Lock) (hk : u.store.locks.get? k = some held) :
      held.id ≠ l.id := by
    rw [hid]
    exact hfresh k held (hstore ▸ hk)
  refine ⟨l, _, _, ?_, ?_, hrun.trans (run_bind_of_ok hadd)⟩
  · rw [Store.addLockIfAbsent_id_eq_iff hnew, hkey, hstore]
  · intro hheld
    show (u.store.addLockIfAbsent l).2 = w.store
    rw [hstore]
    exact Store.addLockIfAbsent_of_locked (hkey ▸ hheld)

/-- A held key is not given to another call, and the store stays as it is. -/
theorem run_acquire_of_locked (hfresh : w.FreshLock) (hheld : w.store.Locked (dataset, reason))
    (hanswered : s.outage .addLock (w.count (Event.isStore .addLock)) = none) :
    ∃ v, v.store = w.store ∧ (acquire dataset reason user info).run s w =
      (.error (.lockConflict (heldMessage dataset reason)), v) := by
  obtain ⟨l, held, v, hown, hstore, hrun⟩ :=
    exists_answered_candidate dataset reason user info hfresh hanswered
  have hother : ¬ held.id = l.id := fun h => hown.mp h hheld
  rw [settleOwner, if_neg hother] at hrun
  exact ⟨v, hstore hheld, hrun⟩

/-- A free key is given to the call that asks. -/
theorem run_acquire_of_free (hfresh : w.FreshLock) (hfree : ¬ w.store.Locked (dataset, reason))
    (hanswered : s.outage .addLock (w.count (Event.isStore .addLock)) = none) :
    ∃ v, (acquire dataset reason user info).run s w = (.ok (), v) := by
  obtain ⟨l, held, v, hown, -, hrun⟩ :=
    exists_answered_candidate dataset reason user info hfresh hanswered
  rw [settleOwner, if_pos (hown.mpr hfree)] at hrun
  exact ⟨v, hrun⟩

/-- A key is given to a call only if it was free, and then the call holds it. -/
theorem of_run_acquire_ok (hfresh : w.FreshLock)
    (h : (acquire dataset reason user info).run s w = (.ok (), v)) :
    ¬ w.store.Locked (dataset, reason) ∧
      ∀ k, v.store.Locked k ↔ w.store.Locked k ∨ k = (dataset, reason) := by
  obtain ⟨l, u, hid, hkey, hstore, -, hrun⟩ := exists_candidate dataset reason user info s w
  obtain ⟨held, u', hadd, hsettle⟩ := of_run_bind_ok (hrun ▸ h)
  rcases run_addLockIfAbsent l s u with ⟨e, failed, hfailed⟩ | hadded
  · cases hadd.symm.trans hfailed
  · cases hadd.symm.trans hadded
    unfold settleOwner at hsettle
    split at hsettle
    · next hown =>
      cases hsettle
      rw [Store.addLockIfAbsent_id_eq_iff, hkey, hstore] at hown
      · refine ⟨hown, ?_⟩
        intro k
        show (u.store.addLockIfAbsent l).2.Locked k ↔ _
        rw [Store.locked_addLockIfAbsent, hkey, hstore]
      · intro k held hk
        rw [hid]
        exact hfresh k held (hstore ▸ hk)
    · cases hsettle

/-- A call that is refused may have asked for a lock, but keeps no key from being held. -/
private theorem locked_of_run_acquire {result : Except Failure Unit}
    (h : (acquire dataset reason user info).run s w = (result, v)) {k : LockKey}
    (hk : w.store.Locked k) : v.store.Locked k := by
  obtain ⟨l, u, -, -, hstore, -, hrun⟩ := exists_candidate dataset reason user info s w
  have hkept : (u.store.addLockIfAbsent l).2.Locked k := by
    rw [Store.locked_addLockIfAbsent, hstore]
    exact Or.inl hk
  have hsettle (held : Lock) (u' : World) : ((settleOwner dataset reason l held).run s u').2 = u' := by
    unfold settleOwner
    split <;> rfl
  rw [hrun] at h
  rcases run_addLockIfAbsent l s u with ⟨e, failed, hfailed⟩ | hadded
  · cases h.symm.trans (run_bind_of_error hfailed)
    exact hstore ▸ hk
  · have hv := congrArg Prod.snd (h.symm.trans (run_bind_of_ok hadded))
    rw [hsettle] at hv
    rw [show v = _ from hv]
    exact hkept

/-- The release is one call of the store, it frees the key if the store answers, and in any case
the result of the work is handed on. -/
theorem run_giveBack (dataset : DatasetId) (reason : LockReason) (result : Except Failure α)
    (s : Surroundings) (w : World) :
    ∃ v, (giveBack dataset reason result).run s w = (result, v) ∧
      World.Frees s (dataset, reason) w v ∧
      (v.store = w.store ∨ v.store = (w.store.removeLocks dataset reason).2) := by
  unfold World.Frees
  cases hout : s.outage .removeLocks (w.count (Event.isStore .removeLocks)) with
  | some detail =>
    have hremove : (removeLocks dataset reason).run s w = _ := run_changeStore_of_outage hout
    have hrun : (giveBack dataset reason result).run s w =
        (result, w.record (.store .removeLocks true)) := by
      rw [giveBack, run_bind, release, run_bind, run_outcome hremove]
      rfl
    exact ⟨_, hrun, ⟨rfl, fun h => by cases h⟩, Or.inl rfl⟩
  | none =>
    have hremove : (removeLocks dataset reason).run s w = _ := run_changeStore_of_ok hout rfl
    have hrun : (giveBack dataset reason result).run s w =
        (result, { w.record (.store .removeLocks false) with
          store := (w.store.removeLocks dataset reason).2 }) := by
      rw [giveBack, run_bind, release, run_bind, run_outcome hremove]
      rfl
    refine ⟨_, hrun, ⟨rfl, fun _ hk => ?_⟩, Or.inr rfl⟩
    exact (Store.locked_removeLocks.mp hk).2 rfl

/-- Work under a lock: the lock is asked for, the work is done, the lock is given back. -/
theorem run_withLock_of_acquired {work : Action α} {u : World} {result : Except Failure α}
    (hacquire : (acquire dataset reason user info).run s w = (.ok (), v))
    (hwork : work.run s v = (result, u)) :
    (withLock dataset reason user info work).run s w =
      (giveBack dataset reason result).run s u := by
  apply (run_bind_of_ok hacquire).trans
  exact run_bind_of_ok (run_outcome hwork)

theorem run_withLock_of_refused {work : Action α} {e : Failure}
    (hacquire : (acquire dataset reason user info).run s w = (.error e, v)) :
    (withLock dataset reason user info work).run s w = (.error e, v) :=
  run_bind_of_error hacquire

end

/-! ### Calls beside each other -/

/-- How far a call has come that does work under a lock: it has not asked for the lock, is at
work, has the result of its work, was refused the lock, or has answered after its work. -/
inductive Phase (α : Type) where
  | waiting
  | working (k : LockKey)
  | worked (k : LockKey) (result : Except Failure α)
  | refused (e : Failure)
  | done (k : LockKey) (result answer : Except Failure α)

def Phase.Holds {α : Type} (k : LockKey) : Phase α → Prop
  | .working k' | .worked k' _ => k' = k
  | _ => False

section

variable {τ : Type} {α : τ → Type}

structure Joint (τ : Type) (α : τ → Type) where
  world : World
  phase : (i : τ) → Phase (α i)

variable [DecidableEq τ]

def Joint.move (j : Joint τ α) (i : τ) (p : Phase (α i)) (v : World) : Joint τ α :=
  ⟨v, Function.update j.phase i p⟩

/-- A step of one task. Each step makes one call of the store at most, in surroundings of its own.
Work is whatever happens until it ends, with any result: its own calls are steps of others. -/
inductive Joint.Step : Joint τ α → Joint τ α → Prop where
  | enter {j : Joint τ α} {i : τ} {dataset : DatasetId} {reason : LockReason}
      {user : Option UserId} {info : Option String} {s : Surroundings} {v : World} :
      j.phase i = .waiting → j.world.FreshLock →
      (acquire dataset reason user info).run s j.world = (.ok (), v) →
      Step j (j.move i (.working (dataset, reason)) v)
  | refuse {j : Joint τ α} {i : τ} {dataset : DatasetId} {reason : LockReason}
      {user : Option UserId} {info : Option String} {s : Surroundings} {e : Failure} {v : World} :
      j.phase i = .waiting →
      (acquire dataset reason user info).run s j.world = (.error e, v) →
      Step j (j.move i (.refused e) v)
  | finish {j : Joint τ α} {i : τ} {k : LockKey} (result : Except Failure (α i)) :
      j.phase i = .working k → Step j (j.move i (.worked k result) j.world)
  | leave {j : Joint τ α} {i : τ} {dataset : DatasetId} {reason : LockReason}
      {result answer : Except Failure (α i)} {s : Surroundings} {v : World} :
      j.phase i = .worked (dataset, reason) result →
      (giveBack dataset reason result).run s j.world = (answer, v) →
      Step j (j.move i (.done (dataset, reason) result answer) v)
  | addLock {j : Joint τ α} {dataset : DatasetId} {reason : LockReason} {user : Option UserId}
      {info : Option String} {s : Surroundings} {result : Except Failure Lock} {v : World} :
      (addLock dataset reason user info).run s j.world = (result, v) → Step j { j with world := v }
  | updateLock {j : Joint τ α} {l : Lock} {s : Surroundings} {result : Except Failure Unit}
      {v : World} : (updateLock l).run s j.world = (result, v) → Step j { j with world := v }
  | elsewhere {j : Joint τ α} {v : World} : v.store.locks = j.world.store.locks →
      Step j { j with world := v }

/-- A key has one owner at most and is held while it has one, and a call answers as its work
ended. -/
structure Joint.Exclusive (j : Joint τ α) : Prop where
  alone : ∀ i i' k, (j.phase i).Holds k → (j.phase i').Holds k → i = i'
  kept : ∀ i k, (j.phase i).Holds k → j.world.store.Locked k
  answered : ∀ i k result answer, j.phase i = .done k result answer → answer = result

namespace Joint

variable {j now next : Joint τ α} {i : τ} {k : LockKey} {v : World}

private theorem phase_move_self (j : Joint τ α) (i : τ) (p : Phase (α i)) (v : World) :
    (j.move i p v).phase i = p := by
  simp [move]

private theorem phase_move_of_ne {i' : τ} (h : i' ≠ i) (p : Phase (α i)) (v : World) :
    (j.move i p v).phase i' = j.phase i' := by
  simp [move, h]

private theorem phase_move_of_worked {i' : τ} {result : Except Failure (α i)}
    (h : j.phase i = .worked k result) (hother : ∀ k' result', j.phase i' ≠ .worked k' result')
    (p : Phase (α i')) (v : World) : (j.move i' p v).phase i = .worked k result := by
  have hne : i ≠ i' := by
    rintro rfl
    exact hother k result h
  exact (phase_move_of_ne hne p v).trans h

private theorem move_move (j : Joint τ α) (i : τ) (p p' : Phase (α i)) (v v' : World) :
    (j.move i p v).move i p' v' = j.move i p' v' := by
  simp [move]

private theorem holds_move_iff {i' : τ} {p : Phase (α i)} :
    ((j.move i p v).phase i').Holds k ↔ (i' = i ∧ p.Holds k) ∨ (i' ≠ i ∧ (j.phase i').Holds k) := by
  by_cases hne : i' = i
  · subst hne
    simp [phase_move_self]
  · simp [phase_move_of_ne hne, hne]

omit [DecidableEq τ] in
private theorem Exclusive.worldChanged (h : j.Exclusive)
    (hkept : ∀ k, j.world.store.Locked k → v.store.Locked k) :
    Exclusive { j with world := v } where
  alone := h.alone
  kept i k hi := hkept k (h.kept i k hi)
  answered := h.answered

private theorem Exclusive.answered_move (h : j.Exclusive) {p : Phase (α i)}
    (hanswered : ∀ k result answer, p = .done k result answer → answer = result) {i' : τ}
    {result answer : Except Failure (α i')}
    (hi : (j.move i p v).phase i' = .done k result answer) : answer = result := by
  by_cases hne : i' = i
  · subst hne
    rw [phase_move_self] at hi
    exact hanswered k result answer hi
  · rw [phase_move_of_ne hne] at hi
    exact h.answered i' k result answer hi

private theorem Exclusive.move (h : j.Exclusive) {p : Phase (α i)}
    (hholds : ∀ k, p.Holds k → (j.phase i).Holds k)
    (hanswered : ∀ k result answer, p = .done k result answer → answer = result)
    (hkept : ∀ i' k, ((j.move i p v).phase i').Holds k → j.world.store.Locked k →
      v.store.Locked k) : (j.move i p v).Exclusive := by
  have hold (i' : τ) (k : LockKey) (hi : ((j.move i p v).phase i').Holds k) :
      (j.phase i').Holds k := by
    rcases holds_move_iff.mp hi with ⟨rfl, hk⟩ | ⟨-, hk⟩
    · exact hholds k hk
    · exact hk
  constructor
  · intro i' i'' k hi hi'
    exact h.alone i' i'' k (hold i' k hi) (hold i'' k hi')
  · intro i' k hi
    exact hkept i' k hi (h.kept i' k (hold i' k hi))
  · intro i' k result answer hi
    exact h.answered_move hanswered hi

private theorem Exclusive.enter (h : j.Exclusive) (hfree : ¬ j.world.store.Locked k)
    (hlocked : ∀ k', v.store.Locked k' ↔ j.world.store.Locked k' ∨ k' = k) :
    (j.move i (.working k) v).Exclusive := by
  have hnobody (i' : τ) : ¬ (j.phase i').Holds k := fun hi => hfree (h.kept i' k hi)
  constructor
  · intro i' i'' k' hi hi'
    rcases holds_move_iff.mp hi with ⟨hown, hk⟩ | ⟨-, hk⟩ <;>
      rcases holds_move_iff.mp hi' with ⟨hown', hk'⟩ | ⟨-, hk'⟩
    · rw [hown, hown']
    · cases hk
      exact absurd hk' (hnobody i'')
    · cases hk'
      exact absurd hk (hnobody i')
    · exact h.alone i' i'' k' hk hk'
  · intro i' k' hi
    show v.store.Locked k'
    rw [hlocked]
    rcases holds_move_iff.mp hi with ⟨-, hk⟩ | ⟨-, hk⟩
    · exact Or.inr (Eq.symm hk)
    · exact Or.inl (h.kept i' k' hk)
  · intro i' k' result answer hi
    refine h.answered_move ?_ hi
    rintro _ _ _ ⟨⟩

theorem Exclusive.step (h : now.Exclusive) (hstep : now.Step next) : next.Exclusive := by
  cases hstep with
  | enter hphase hfresh hrun =>
    obtain ⟨hfree, hlocked⟩ := of_run_acquire_ok hfresh hrun
    exact h.enter hfree hlocked
  | refuse hphase hrun =>
    apply h.move
    · rintro k ⟨⟩
    · rintro k result answer ⟨⟩
    · intro i' k _ hk
      exact locked_of_run_acquire hrun hk
  | finish result hphase =>
    apply h.move
    · rintro k rfl
      rw [hphase]
      rfl
    · rintro k result answer ⟨⟩
    · exact fun _ _ _ hk => hk
  | @leave i dataset reason result answer s v hphase hrun =>
    obtain ⟨v', hrun', -, hstore⟩ := run_giveBack dataset reason result s now.world
    cases hrun.symm.trans hrun'
    apply h.move
    · rintro k ⟨⟩
    · rintro k result answer ⟨⟩
      rfl
    · intro i' k hi hk
      rcases hstore with hsame | hremoved
      · rwa [hsame]
      · rw [hremoved, Store.locked_removeLocks]
        refine ⟨hk, ?_⟩
        -- The key that is freed belongs to the call that leaves, and to no other.
        rintro rfl
        rcases holds_move_iff.mp hi with ⟨-, hdone⟩ | ⟨hne, hi⟩
        · exact hdone
        · exact hne (h.alone i' i _ hi (by rw [hphase]; rfl))
  | addLock hrun =>
    apply h.worldChanged
    intro k hk
    rcases of_run_addLock hrun with ⟨e, -, hstore⟩ | ⟨l, held, -, -, hstore⟩
    · rwa [hstore]
    · rw [hstore, Store.locked_addLockIfAbsent]
      exact Or.inl hk
  | @updateLock l s result v hrun =>
    apply h.worldChanged
    intro k hk
    change updateLock l s now.world = _ at hrun
    unfold Repository.updateLock at hrun
    split at hrun
    · next t ht =>
      cases hrun
      exact (Store.locked_updateLock ht).mpr hk
    · cases hrun
      exact hk
  | elsewhere hlocks =>
    apply h.worldChanged
    intro k hk
    rwa [Store.Locked, hlocks]

omit [DecidableEq τ] in
private theorem exclusive_of_waiting (h : ∀ i, j.phase i = .waiting) : j.Exclusive where
  alone i _ k hi := by
    rw [h i] at hi
    cases hi
  kept i k hi := by
    rw [h i] at hi
    cases hi
  answered i k result answer hi := by
    cases (h i).symm.trans hi

/-- After its work a call only answers, and in the same step it frees its key. -/
private theorem Step.of_worked {result : Except Failure (α i)} (hstep : now.Step next)
    (h : now.phase i = .worked k result) : next.phase i = .worked k result ∨
      next.phase i = .done k result result ∧ ∃ s, World.Frees s k now.world next.world := by
  cases hstep with
  | enter hphase => exact Or.inl (phase_move_of_worked h (by simp [hphase]) _ _)
  | refuse hphase => exact Or.inl (phase_move_of_worked h (by simp [hphase]) _ _)
  | finish _ hphase => exact Or.inl (phase_move_of_worked h (by simp [hphase]) _ _)
  | @leave i' dataset reason result' answer s v hphase hrun =>
    by_cases hne : i = i'
    · subst hne
      cases h.symm.trans hphase
      obtain ⟨v', hrun', hfrees, -⟩ := run_giveBack dataset reason result s now.world
      cases hrun.symm.trans hrun'
      exact Or.inr ⟨phase_move_self _ _ _ _, s, hfrees⟩
    · exact Or.inl ((phase_move_of_ne hne _ _).trans h)
  | addLock => exact Or.inl h
  | updateLock => exact Or.inl h
  | elsewhere => exact Or.inl h

/-- A call of `withLock` is a run, whatever steps others take while it works. -/
theorem run_of_withLock {dataset : DatasetId} {reason : LockReason} {user : Option UserId}
    {info : Option String} {s : Surroundings} {work : Action (α i)} {mid : Joint τ α}
    {result answer : Except Failure (α i)} {final : World}
    (hacquire : (acquire dataset reason user info).run s j.world = (.ok (), v))
    (hwork : work.run s v = (result, mid.world)) (hmid : mid.phase i = .working (dataset, reason))
    (hrun : (withLock dataset reason user info work).run s j.world = (answer, final)) :
    ReflTransGen Step mid (mid.move i (.done (dataset, reason) result answer) final) := by
  have hback := (run_withLock_of_acquired hacquire hwork).symm.trans hrun
  have hfinished := ReflTransGen.single (Step.finish result hmid)
  have hleft := hfinished.tail (Step.leave (phase_move_self _ _ _ _) hback)
  rwa [move_move] at hleft

end Joint

/-- However calls that work under a lock run beside each other and beside tasks that take locks or
change them: a key has one owner at most and is held while it has one. `withLock` on a held key is
refused whatever the work, and the locks stay as they are. On a free key it holds the key from then
on, does the work, frees the key with its last call of the store and answers as the work ended; the
calls of others may fall anywhere in between. -/
theorem scoped_locks_exclude {start now : Joint τ α} (hstart : ∀ i, start.phase i = .waiting)
    (hrun : ReflTransGen Joint.Step start now) :
    now.Exclusive ∧
    (∀ dataset reason user info s, now.world.FreshLock →
      s.outage .addLock (now.world.count (Event.isStore .addLock)) = none →
      now.world.store.Locked (dataset, reason) →
      ∃ v, v.store = now.world.store ∧
        (∀ (β : Type) (work : Action β), (withLock dataset reason user info work).run s now.world =
          (.error (.lockConflict (heldMessage dataset reason)), v)) ∧
        ∀ i, now.phase i = .waiting →
          now.Step (now.move i (.refused (.lockConflict (heldMessage dataset reason))) v)) ∧
    (∀ i dataset reason user info s, now.phase i = .waiting → now.world.FreshLock →
      s.outage .addLock (now.world.count (Event.isStore .addLock)) = none →
      ¬ now.world.store.Locked (dataset, reason) →
      ∃ v, (acquire dataset reason user info).run s now.world = (.ok (), v) ∧
        now.Step (now.move i (.working (dataset, reason)) v) ∧
        (∀ k, v.store.Locked k ↔ now.world.store.Locked k ∨ k = (dataset, reason)) ∧
        ∀ work result u, work.run s v = (result, u) →
          ∃ final, (withLock dataset reason user info work).run s now.world = (result, final) ∧
            World.Frees s (dataset, reason) u final ∧
            ∀ mid : Joint τ α, mid.world = u → mid.phase i = .working (dataset, reason) →
              ReflTransGen Joint.Step mid
                (mid.move i (.done (dataset, reason) result result) final)) ∧
    ∀ next i k result, now.Step next → now.phase i = .worked k result →
      next.phase i = .worked k result ∨
      next.phase i = .done k result result ∧ ∃ s, World.Frees s k now.world next.world := by
  refine ⟨?_, ?_, ?_, ?_⟩
  · induction hrun with
    | refl => exact Joint.exclusive_of_waiting hstart
    | tail _ hstep ih => exact ih.step hstep
  · intro dataset reason user info s hfresh hanswered hheld
    obtain ⟨v, hstore, hacquire⟩ := run_acquire_of_locked hfresh hheld hanswered
    refine ⟨v, hstore, fun _ _ => run_withLock_of_refused hacquire, ?_⟩
    intro i hwaiting
    exact Joint.Step.refuse hwaiting hacquire
  · intro i dataset reason user info s hwaiting hfresh hanswered hfree
    obtain ⟨v, hacquire⟩ := run_acquire_of_free hfresh hfree hanswered
    have hlocked := (of_run_acquire_ok hfresh hacquire).2
    refine ⟨v, hacquire, Joint.Step.enter hwaiting hfresh hacquire, hlocked, ?_⟩
    intro work result u hwork
    obtain ⟨final, hback, hfrees, -⟩ := run_giveBack dataset reason result s u
    have hwhole := (run_withLock_of_acquired hacquire hwork).trans hback
    refine ⟨final, hwhole, hfrees, ?_⟩
    rintro mid rfl hmid
    exact Joint.run_of_withLock hacquire hwork hmid hwhole
  · intro next i k result hstep hworked
    exact hstep.of_worked hworked

end

/-! ### Two calls for one key -/

def bothWaiting : Joint Bool fun _ => Unit := ⟨emptyWorld, fun _ => .waiting⟩

/-- The world once the first call has the lock. -/
def takenWorld : World :=
  ((acquire ⟨⟨9⟩⟩ .workflow none none).run calmSurroundings emptyWorld).2

private theorem freshLock_takenWorld : takenWorld.FreshLock := by
  have hvalues : ∀ l ∈ takenWorld.store.locks.values, l.id ≠ ⟨takenWorld.ids.next⟩ := by
    decide +kernel
  intro k l hl
  exact hvalues l (Table.mem_values.mpr ⟨k, hl⟩)

/-- The first call is at work. -/
def firstWorking : Joint Bool fun _ => Unit :=
  bothWaiting.move true (.working (⟨⟨9⟩⟩, .workflow)) takenWorld

/-- Work in which the second call asks for the key, and that fails then. -/
def disturbedWork : Action Unit := do
  let _ ← outcome (withLock ⟨⟨9⟩⟩ .workflow none none (pure ()))
  fail (.persistence (.queryFailed "full"))

theorem scoped_locks_exclude_second :
    ∃ now final, ReflTransGen Joint.Step bothWaiting now ∧ now.Exclusive ∧
      now.phase true = .working (⟨⟨9⟩⟩, .workflow) ∧
      now.phase false = .refused (.lockConflict (heldMessage ⟨⟨9⟩⟩ .workflow)) ∧
      (withLock ⟨⟨9⟩⟩ .workflow none none disturbedWork).run calmSurroundings emptyWorld =
        (.error (.persistence (.queryFailed "full")), final) ∧
      ¬ final.store.Locked (⟨⟨9⟩⟩, .workflow) ∧
      ReflTransGen Joint.Step now (now.move true
        (.done (⟨⟨9⟩⟩, .workflow) (.error (.persistence (.queryFailed "full")))
          (.error (.persistence (.queryFailed "full")))) final) := by
  have hfresh : emptyWorld.FreshLock := by
    rintro k l ⟨⟩
  have hfree : ¬ emptyWorld.store.Locked (⟨⟨9⟩⟩, .workflow) := by
    rintro ⟨l, ⟨⟩⟩
  have hstart : ReflTransGen Joint.Step bothWaiting bothWaiting := .refl
  obtain ⟨-, -, hgranted, -⟩ := scoped_locks_exclude (fun _ => rfl) hstart
  obtain ⟨v, hacquire, henter, hlocked, hwithLock⟩ :=
    hgranted true ⟨⟨9⟩⟩ .workflow none none calmSurroundings rfl hfresh rfl hfree
  obtain rfl : takenWorld = v := congrArg Prod.snd hacquire
  have hentered : ReflTransGen Joint.Step bothWaiting firstWorking := .single henter
  obtain ⟨-, hrefused, -⟩ := scoped_locks_exclude (fun _ => rfl) hentered
  have hheld : takenWorld.store.Locked (⟨⟨9⟩⟩, .workflow) := (hlocked _).mpr (Or.inr rfl)
  obtain ⟨u, -, hconflict, hrefuse⟩ :=
    hrefused ⟨⟨9⟩⟩ .workflow none none calmSurroundings freshLock_takenWorld rfl hheld
  have hwork : disturbedWork.run calmSurroundings takenWorld =
      (.error (.persistence (.queryFailed "full")), u) :=
    run_bind_of_ok (run_outcome (hconflict Unit (pure ())))
  obtain ⟨final, hwhole, ⟨-, hfreed⟩, hleaves⟩ := hwithLock disturbedWork _ u hwork
  have hsecond : firstWorking.Step _ := hrefuse false (Joint.phase_move_of_ne (by decide) _ _)
  have hreached := hentered.tail hsecond
  obtain ⟨hexclusive, -⟩ := scoped_locks_exclude (fun _ => rfl) hreached
  have hworking : (firstWorking.move false
      (.refused (.lockConflict (heldMessage ⟨⟨9⟩⟩ .workflow))) u).phase true = _ :=
    (Joint.phase_move_of_ne (by decide) _ _).trans (Joint.phase_move_self _ _ _ _)
  exact ⟨_, final, hreached, hexclusive, hworking, Joint.phase_move_self _ _ _ _, hwhole,
    hfreed rfl, hleaves _ rfl hworking⟩

end Repository

end Depository
