import Depository.Proofs.Repository.Composition
import Depository.Proofs.Repository.Effect

/-!
# Steps that look at no lock

What follows the lock check of an update runs in one way whatever is locked, and leaves the locks
as they are. So a lock that another task takes between two calls of a step is as good as one that
it takes after the step.
-/

namespace Depository

/-- The store with the locks of another one. -/
def Store.withLocks (s t : Store) : Store :=
  { s with locks := t.locks, locksByUser := t.locksByUser }

def World.withLocks (w : World) (t : Store) : World := { w with store := w.store.withLocks t }

/-- The world after another task asked for a lock. The identity and the start of the lock come from
that task. -/
def World.addLock (w : World) (l : Lock) : World :=
  { w with store := (w.store.addLockIfAbsent l).2 }

namespace Store

private theorem addLockIfAbsent_withLocks (s t : Store) (l : Lock) :
    ((s.withLocks t).addLockIfAbsent l).2 = s.withLocks (t.addLockIfAbsent l).2 := by
  have hlocks : (s.withLocks t).locks.get? l.key = t.locks.get? l.key := rfl
  unfold addLockIfAbsent
  rw [hlocks]
  cases t.locks.get? l.key with
  | some held => rfl
  | none =>
    unfold indexLock
    cases l.user <;> rfl

private theorem nextSequence_withLocks (s t : Store) :
    (s.withLocks t).nextSequence = (s.nextSequence.1, s.nextSequence.2.withLocks t) := by
  have hsequence : (s.withLocks t).hasSequence = s.hasSequence := rfl
  unfold nextSequence
  rw [hsequence]
  split <;> rfl

private theorem commit_withLocks (s t : Store) (work : UnitOfWork) :
    (s.withLocks t).commit work = (s.commit work).map fun u => u.withLocks t := by
  have hflaw : (s.withLocks t).commitFlaw? work = s.commitFlaw? work := rfl
  unfold commit
  rw [hflaw]
  cases s.commitFlaw? work <;> rfl

end Store

namespace Action

variable {α β : Type}

/-- Every run is the same whatever is locked, and leaves the locks alone. -/
def IgnoresLocks (x : Action α) : Prop :=
  ∀ s w t, x.run s (w.withLocks t) = ((x.run s w).1, (x.run s w).2.withLocks t)

theorem IgnoresLocks.bind {x : Action α} {f : α → Action β} (hx : IgnoresLocks x)
    (hf : ∀ a, IgnoresLocks (f a)) : IgnoresLocks (x >>= f) := by
  intro s w t
  rw [run_bind, run_bind, hx s w t]
  rcases x.run s w with ⟨_ | a, v⟩
  · rfl
  · exact hf a s v t

theorem IgnoresLocks.outcome {x : Action α} (h : IgnoresLocks x) : IgnoresLocks (outcome x) := by
  intro s w t
  rw [run_outcome (h s w t)]
  rfl

theorem ignoresLocks_callStore {call : StoreCall} {op : Store → Except StoreFailure α × Store}
    (hop : ∀ t u, op (u.withLocks t) = ((op u).1, (op u).2.withLocks t)) :
    IgnoresLocks (callStore call op) := by
  intro s w t
  have hcount : (w.withLocks t).count (Event.isStore call) = w.count (Event.isStore call) := rfl
  have hstore : (w.withLocks t).store = w.store.withLocks t := rfl
  show (callStore call op) s (w.withLocks t) =
    (((callStore call op) s w).1, ((callStore call op) s w).2.withLocks t)
  unfold callStore
  rw [hcount]
  cases s.outage call (w.count (Event.isStore call)) with
  | some detail => rfl
  | none =>
    rw [hstore, hop]
    rfl

theorem ignoresLocks_changeStore {call : StoreCall}
    {change : Store → Except StoreFailure (α × Store)}
    (hchange : ∀ t u, change (u.withLocks t) =
      (change u).map fun x => (x.1, x.2.withLocks t)) : IgnoresLocks (changeStore call change) := by
  refine ignoresLocks_callStore fun t u => ?_
  rw [hchange]
  cases change u <;> rfl

/-- A lock that is taken between two parts of an action is as good as one that is taken after it,
if the second part ignores locks. -/
theorem IgnoresLocks.run_of_between {x : Action α} {f : α → Action β}
    (hf : ∀ a, IgnoresLocks (f a)) {s : Surroundings} {w u : World} {a : α}
    (hx : x.run s w = (.ok a, u)) (l : Lock) :
    (f a).run s (u.addLock l) =
      (((x >>= f).run s w).1, ((x >>= f).run s w).2.addLock l) := by
  have hsame : ((f a).run s u).2 = ((f a).run s u).2.withLocks u.store :=
    congrArg Prod.snd (hf a s u u.store)
  have hlater : ((f a).run s u).2.addLock l =
      ((f a).run s u).2.withLocks (u.store.addLockIfAbsent l).2 := by
    rw [hsame]
    exact congrArg (fun store => { ((f a).run s u).2 with store := store })
      (Store.addLockIfAbsent_withLocks ((f a).run s u).2.store u.store l)
  have hnow : u.addLock l = u.withLocks (u.store.addLockIfAbsent l).2 :=
    congrArg (fun store => { u with store := store })
      (Store.addLockIfAbsent_withLocks u.store u.store l)
  rw [run_bind_of_ok hx, hnow, hlater]
  exact hf a s u _

end Action

namespace Repository

open Depository.Action

theorem registering_ignoresLocks : RegisteringProperty IgnoresLocks where
  pure _ _ _ _ := rfl
  fail _ _ _ _ := rfl
  surroundings _ _ _ := rfl
  now _ _ _ := rfl
  bind := IgnoresLocks.bind
  outcome := IgnoresLocks.outcome
  freshLocalPart _ _ _ := rfl
  nextSequence := by
    refine ignoresLocks_changeStore fun t u => ?_
    rw [Store.nextSequence_withLocks]
    rfl
  isLocallyUnique g s w t := by
    have hask : IgnoresLocks (askStore .checkIdentifier fun store => store.isLocallyUnique g) :=
      ignoresLocks_callStore fun _ _ => rfl
    exact hask s (w.record (.candidate g)) t
  submit _ _ _ _ := rfl

theorem ignoresLocks_stage (p : PreparedUpdate) : IgnoresLocks (stage p) :=
  stage_of_compositional registering_ignoresLocks.toCompositional (fun _ _ _ _ _ => rfl) p

theorem ignoresLocks_commit (work : UnitOfWork) : IgnoresLocks (commit work) := by
  refine ignoresLocks_changeStore fun t u => ?_
  rw [Store.commit_withLocks]
  cases u.commit work <;> rfl

theorem ignoresLocks_follow (user : User) (time : Time.Instant) (saved : Dataset) :
    IgnoresLocks (follow user time saved) := by
  have hindex : IgnoresLocks (do let _ ← outcome (reindex saved true); pure ()) := by
    refine IgnoresLocks.bind (IgnoresLocks.outcome fun s w t => ?_)
      fun _ => registering_ignoresLocks.pure ()
    show (reindex saved true) s (w.withLocks t) =
      (((reindex saved true) s w).1, ((reindex saved true) s w).2.withLocks t)
    unfold reindex
    cases s.index <;> rfl
  have htouch (v : Version) : IgnoresLocks (touch v.id user.id time) :=
    ignoresLocks_changeStore fun _ _ => rfl
  unfold follow
  split
  · exact (htouch _).outcome.bind fun _ => hindex
  · exact hindex

/-- A prepared update is carried out in the same way whatever was locked since. -/
theorem ignoresLocks_carryOut (p : PreparedUpdate) : IgnoresLocks (carryOut p) :=
  (ignoresLocks_stage p).bind fun work =>
    (registering_ignoresLocks.registerIfDue work.dataset).bind fun _ =>
      (ignoresLocks_commit _).bind fun saved =>
        (ignoresLocks_follow p.user p.time saved).bind fun _ => registering_ignoresLocks.pure _

end Repository

end Depository
