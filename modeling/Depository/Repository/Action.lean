import Depository.Repository.World

/-!
# Actions

What the repository does is an action: it reads the surroundings, changes the world, and ends
with a value or a failure. A failure does not take back what happened before it.
-/

namespace Depository

/-- A way to change the world that ends with a value or a failure. -/
def Action (α : Type) : Type := Surroundings → World → Except Failure α × World

namespace Action

variable {α β : Type}

/-- The result of an action and the world after it. -/
def run (x : Action α) (s : Surroundings) (w : World) : Except Failure α × World := x s w

instance : Monad Action where
  pure a := fun _ w => (.ok a, w)
  bind x f := fun s w =>
    match x s w with
    | (.ok a, w) => f a s w
    | (.error e, w) => (.error e, w)

theorem run_bind (x : Action α) (f : α → Action β) (s : Surroundings) (w : World) :
    (x >>= f).run s w =
      match x.run s w with
      | (.ok a, w) => (f a).run s w
      | (.error e, w) => (.error e, w) := rfl

/-- Ends with a failure. -/
def fail (e : Failure) : Action α := fun _ w => (.error e, w)

/-- Ends as a result says. -/
def ofExcept (r : Except Failure α) : Action α := fun _ w => (r, w)

/-- An action that cannot fail and hands over how another one ended. -/
def outcome (x : Action α) : Action (Except Failure α) := fun s w =>
  let (r, w) := x s w
  (.ok r, w)

def surroundings : Action Surroundings := fun s w => (.ok s, w)

/-- A reading of the clock. -/
def now : Action Time.Instant := fun _ w => (.ok w.clock.next, { w with clock := w.clock.drop 1 })

/-- A fresh identity. -/
def freshId : Action Uuid := fun _ w => (.ok w.ids.next, { w with ids := w.ids.drop 1 })

/-- A fresh local part. -/
def freshLocalPart : Action LocalPart := fun _ w =>
  (.ok w.localParts.next, { w with localParts := w.localParts.drop 1 })

/-- Runs a function that takes fresh identities. -/
def withIds (f : Supply Uuid → α × Supply Uuid) : Action α := fun _ w =>
  let (a, ids) := f w.ids
  (.ok a, { w with ids })

/-- A call of the store. A disturbed call fails and leaves the store alone. -/
def callStore (call : StoreCall) (op : Store → Except StoreFailure α × Store) : Action α :=
  fun s w =>
    match s.outage call (w.count (Event.isStore call)) with
    | some detail => (.error (.persistence (.queryFailed detail)), w.record (.store call true))
    | none =>
      let (r, store) := op w.store
      (r.mapError .persistence, { w.record (.store call false) with store })

/-- A call that only reads the store. -/
def askStore (call : StoreCall) (question : Store → α) : Action α :=
  callStore call fun store => (.ok (question store), store)

/-- A call that may fail, and then changes nothing. -/
def changeStore (call : StoreCall) (change : Store → Except StoreFailure (α × Store)) : Action α :=
  callStore call fun store =>
    match change store with
    | .ok (a, store) => (.ok a, store)
    | .error e => (.error e, store)

end Action

end Depository
