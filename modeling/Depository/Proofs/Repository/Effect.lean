import Depository.Repository.Call

/-!
# Effects of actions

What an action does to the store and which calls it makes, whether it ends with a value or a
failure. Effects compose along the steps of an action, so that the effect of a workflow follows
from those of its calls.
-/

namespace Depository

/-- A way in which the store may change, over any number of steps. -/
structure StoreEffect where
  allows : Store → Store → Prop
  refl : ∀ s, allows s s
  trans : ∀ {s t u}, allows s t → allows t u → allows s u

namespace StoreEffect

/-- The store stays as it is. -/
def none : StoreEffect := ⟨Eq, fun _ => rfl, Eq.trans⟩

/-- Only the sequence of numbers moves on. -/
def numbering : StoreEffect where
  allows s t := t = { s with identifierSequence := t.identifierSequence } ∧
    s.identifierSequence ≤ t.identifierSequence
  refl _ := ⟨rfl, Int.le_refl _⟩
  trans := by
    rintro s t u ⟨ht, hst⟩ ⟨hu, htu⟩
    exact ⟨by rw [hu, ht], Int.le_trans hst htu⟩

/-- Only the times noted under keys of a kind change. -/
def visiting (noted : VersionId × UserId → Prop) : StoreEffect where
  allows s t := t = { s with versionUsers := t.versionUsers } ∧
    ∀ k, ¬ noted k → t.versionUsers.get? k = s.versionUsers.get? k
  refl _ := ⟨rfl, fun _ _ => rfl⟩
  trans := by
    rintro s t u ⟨ht, hst⟩ ⟨hu, htu⟩
    exact ⟨by rw [hu, ht], fun k hk => (htu k hk).trans (hst k hk)⟩

theorem visiting_touch {noted : VersionId × UserId → Prop} {version : VersionId} {user : UserId}
    (h : noted (version, user)) (time : Time.Instant) (s : Store) :
    (visiting noted).allows s (s.touch version user time) := by
  refine ⟨rfl, fun k hk => ?_⟩
  have hne : k ≠ (version, user) := fun hkv => hk (hkv ▸ h)
  show (s.versionUsers.insert (version, user) time).get? k = _
  rw [Table.get?_insert, if_neg hne]

theorem numbering_nextSequence (s : Store) : numbering.allows s s.nextSequence.2 := by
  unfold Store.nextSequence
  split
  · exact ⟨rfl, Int.le_add_one (Int.le_refl _)⟩
  · exact numbering.refl s

end StoreEffect

namespace Action

variable {α β : Type} {E F : StoreEffect} {P Q : Event → Prop}

/-! ### Steps of a run -/

theorem run_bind_of_ok {x : Action α} {f : α → Action β} {s : Surroundings} {w v : World} {a : α}
    (h : x.run s w = (.ok a, v)) : (x >>= f).run s w = (f a).run s v := by
  rw [run_bind, h]

theorem run_bind_of_error {x : Action α} {f : α → Action β} {s : Surroundings} {w v : World}
    {e : Failure} (h : x.run s w = (.error e, v)) : (x >>= f).run s w = (.error e, v) := by
  rw [run_bind, h]

/-- A run that succeeds is a run of the first step followed by a run of the rest. -/
theorem of_run_bind_ok {x : Action α} {f : α → Action β} {s : Surroundings} {w u : World} {b : β}
    (h : (x >>= f).run s w = (.ok b, u)) :
    ∃ a v, x.run s w = (.ok a, v) ∧ (f a).run s v = (.ok b, u) := by
  rw [run_bind] at h
  split at h
  · next a v hx => exact ⟨a, v, hx, h⟩
  · cases h

/-- A run that fails does so in its first step or in the rest. -/
theorem of_run_bind_error {x : Action α} {f : α → Action β} {s : Surroundings} {w u : World}
    {e : Failure} (h : (x >>= f).run s w = (.error e, u)) :
    x.run s w = (.error e, u) ∨ ∃ a v, x.run s w = (.ok a, v) ∧ (f a).run s v = (.error e, u) := by
  rw [run_bind] at h
  split at h
  · next a v hx => exact Or.inr ⟨a, v, hx, h⟩
  · next e' v hx =>
    cases h
    exact Or.inl hx

theorem run_outcome {x : Action α} {s : Surroundings} {w v : World} {r : Except Failure α}
    (h : x.run s w = (r, v)) : (outcome x).run s w = (.ok r, v) := by
  show (Except.ok (x.run s w).1, (x.run s w).2) = _
  rw [h]

theorem run_bind_pure (x : Action α) (b : β) (s : Surroundings) (w : World) :
    ((x >>= fun _ => pure b).run s w).2 = (x.run s w).2 := by
  rw [run_bind]
  rcases x.run s w with ⟨_ | _, _⟩ <;> rfl

/-! ### Confinement -/

/-- Every run changes the store within an effect and makes only calls of a kind. -/
def Confined (E : StoreEffect) (P : Event → Prop) (x : Action α) : Prop :=
  ∀ s w, E.allows w.store (x.run s w).2.store ∧
    ∃ calls, (x.run s w).2.log = w.log ++ calls ∧ ∀ e ∈ calls, P e

theorem Confined.allows {x : Action α} {s : Surroundings} {w v : World} {result : Except Failure α}
    (h : Confined E P x) (hrun : x.run s w = (result, v)) : E.allows w.store v.store := by
  have hstore := (h s w).1
  rwa [hrun] at hstore

/-- Calls are only added to the log. -/
theorem Confined.log_extended {x : Action α} {s : Surroundings} {w v : World}
    {result : Except Failure α} (h : Confined E P x) (hrun : x.run s w = (result, v)) :
    w.log <+: v.log := by
  obtain ⟨-, calls, hlog, -⟩ := h s w
  rw [hrun] at hlog
  exact ⟨calls, hlog.symm⟩

theorem Confined.of_same {x : Action α}
    (h : ∀ s w, (x.run s w).2.store = w.store ∧ (x.run s w).2.log = w.log) :
    Confined E P x := by
  intro s w
  obtain ⟨hstore, hlog⟩ := h s w
  refine ⟨by rw [hstore]; exact E.refl _, [], by simpa using hlog, by simp⟩

theorem Confined.mono {x : Action α} (h : Confined E P x)
    (hE : ∀ s t, E.allows s t → F.allows s t) (hP : ∀ e, P e → Q e) : Confined F Q x := by
  intro s w
  obtain ⟨hstore, calls, hlog, hcalls⟩ := h s w
  exact ⟨hE _ _ hstore, calls, hlog, fun e he => hP e (hcalls e he)⟩

theorem Confined.of_none {x : Action α} (h : Confined .none P x) : Confined E P x :=
  h.mono (fun _ _ he => he ▸ E.refl _) (fun _ => id)

theorem Confined.bind {x : Action α} {f : α → Action β} (hx : Confined E P x)
    (hf : ∀ a, Confined E P (f a)) : Confined E P (x >>= f) := by
  intro s w
  obtain ⟨hstore, calls, hlog, hcalls⟩ := hx s w
  cases hrun : x.run s w with
  | mk result v =>
    rw [hrun] at hstore hlog
    cases result with
    | error e =>
      rw [run_bind_of_error hrun]
      exact ⟨hstore, calls, hlog, hcalls⟩
    | ok a =>
      rw [run_bind_of_ok hrun]
      obtain ⟨hstore', calls', hlog', hcalls'⟩ := hf a s v
      refine ⟨E.trans hstore hstore', calls ++ calls', ?_, ?_⟩
      · rw [hlog', hlog, List.append_assoc]
      · intro e he
        rcases List.mem_append.mp he with he | he
        · exact hcalls e he
        · exact hcalls' e he

theorem Confined.outcome {x : Action α} (h : Confined E P x) : Confined E P (outcome x) := h

theorem confined_pure (a : α) : Confined E P (pure a : Action α) := .of_same fun _ _ => ⟨rfl, rfl⟩

theorem confined_fail (e : Failure) : Confined E P (fail e : Action α) :=
  .of_same fun _ _ => ⟨rfl, rfl⟩

theorem confined_ofExcept (r : Except Failure α) : Confined E P (ofExcept r) :=
  .of_same fun _ _ => ⟨rfl, rfl⟩

theorem confined_surroundings : Confined E P surroundings := .of_same fun _ _ => ⟨rfl, rfl⟩

theorem confined_now : Confined E P now := .of_same fun _ _ => ⟨rfl, rfl⟩

theorem confined_freshLocalPart : Confined E P freshLocalPart := .of_same fun _ _ => ⟨rfl, rfl⟩

theorem confined_withIds (f : Supply Uuid → α × Supply Uuid) : Confined E P (withIds f) :=
  .of_same fun _ _ => ⟨rfl, rfl⟩

theorem confined_callStore {call : StoreCall} {op : Store → Except StoreFailure α × Store}
    (hop : ∀ s, E.allows s (op s).2) (hP : ∀ failed, P (.store call failed)) :
    Confined E P (callStore call op) := by
  intro s w
  show E.allows w.store ((callStore call op) s w).2.store ∧
    ∃ calls, ((callStore call op) s w).2.log = w.log ++ calls ∧ ∀ e ∈ calls, P e
  unfold callStore
  split
  · exact ⟨E.refl _, [.store call true], rfl, by simpa using hP true⟩
  · exact ⟨hop _, [.store call false], rfl, by simpa using hP false⟩

theorem confined_changeStore {call : StoreCall}
    {change : Store → Except StoreFailure (α × Store)}
    (hchange : ∀ s a t, change s = .ok (a, t) → E.allows s t)
    (hP : ∀ failed, P (.store call failed)) : Confined E P (changeStore call change) := by
  refine confined_callStore (fun s => ?_) hP
  split
  · next a t ht => exact hchange s a t ht
  · exact E.refl s

theorem confined_askStore {call : StoreCall} (question : Store → α)
    (hP : ∀ failed, P (.store call failed)) : Confined E P (askStore call question) :=
  confined_callStore (fun s => E.refl s) hP

theorem count_record (kind : Event → Bool) (e : Event) (w : World) :
    (w.record e).count kind = w.count kind + if kind e then 1 else 0 := by
  simp only [World.count, World.record, List.countP_append, List.countP_singleton]

/-- Calls of other kinds are not counted. -/
theorem count_of_log {w v : World} {calls : List Event} (hlog : v.log = w.log ++ calls)
    {kind : Event → Bool} (hcalls : ∀ c ∈ calls, kind c = false) : v.count kind = w.count kind := by
  have hnone : calls.countP kind = 0 := by
    rw [List.countP_eq_zero]
    intro c hc
    simp [hcalls c hc]
  rw [World.count, hlog, List.countP_append, hnone]
  rfl

theorem Confined.count {x : Action α} (h : Confined E P x) {kind : Event → Bool}
    (hkind : ∀ e, P e → kind e = false) (s : Surroundings) (w : World) :
    (x.run s w).2.count kind = w.count kind := by
  obtain ⟨-, calls, hlog, hcalls⟩ := h s w
  exact count_of_log hlog fun c hc => hkind c (hcalls c hc)

/-- Calls of other kinds leave no trace of theirs in the log. -/
theorem filterMap_of_log {w v : World} {calls : List Event} (hlog : v.log = w.log ++ calls)
    {trace : Event → Option β} (hcalls : ∀ c ∈ calls, trace c = none) :
    v.log.filterMap trace = w.log.filterMap trace := by
  rw [hlog, List.filterMap_append, List.filterMap_eq_nil_iff.mpr hcalls, List.append_nil]

theorem Confined.filterMap_log {x : Action α} (h : Confined E P x) {trace : Event → Option β}
    (htrace : ∀ e, P e → trace e = none) (s : Surroundings) (w : World) :
    (x.run s w).2.log.filterMap trace = w.log.filterMap trace := by
  obtain ⟨-, calls, hlog, hcalls⟩ := h s w
  exact filterMap_of_log hlog fun e he => htrace e (hcalls e he)

/-- A call that reads the store and succeeds gives the answer of the store it found. -/
theorem of_run_askStore_ok {call : StoreCall} {question : Store → α} {s : Surroundings}
    {w v : World} {a : α} (h : (askStore call question).run s w = (.ok a, v)) :
    a = question w.store ∧ v.store = w.store := by
  change (askStore call question) s w = _ at h
  unfold askStore callStore at h
  split at h
  · cases h
  · cases h
    exact ⟨rfl, rfl⟩

/-- A call that may change the store fails without effect, or does what the change says. -/
theorem run_changeStore (call : StoreCall) (change : Store → Except StoreFailure (α × Store))
    (s : Surroundings) (w : World) :
    (∃ e failed, (changeStore call change).run s w =
      (.error (.persistence e), w.record (.store call failed))) ∨
    (∃ a t, change w.store = .ok (a, t) ∧ (changeStore call change).run s w =
      (.ok a, { w.record (.store call false) with store := t })) := by
  change (∃ e failed, (changeStore call change) s w = _) ∨
    (∃ a t, _ ∧ (changeStore call change) s w = _)
  unfold changeStore callStore
  split
  · exact Or.inl ⟨_, true, rfl⟩
  · cases hchange : change w.store with
    | error e =>
      refine Or.inl ⟨e, false, ?_⟩
      simp only [hchange]
      rfl
    | ok x =>
      refine Or.inr ⟨x.1, x.2, rfl, ?_⟩
      simp only [hchange]
      rfl

theorem run_changeStore_of_outage {call : StoreCall}
    {change : Store → Except StoreFailure (α × Store)} {s : Surroundings} {w : World}
    {detail : String} (h : s.outage call (w.count (Event.isStore call)) = some detail) :
    (changeStore call change).run s w =
      (.error (.persistence (.queryFailed detail)), w.record (.store call true)) := by
  change (changeStore call change) s w = _
  unfold changeStore callStore
  rw [h]

theorem run_changeStore_of_ok {call : StoreCall}
    {change : Store → Except StoreFailure (α × Store)} {s : Surroundings} {w : World} {a : α}
    {t : Store} (h : s.outage call (w.count (Event.isStore call)) = none)
    (hchange : change w.store = .ok (a, t)) :
    (changeStore call change).run s w =
      (.ok a, { w.record (.store call false) with store := t }) := by
  change (changeStore call change) s w = _
  unfold changeStore callStore
  rw [h]
  simp only [hchange]
  rfl

theorem run_changeStore_of_error {call : StoreCall}
    {change : Store → Except StoreFailure (α × Store)} {s : Surroundings} {w : World}
    {e : StoreFailure} (h : s.outage call (w.count (Event.isStore call)) = none)
    (hchange : change w.store = .error e) :
    (changeStore call change).run s w = (.error (.persistence e), w.record (.store call false)) := by
  change (changeStore call change) s w = _
  unfold changeStore callStore
  rw [h]
  simp only [hchange]
  rfl

/-! ### Results -/

/-- Every run that succeeds ends with a value of a kind. -/
def Returns (Q : α → Prop) (x : Action α) : Prop :=
  ∀ s w a v, x.run s w = (.ok a, v) → Q a

theorem Returns.bind {Q : β → Prop} {x : Action α} {f : α → Action β}
    (hf : ∀ a, Returns Q (f a)) : Returns Q (x >>= f) := by
  intro s w b u h
  obtain ⟨a, v, -, hb⟩ := of_run_bind_ok h
  exact hf a s v b u hb

/-- A run whose first step ends with a value of a kind. -/
theorem Returns.then {Q' : α → Prop} {Q : β → Prop} {x : Action α} {f : α → Action β}
    (hx : Returns Q' x) (hf : ∀ a, Q' a → Returns Q (f a)) : Returns Q (x >>= f) := by
  intro s w b u h
  obtain ⟨a, v, ha, hb⟩ := of_run_bind_ok h
  exact hf a (hx s w a v ha) s v b u hb

theorem Returns.outcome {Q : α → Prop} {x : Action α} (h : Returns Q x) :
    Returns (fun result => ∀ a, result = .ok a → Q a) (outcome x) := by
  intro s w result v hresult a ha
  cases hx : x.run s w with
  | mk result' u =>
    rw [run_outcome hx] at hresult
    cases hresult
    exact h s w a v (by rw [hx, ha])

theorem returns_pure {Q : α → Prop} {a : α} (h : Q a) : Returns Q (pure a : Action α) := by
  intro s w b v hb
  cases hb
  exact h

theorem returns_fail {Q : α → Prop} (e : Failure) : Returns Q (fail e : Action α) := by
  intro s w b v hb
  cases hb

theorem returns_ofExcept {Q : α → Prop} {r : Except Failure α} (h : ∀ a, r = .ok a → Q a) :
    Returns Q (ofExcept r) := by
  intro s w a v ha
  cases ha
  exact h a rfl

theorem returns_withIds {Q : α → Prop} {f : Supply Uuid → α × Supply Uuid}
    (h : ∀ ids, Q (f ids).1) : Returns Q (withIds f) := by
  intro s w a v ha
  cases ha
  exact h w.ids

/-! ### Fresh identities -/

/-- No run takes a fresh identity. -/
def KeepsIds (x : Action α) : Prop := ∀ s w, (x.run s w).2.ids = w.ids

theorem KeepsIds.bind {x : Action α} {f : α → Action β} (hx : KeepsIds x)
    (hf : ∀ a, KeepsIds (f a)) : KeepsIds (x >>= f) := by
  intro s w
  have hids := hx s w
  cases hrun : x.run s w with
  | mk result v =>
    rw [hrun] at hids
    cases result with
    | error e =>
      rw [run_bind_of_error hrun]
      exact hids
    | ok a =>
      rw [run_bind_of_ok hrun]
      exact (hf a s v).trans hids

theorem keepsIds_pure (a : α) : KeepsIds (pure a : Action α) := fun _ _ => rfl

theorem keepsIds_fail (e : Failure) : KeepsIds (fail e : Action α) := fun _ _ => rfl

theorem keepsIds_askStore (call : StoreCall) (question : Store → α) :
    KeepsIds (askStore call question) := by
  intro s w
  show ((askStore call question) s w).2.ids = w.ids
  unfold askStore callStore
  split <;> rfl

/-! ### Success -/

/-- No run fails. -/
def Succeeds (x : Action α) : Prop := ∀ s w, ∃ a v, x.run s w = (.ok a, v)

theorem succeeds_pure (a : α) : Succeeds (pure a : Action α) := fun _ w => ⟨a, w, rfl⟩

theorem succeeds_surroundings : Succeeds surroundings := fun s w => ⟨s, w, rfl⟩

theorem succeeds_outcome (x : Action α) : Succeeds (outcome x) :=
  fun s w => ⟨(x.run s w).1, (x.run s w).2, rfl⟩

theorem Succeeds.bind {x : Action α} {f : α → Action β} (hx : Succeeds x)
    (hf : ∀ a, Succeeds (f a)) : Succeeds (x >>= f) := by
  intro s w
  obtain ⟨a, v, ha⟩ := hx s w
  obtain ⟨b, u, hb⟩ := hf a s v
  exact ⟨b, u, by rw [run_bind_of_ok ha, hb]⟩

end Action

end Depository
