import Depository.Proofs.Repository.Effect
import Depository.Proofs.Store.Commit

/-!
# What the calls do

For each call of the store and of the services, how it can end and what it changes.
-/

namespace Depository.Repository

open Depository.Action

theorem run_findDataset? (id : DatasetId) (s : Surroundings) (w : World) :
    ∃ vanished : Bool, (findDataset? id).run s w =
      (askStore .findDataset fun store =>
        if vanished then none else store.findDataset? id).run s w :=
  ⟨s.vanished (w.count (Event.isAnswered .findDataset)), rfl⟩

theorem confined_findDataset? (id : DatasetId) :
    Confined .none (fun _ => True) (findDataset? id) := by
  intro s w
  obtain ⟨vanished, hrun⟩ := run_findDataset? id s w
  rw [hrun]
  exact confined_askStore _ (fun _ => trivial) s w

theorem confined_findDataset (id : DatasetId) : Confined .none (fun _ => True) (findDataset id) := by
  refine (confined_findDataset? id).bind fun found => ?_
  cases found with
  | none => exact confined_fail _
  | some d => exact confined_pure d

theorem of_run_findDataset_ok {id : DatasetId} {s : Surroundings} {w v : World} {d : Dataset}
    (h : (findDataset id).run s w = (.ok d, v)) :
    w.store.findDataset? id = some d ∧ v.store = w.store := by
  have hstore := (confined_findDataset id).allows h
  obtain ⟨found, u, hfound, h⟩ := of_run_bind_ok h
  obtain ⟨vanished, hrun⟩ := run_findDataset? id s w
  rw [hrun] at hfound
  obtain ⟨hanswer, -⟩ := of_run_askStore_ok hfound
  cases found with
  | none => cases h
  | some e =>
    cases h
    split at hanswer
    · cases hanswer
    · exact ⟨hanswer.symm, hstore.symm⟩

/-- A commit fails and leaves the store alone, or stores what the store admits. -/
theorem run_commit (work : UnitOfWork) (s : Surroundings) (w : World) :
    (∃ e failed, (commit work).run s w =
      (.error (.persistence e), w.record (.store .commit failed))) ∨
    (w.store.Admits work ∧ (commit work).run s w =
      (.ok work.dataset,
        { w.record (.store .commit false) with store := w.store.applyWork work })) := by
  rcases run_changeStore .commit
      (fun store => (store.commit work).map fun store => (work.dataset, store)) s w with
    hfailed | ⟨d, t, ht, hrun⟩
  · exact Or.inl hfailed
  · cases hcommit : w.store.commit work with
    | error e =>
      rw [hcommit] at ht
      cases ht
    | ok t =>
      obtain ⟨hadmits, rfl⟩ := Store.commit_eq_ok_iff.mp hcommit
      rw [hcommit] at ht
      cases ht
      exact Or.inr ⟨hadmits, hrun⟩

/-- A commit is one call of the store. -/
theorem log_of_run_commit {work : UnitOfWork} {s : Surroundings} {w v : World}
    {result : Except Failure Dataset} (h : (commit work).run s w = (result, v)) :
    ∃ failed, v.log = w.log ++ [.store .commit failed] := by
  rcases run_commit work s w with ⟨e, failed, hfailed⟩ | ⟨-, hstored⟩
  · have hv : v = _ := congrArg Prod.snd (h.symm.trans hfailed)
    exact ⟨failed, congrArg World.log hv⟩
  · have hv : v = _ := congrArg Prod.snd (h.symm.trans hstored)
    exact ⟨false, congrArg World.log hv⟩

/-- A commit that succeeds stores the dataset and looks at no lock. -/
theorem of_run_commit_ok {work : UnitOfWork} {s : Surroundings} {w v : World} {saved : Dataset}
    (h : (commit work).run s w = (.ok saved, v)) :
    saved = work.dataset ∧ w.store.Admits work ∧ v.store = w.store.applyWork work := by
  rcases run_commit work s w with ⟨e, failed, hfailed⟩ | ⟨hadmits, hstored⟩
  · cases h.symm.trans hfailed
  · cases h.symm.trans hstored
    exact ⟨rfl, hadmits, rfl⟩

/-- What was committed is found. -/
theorem findDataset?_of_run_commit {work : UnitOfWork} {s : Surroundings} {w v : World}
    {saved : Dataset} (h : (commit work).run s w = (.ok saved, v)) :
    v.store.findDataset? work.dataset.id = some work.dataset := by
  obtain ⟨-, -, hstored⟩ := of_run_commit_ok h
  rw [hstored, Store.findDataset?_applyWork, if_pos rfl]

theorem confined_touch {noted : VersionId × UserId → Prop} {version : VersionId} {user : UserId}
    (h : noted (version, user)) {P : Event → Prop} (hP : ∀ failed, P (.store .touch failed))
    (time : Time.Instant) : Confined (.visiting noted) P (touch version user time) := by
  refine confined_changeStore (fun s a t ht => ?_) hP
  cases ht
  exact StoreEffect.visiting_touch h time s

theorem confined_reindex {E : StoreEffect} {P : Event → Prop} (d : Dataset) (minor : Bool)
    (hP : ∀ answer, P (.indexing d minor answer)) : Confined E P (reindex d minor) := by
  intro s w
  change E.allows w.store ((reindex d minor) s w).2.store ∧
    ∃ calls, ((reindex d minor) s w).2.log = w.log ++ calls ∧ ∀ e ∈ calls, P e
  unfold reindex
  cases s.index with
  | none => exact ⟨E.refl _, [], (List.append_nil _).symm, by simp⟩
  | some index =>
    refine ⟨E.refl _, [.indexing d minor (index (w.count Event.isIndexing) d minor)], rfl, ?_⟩
    intro e he
    rw [List.mem_singleton.mp he]
    exact hP _

theorem run_reindex (d : Dataset) (minor : Bool) (s : Surroundings) (w : World) :
    ((reindex d minor).run s w).2.store = w.store ∧
      ((reindex d minor).run s w).2.count Event.isIndexing =
        w.count Event.isIndexing + if s.index.isSome then 1 else 0 := by
  change ((reindex d minor) s w).2.store = _ ∧ ((reindex d minor) s w).2.count _ = _
  unfold reindex
  cases s.index with
  | none => exact ⟨rfl, rfl⟩
  | some index => exact ⟨rfl, count_record _ _ w⟩

/-- Writing exports changes nothing else. -/
theorem foldl_putExport (files : List Export.Artifact) (w : World) :
    ∃ exports, files.foldl (fun w a => w.putExport a) w = { w with exports } := by
  induction files generalizing w with
  | nil => exact ⟨w.exports, rfl⟩
  | cons a rest ih => exact ih (w.putExport a)

/-! ### Calls that never fail -/

/-- Services that always answer, and a store that never fails. -/
def calmSurroundings : Surroundings where
  identifiers := .default
  application := .default
  schema := .citation
  mutePolicy := ⟨.empty, .empty⟩
  registry _ target := .ok (.registered target.identifier)
  registryHas _ := .ok false
  index := none
  mailer := none
  ingest _ _ _ := .ok none
  exporter _ _ := ⟨[], none⟩
  outage _ _ := none
  vanished _ := false

/-- The same for datasets that need nothing but a title. -/
def plainSurroundings : Surroundings :=
  { calmSurroundings with schema := ⟨"plain", [⟨"title", .text, true, false⟩]⟩ }

def emptyWorld : World where
  store := .empty true
  ids := ⟨fun n => ⟨n⟩, 0⟩
  clock := ⟨fun _ => .epoch, 0⟩
  localParts := ⟨LocalPart.ofNat, 0⟩
  exports := []
  log := []

def titledParts : DatasetParts :=
  ⟨some ⟨⟨1⟩⟩, some "root", none, none, false, [⟨"title", ["Tides"]⟩], none⟩

def titledDraft : Dataset := (titledParts.build? emptyWorld.ids .epoch).get rfl

end Depository.Repository
