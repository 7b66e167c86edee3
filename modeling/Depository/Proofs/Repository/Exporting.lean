import Depository.Proofs.Repository.Calls
import Depository.Proofs.Store.Lookups
import Depository.Repository.Run

/-!
# Bulk exports

A run over all local datasets calls the exporter once for each dataset that is due, counts every
dataset once, and stamps exactly those whose export succeeded. A dataset with a stamp that is not
before its release is not due, so that the next run takes up exactly those that failed.
-/

namespace Depository

/-- The dataset that the exporter was called for. -/
def Event.exported? : Event → Option DatasetId
  | .exporting d => some d
  | _ => none

/-- The calls of the exporter made so far. -/
def World.exportCalls (w : World) : List DatasetId := w.log.filterMap Event.exported?

private theorem World.count_isExporting (w : World) :
    w.count Event.isExporting = w.exportCalls.length := by
  have hkind : Event.isExporting = fun e => e.exported?.isSome := by
    funext e
    cases e <;> rfl
  rw [World.exportCalls, List.length_filterMap_eq_countP, World.count, hkind]

private theorem World.exportCalls_record {e : Event} (h : e.exported? = none) (w : World) :
    (w.record e).exportCalls = w.exportCalls := by
  simp [World.exportCalls, World.record, List.filterMap_append, h]

/-- The store does what it is asked to, and keeps what was listed. -/
structure Surroundings.Steady (s : Surroundings) : Prop where
  outage : ∀ call n, s.outage call n = none
  vanished : ∀ n, s.vanished n = false

/-- The datasets of a list that are to be exported. -/
def Export.due (force : Bool) (l : List Dataset) : List Dataset :=
  l.filter fun d => isNeeded d force

namespace Store

/-- The datasets that were not harvested, in the order of their identities. -/
def localDatasets (s : Store) : List Dataset := s.datasets.values.filter fun d => !d.harvested

/-- The local datasets that are to be exported. -/
def due (s : Store) (force : Bool) : List Dataset := Export.due force s.localDatasets

private theorem Keyed.ids_inOrder {s : Store} (h : s.Keyed) {l : List Dataset}
    (hl : l.Sublist s.datasets.values) :
    (l.map (·.id)).Pairwise fun a b => Ranked.rank a < Ranked.rank b := by
  have hkeys : s.datasets.values.map (·.id) = s.datasets.keys := by
    rw [Table.values, Table.keys, List.map_map]
    apply List.map_congr_left
    intro e he
    exact h e.1 e.2 (Table.get?_of_mem he)
  apply List.Pairwise.sublist (hl.map _)
  rw [hkeys]
  exact s.datasets.keys_inOrder

private theorem due_sublist (s : Store) (force : Bool) : (s.due force).Sublist s.datasets.values :=
  List.filter_sublist.trans List.filter_sublist

private theorem nodup_of_inOrder {l : List DatasetId}
    (h : l.Pairwise fun a b => Ranked.rank a < Ranked.rank b) : l.Nodup := by
  apply h.imp
  intro a b hab heq
  rw [heq] at hab
  exact Nat.lt_irrefl _ hab

private theorem mem_due {s : Store} (h : s.Keyed) {force : Bool} {d : Dataset} :
    d ∈ s.due force ↔ s.findDataset? d.id = some d ∧ Export.isNeeded d force = true := by
  have hlocal : Export.isNeeded d force = true → d.harvested = false := by
    intro hneeded
    by_contra hharvested
    simp [Export.isNeeded, hharvested] at hneeded
  simp only [due, Export.due, localDatasets, List.mem_filter, Table.mem_values]
  constructor
  · rintro ⟨⟨⟨id, hd⟩, -⟩, hneeded⟩
    have hid : d.id = id := h id d hd
    subst hid
    exact ⟨hd, hneeded⟩
  · rintro ⟨hd, hneeded⟩
    exact ⟨⟨⟨d.id, hd⟩, by simp [hlocal hneeded]⟩, hneeded⟩

/-! ### Stamps -/

/-- The store with a stamp on a dataset. -/
def stamp (d : Dataset) (time : Time.Instant) (s : Store) : Store :=
  { s with datasets := s.datasets.insert d.id { d with lastExportTime := some time } }

/-- The store with stamps on datasets, read from the clock one after another. -/
def stampAll : Supply Time.Instant → List Dataset → Store → Store
  | _, [], s => s
  | clock, d :: rest, s => stampAll (clock.drop 1) rest (s.stamp d clock.next)

private theorem findDataset?_stamp (d : Dataset) (time : Time.Instant) (s : Store)
    (id : DatasetId) :
    (s.stamp d time).findDataset? id =
      if id = d.id then some { d with lastExportTime := some time } else s.findDataset? id :=
  Table.get?_insert _ _ _ _

private theorem stampAll_append (clock : Supply Time.Instant) (l m : List Dataset) (s : Store) :
    s.stampAll clock (l ++ m) = (s.stampAll clock l).stampAll (clock.drop l.length) m := by
  induction l generalizing clock s with
  | nil => rfl
  | cons d rest ih =>
    show (s.stamp d clock.next).stampAll (clock.drop 1) (rest ++ m) = _
    rw [ih]
    have hdrop : (clock.drop 1).drop rest.length = clock.drop (d :: rest).length := by
      simp only [Supply.drop, List.length_cons]
      congr 1
      omega
    rw [hdrop]
    rfl

private theorem findDataset?_stampAll_of_notMem {l : List Dataset} {id : DatasetId}
    (h : ∀ d ∈ l, d.id ≠ id) (clock : Supply Time.Instant) (s : Store) :
    (s.stampAll clock l).findDataset? id = s.findDataset? id := by
  induction l generalizing clock s with
  | nil => rfl
  | cons d rest ih =>
    obtain ⟨hd, hrest⟩ := List.forall_mem_cons.mp h
    show ((s.stamp d clock.next).stampAll (clock.drop 1) rest).findDataset? id = _
    rw [ih hrest, findDataset?_stamp, if_neg (Ne.symm hd)]

/-- The stamps are those of the clock, in order. -/
private theorem findDataset?_stampAll {l : List Dataset} (hl : (l.map (·.id)).Nodup)
    (clock : Supply Time.Instant) (s : Store) {k : Nat} {d : Dataset} (hk : l[k]? = some d) :
    (s.stampAll clock l).findDataset? d.id =
      some { d with lastExportTime := some (clock.ahead k) } := by
  induction l generalizing clock s k with
  | nil => cases hk
  | cons e rest ih =>
    rw [List.map_cons, List.nodup_cons] at hl
    show ((s.stamp e clock.next).stampAll (clock.drop 1) rest).findDataset? d.id = _
    cases k with
    | zero =>
      cases hk
      have hother : ∀ c ∈ rest, c.id ≠ d.id := by
        intro c hc heq
        exact hl.1 (heq ▸ List.mem_map_of_mem hc)
      rw [findDataset?_stampAll_of_notMem hother, findDataset?_stamp, if_pos rfl]
      rfl
    | succ k =>
      rw [ih hl.2 (clock.drop 1) _ hk, Supply.ahead_drop, Nat.add_comm]

private theorem stampAll_rest (clock : Supply Time.Instant) (l : List Dataset) (s : Store) :
    s.stampAll clock l = { s with datasets := (s.stampAll clock l).datasets } := by
  induction l generalizing clock s with
  | nil => rfl
  | cons d rest ih => exact ih (clock.drop 1) (s.stamp d clock.next)

private theorem Keyed.stampAll {s : Store} (h : s.Keyed) (clock : Supply Time.Instant)
    (l : List Dataset) : (s.stampAll clock l).Keyed := by
  induction l generalizing clock s with
  | nil => exact h
  | cons d rest ih =>
    apply ih
    intro id e he
    rw [findDataset?_stamp] at he
    split at he
    · next hid =>
      cases he
      exact hid.symm
    · exact h id e he

end Store

/-- A dataset with a stamp that is not before its release is up to date. -/
private theorem Export.isNeeded_stamped {d : Dataset} {time : Time.Instant}
    (h : ∀ t, d.releaseTime? = some t → t ≤ time) :
    Export.isNeeded { d with lastExportTime := some time } false = false := by
  have hrelease : ({ d with lastExportTime := some time } : Dataset).releaseTime? =
      d.releaseTime? := rfl
  simp only [Export.isNeeded]
  split
  · rfl
  · rw [hrelease]
    cases ht : d.releaseTime? with
    | none => rfl
    | some t =>
      have hle : t.rank ≤ time.rank := h t ht
      have hlt : ¬ time < t := Int.not_lt.mpr hle
      simpa using hlt

namespace Repository

open Depository.Action Depository.Store

/-! ### Attempts -/

/-- An attempt to export a dataset, and the failure that it ended with if it did. -/
structure ExportAttempt where
  dataset : Dataset
  failure : Option Failure

/-- The attempts to export datasets one after another, after `n` others. -/
def attemptsFrom (s : Surroundings) : Nat → List Dataset → List ExportAttempt
  | _, [] => []
  | n, d :: rest => ⟨d, (s.exporter n d).failure⟩ :: attemptsFrom s (n + 1) rest

/-- The datasets whose export succeeded. -/
def exported (attempts : List ExportAttempt) : List Dataset :=
  (attempts.filter fun a => a.failure.isNone).map (·.dataset)

/-- The datasets whose export failed, and how. -/
def failures (attempts : List ExportAttempt) : List DatasetFailure :=
  attempts.filterMap fun a => a.failure.map fun e => ⟨a.dataset.id, e.message⟩

private theorem datasets_attemptsFrom (s : Surroundings) (n : Nat) (l : List Dataset) :
    (attemptsFrom s n l).map (·.dataset) = l := by
  induction l generalizing n with
  | nil => rfl
  | cons d rest ih => rw [attemptsFrom, List.map_cons, ih]

private theorem attemptsFrom_append (s : Surroundings) (n : Nat) (l m : List Dataset) :
    attemptsFrom s n (l ++ m) = attemptsFrom s n l ++ attemptsFrom s (n + l.length) m := by
  induction l generalizing n with
  | nil => rfl
  | cons d rest ih =>
    have hlength : n + 1 + rest.length = n + (d :: rest).length := by
      rw [List.length_cons]
      omega
    rw [List.cons_append, attemptsFrom, ih, hlength]
    rfl

private theorem exported_sublist (s : Surroundings) (n : Nat) (l : List Dataset) :
    (exported (attemptsFrom s n l)).Sublist l := by
  have hsublist := (List.filter_sublist (l := attemptsFrom s n l)
    (p := fun a => a.failure.isNone)).map ExportAttempt.dataset
  rwa [datasets_attemptsFrom] at hsublist

/-- Every attempt is a success or a failure. -/
private theorem length_exported_failures (attempts : List ExportAttempt) :
    (exported attempts).length + (failures attempts).length = attempts.length := by
  induction attempts with
  | nil => rfl
  | cons a rest ih =>
    obtain ⟨d, failure⟩ := a
    cases failure with
    | none =>
      have hexported : exported (⟨d, none⟩ :: rest) = d :: exported rest := rfl
      have hfailures : failures (⟨d, none⟩ :: rest) = failures rest := rfl
      rw [hexported, hfailures, List.length_cons, List.length_cons]
      omega
    | some e =>
      have hexported : exported (⟨d, some e⟩ :: rest) = exported rest := rfl
      have hfailures : failures (⟨d, some e⟩ :: rest) = ⟨d.id, e.message⟩ :: failures rest := rfl
      rw [hexported, hfailures, List.length_cons, List.length_cons]
      omega

private theorem exported_append (l m : List ExportAttempt) :
    exported (l ++ m) = exported l ++ exported m := by
  simp only [exported, List.filter_append, List.map_append]

private theorem failures_append (l m : List ExportAttempt) :
    failures (l ++ m) = failures l ++ failures m :=
  List.filterMap_append

/-- The counts after some attempts and some datasets that were skipped. -/
def counted (attempts : List ExportAttempt) (skipped : Nat) (r : RunSummary) : RunSummary :=
  { r with
    processed := r.processed + attempts.length
    succeeded := r.succeeded + (exported attempts).length
    failed := r.failed + (failures attempts).length
    skipped := r.skipped + skipped
    failures := r.failures ++ failures attempts }

private theorem counted_counted (l m : List ExportAttempt) (i j : Nat) (r : RunSummary) :
    counted m j (counted l i r) = counted (l ++ m) (i + j) r := by
  simp only [counted, exported_append, failures_append, List.length_append, List.append_assoc,
    Nat.add_assoc]

/-- From the start on, every dataset is counted once. -/
private theorem counted_start {attempts : List ExportAttempt} {skipped listed : Nat}
    (h : attempts.length + skipped = listed) (r : RunSummary)
    (hr : r = counted attempts skipped (.start listed)) :
    r.total = r.succeeded + r.failed + r.skipped ∧ r.processed = r.succeeded + r.failed := by
  have hlengths := length_exported_failures attempts
  subst hr
  simp only [counted, RunSummary.start]
  omega

private theorem map_dataset_failures (attempts : List ExportAttempt) :
    (failures attempts).map (·.dataset) =
      (attempts.filter fun a => a.failure.isSome).map (·.dataset.id) := by
  induction attempts with
  | nil => rfl
  | cons a rest ih =>
    obtain ⟨d, failure⟩ := a
    cases failure with
    | none => exact ih
    | some e => exact congrArg (d.id :: ·) ih

/-! ### One visit -/

theorem run_findDataset?_of_steady {s : Surroundings} (hs : s.Steady) (id : DatasetId) (w : World) :
    (findDataset? id).run s w =
      (.ok (w.store.findDataset? id), w.record (.store .findDataset false)) := by
  simp [findDataset?, run, askStore, callStore, hs.outage, hs.vanished, Except.mapError, World.record]

theorem run_localDatasetIds {s : Surroundings} (hs : s.Steady) (w : World) :
    localDatasetIds.run s w =
      (.ok (w.store.localDatasets.map (·.id)), w.record (.store .localDatasets false)) := by
  simp [localDatasetIds, run, askStore, callStore, hs.outage, Except.mapError,
    Store.localDatasetIds, localDatasets, World.record]

theorem run_exportFormats (d : Dataset) (s : Surroundings) (w : World) :
    ∃ v, (exportFormats d).run s w =
        ((s.exporter w.exportCalls.length d).failure.elim (.ok ()) .error, v) ∧
      v.store = w.store ∧ v.clock = w.clock ∧ v.exportCalls = w.exportCalls ++ [d.id] := by
  obtain ⟨exports, hwritten⟩ :=
    foldl_putExport (s.exporter w.exportCalls.length d).written (w.record (.exporting d.id))
  refine ⟨{ w.record (.exporting d.id) with exports }, ?_, rfl, rfl, ?_⟩
  · change (exportFormats d) s w = _
    simp only [exportFormats, World.count_isExporting, hwritten]
    cases (s.exporter w.exportCalls.length d).failure <;> rfl
  · simp [World.exportCalls, World.record, Event.exported?]

theorem run_stampExport {s : Surroundings} (hs : s.Steady) {d : Dataset} {w : World}
    (hd : w.store.findDataset? d.id = some d) (time : Time.Instant) :
    (stampExport d.id time).run s w =
      (.ok (), { w.record (.store .stampExport false) with store := w.store.stamp d time }) := by
  apply run_changeStore_of_ok (hs.outage _ _)
  simp only [setLastExportTime, hd]
  rfl

/-- An export that succeeds is stamped by the clock. -/
theorem run_exportOne {s : Surroundings} (hs : s.Steady) {d : Dataset} {w : World}
    (hd : w.store.findDataset? d.id = some d) :
    let failure := (s.exporter w.exportCalls.length d).failure
    ∃ v, (exportOne d).run s w = (failure.elim (.ok ()) .error, v) ∧
      v.exportCalls = w.exportCalls ++ [d.id] ∧
      v.store = w.store.stampAll w.clock (exported [⟨d, failure⟩]) ∧
      v.clock = w.clock.drop (exported [⟨d, failure⟩]).length := by
  intro failure
  obtain ⟨u, hexport, hstore, hclock, hcalls⟩ := run_exportFormats d s w
  change (exportFormats d).run s w = (failure.elim (.ok ()) .error, u) at hexport
  cases hfailure : failure with
  | some e =>
    rw [hfailure] at hexport
    exact ⟨u, run_bind_of_error hexport, hcalls, hstore, hclock⟩
  | none =>
    rw [hfailure] at hexport
    let read : World := { u with clock := u.clock.drop 1 }
    have hstored : read.store.findDataset? d.id = some d := by
      show u.store.findDataset? d.id = _
      rw [hstore, hd]
    have hstamp := run_stampExport hs hstored u.clock.next
    refine ⟨{ read.record (.store .stampExport false) with
      store := read.store.stamp d u.clock.next }, ?_, ?_, ?_, ?_⟩
    · unfold exportOne
      rw [run_bind_of_ok hexport]
      exact hstamp
    · show (read.record _).exportCalls = _
      rw [World.exportCalls_record rfl]
      exact hcalls
    · show u.store.stamp d u.clock.next = _
      rw [hstore, hclock]
      rfl
    · show u.clock.drop 1 = _
      rw [hclock]
      rfl

/-! ### The visits -/

/-- What visiting the datasets of a list one after another leads to. -/
structure Visited (s : Surroundings) (force : Bool) (l : List Dataset) (w v : World)
    (before after : RunSummary) : Prop where
  calls : v.exportCalls = w.exportCalls ++ (Export.due force l).map (·.id)
  store : v.store = w.store.stampAll w.clock
    (exported (attemptsFrom s w.exportCalls.length (Export.due force l)))
  clock : v.clock = w.clock.drop
    (exported (attemptsFrom s w.exportCalls.length (Export.due force l))).length
  summary : after = counted (attemptsFrom s w.exportCalls.length (Export.due force l))
    (l.filter fun d => !Export.isNeeded d force).length before

theorem Visited.append {s : Surroundings} {force : Bool} {l m : List Dataset} {w v u : World}
    {a b c : RunSummary} (hl : Visited s force l w v a b) (hm : Visited s force m v u b c) :
    Visited s force (l ++ m) w u a c := by
  have hdue : Export.due force (l ++ m) = Export.due force l ++ Export.due force m :=
    List.filter_append ..
  have hlength : v.exportCalls.length = w.exportCalls.length + (Export.due force l).length := by
    rw [hl.calls, List.length_append, List.length_map]
  have hattempts : attemptsFrom s w.exportCalls.length (Export.due force (l ++ m)) =
      attemptsFrom s w.exportCalls.length (Export.due force l) ++
        attemptsFrom s v.exportCalls.length (Export.due force m) := by
    rw [hdue, attemptsFrom_append, hlength]
  refine ⟨?_, ?_, ?_, ?_⟩
  · rw [hm.calls, hl.calls, hdue, List.map_append, List.append_assoc]
  · rw [hm.store, hl.store, hl.clock, hattempts, exported_append, stampAll_append]
  · rw [hm.clock, hl.clock, hattempts, exported_append, List.length_append]
    simp only [Supply.drop, Nat.add_assoc]
  · rw [hm.summary, hl.summary, counted_counted, hattempts, List.filter_append, List.length_append]

theorem run_visitForExport_of_needed {s : Surroundings} (hs : s.Steady) {force : Bool} {d : Dataset}
    {w : World} (hd : w.store.findDataset? d.id = some d)
    (hneeded : Export.isNeeded d force = true) (before : RunSummary) :
    ∃ visit v, (visitForExport force d.id).run s w = (.ok visit, v) ∧
      Visited s force [d] w v before (visit.count d.id before) := by
  have hfind := run_outcome (run_findDataset?_of_steady hs d.id w)
  rw [hd] at hfind
  let found := w.record (.store .findDataset false)
  have hcalls : found.exportCalls = w.exportCalls := World.exportCalls_record rfl w
  let failure := (s.exporter w.exportCalls.length d).failure
  have hdue : Export.due force [d] = [d] := by simp [Export.due, hneeded]
  have hattempts : attemptsFrom s w.exportCalls.length (Export.due force [d]) =
      [⟨d, failure⟩] := by
    rw [hdue]
    rfl
  obtain ⟨v, hexport, hcalls', hstore, hclock⟩ := run_exportOne (w := found) hs hd
  rw [hcalls] at hexport hcalls' hstore hclock
  have hvisited (after : RunSummary) (hafter : after = counted [⟨d, failure⟩] 0 before) :
      Visited s force [d] w v before after := by
    refine ⟨?_, ?_, ?_, ?_⟩
    · rw [hdue]
      exact hcalls'
    · rw [hattempts]
      exact hstore
    · rw [hattempts]
      exact hclock
    · rw [hattempts, hafter]
      simp [hneeded]
  unfold visitForExport
  rw [run_bind_of_ok hfind]
  simp only [hneeded, if_true]
  rw [run_bind_of_ok (run_outcome hexport)]
  cases hfailure : failure with
  | some e =>
    refine ⟨.failed e, v, ?_, hvisited _ ?_⟩
    · rw [show (s.exporter w.exportCalls.length d).failure = some e from hfailure]
      rfl
    · rw [hfailure]
      rfl
  | none =>
    refine ⟨.succeeded, v, ?_, hvisited _ ?_⟩
    · rw [show (s.exporter w.exportCalls.length d).failure = none from hfailure]
      rfl
    · rw [hfailure]
      simp [counted, exported, failures, Visit.count, RunSummary.addSuccess]

theorem run_visitForExport_of_current {s : Surroundings} (hs : s.Steady) {force : Bool}
    {d : Dataset} {w : World} (hd : w.store.findDataset? d.id = some d)
    (hcurrent : Export.isNeeded d force = false) (before : RunSummary) :
    ∃ v, (visitForExport force d.id).run s w = (.ok .skipped, v) ∧
      Visited s force [d] w v before (Visit.skipped.count d.id before) := by
  have hfind := run_outcome (run_findDataset?_of_steady hs d.id w)
  rw [hd] at hfind
  have hdue : Export.due force [d] = [] := by simp [Export.due, hcurrent]
  refine ⟨w.record (.store .findDataset false), ?_, ?_, ?_, ?_, ?_⟩
  · unfold visitForExport
    rw [run_bind_of_ok hfind]
    simp only [hcurrent]
    rfl
  · rw [World.exportCalls_record rfl, hdue]
    exact (List.append_nil _).symm
  · rw [hdue]
    rfl
  · rw [hdue]
    rfl
  · rw [hdue]
    simp [counted, attemptsFrom, exported, failures, Visit.count, RunSummary.addSkipped, hcurrent]

/-- A dataset is exported if it is due, and skipped otherwise. -/
theorem run_visitForExport {s : Surroundings} (hs : s.Steady) (force : Bool) {d : Dataset}
    {w : World} (hd : w.store.findDataset? d.id = some d) (before : RunSummary) :
    ∃ visit v, (visitForExport force d.id).run s w = (.ok visit, v) ∧
      Visited s force [d] w v before (visit.count d.id before) := by
  cases hneeded : Export.isNeeded d force with
  | true => exact run_visitForExport_of_needed hs hd hneeded before
  | false => exact ⟨.skipped, run_visitForExport_of_current hs hd hneeded before⟩

/-- The datasets still to be visited are found as they were listed, since only those before them
were stamped. -/
theorem run_visitAll {s : Surroundings} (hs : s.Steady) (force : Bool) {l : List Dataset}
    (hl : (l.map (·.id)).Nodup) {w : World}
    (hstored : ∀ d ∈ l, w.store.findDataset? d.id = some d) (before : RunSummary) :
    ∃ after v, (visitAll (visitForExport force) (l.map (·.id)) before).run s w = (.ok after, v) ∧
      Visited s force l w v before after := by
  induction l generalizing w before with
  | nil =>
    refine ⟨before, w, rfl, ?_, rfl, rfl, ?_⟩
    · exact (List.append_nil _).symm
    · simp [counted, Export.due, attemptsFrom, exported, failures]
  | cons d rest ih =>
    rw [List.map_cons, List.nodup_cons] at hl
    obtain ⟨hd, hrest⟩ := List.forall_mem_cons.mp hstored
    obtain ⟨visit, u, hvisit, hvisited⟩ := run_visitForExport hs force hd before
    have hkept : ∀ e ∈ rest, u.store.findDataset? e.id = some e := by
      intro e he
      rw [hvisited.store, findDataset?_stampAll_of_notMem, hrest e he]
      intro c hc hce
      have hmem : c ∈ [d] := List.mem_of_mem_filter ((exported_sublist s _ _).subset hc)
      rw [List.mem_singleton.mp hmem] at hce
      exact hl.1 (hce ▸ List.mem_map_of_mem he)
    obtain ⟨after, v, hrun, hrested⟩ := ih hl.2 hkept (visit.count d.id before)
    refine ⟨after, v, ?_, hvisited.append hrested⟩
    show (visitForExport force d.id >>= _).run s w = _
    rw [run_bind_of_ok hvisit]
    exact hrun

/-! ### The run -/

/-- Between two worlds all local datasets were visited, as a summary says. -/
structure ExportRun (s : Surroundings) (force : Bool) (w v : World) (summary : RunSummary)
    (attempts : List ExportAttempt) : Prop where
  attempted : attempts = attemptsFrom s (w.count Event.isExporting) (w.store.due force)
  calls : v.exportCalls = w.exportCalls ++ (w.store.due force).map (·.id)
  once : ((w.store.due force).map (·.id)).Nodup
  total : summary.total = w.store.localDatasets.length
  partition : summary.total = summary.succeeded + summary.failed + summary.skipped
  processed : summary.processed = summary.succeeded + summary.failed
  succeeded : summary.succeeded = (exported attempts).length
  failed : summary.failed = (failures attempts).length
  failures : summary.failures = failures attempts
  stamped : ∀ (k : Nat) (d : Dataset), (exported attempts)[k]? = some d →
    v.store.findDataset? d.id = some { d with lastExportTime := some (w.clock.ahead k) }
  others : ∀ id, (∀ d ∈ exported attempts, d.id ≠ id) →
    v.store.findDataset? id = w.store.findDataset? id
  rest : v.store = { w.store with datasets := v.store.datasets }

theorem run_exportAll {s : Surroundings} (hs : s.Steady) {w : World} (hw : w.store.Keyed)
    (force : Bool) :
    ∃ summary v, (exportAll force).run s w = (.ok summary, v) ∧ v.store.Keyed ∧
      ExportRun s force w v summary
        (attemptsFrom s (w.count Event.isExporting) (w.store.due force)) := by
  let listed := w.record (.store .localDatasets false)
  have hcalls : listed.exportCalls = w.exportCalls := World.exportCalls_record rfl w
  have hlocal : w.store.localDatasets.Sublist w.store.datasets.values := List.filter_sublist
  have hnodup := nodup_of_inOrder (hw.ids_inOrder hlocal)
  have hdue := nodup_of_inOrder (hw.ids_inOrder (w.store.due_sublist force))
  have hstored : ∀ d ∈ w.store.localDatasets, listed.store.findDataset? d.id = some d := by
    intro d hd
    obtain ⟨id, hid⟩ := Table.mem_values.mp (hlocal.subset hd)
    have hkey : d.id = id := hw id d hid
    rw [hkey]
    exact hid
  obtain ⟨summary, v, hrun, hvisited⟩ := run_visitAll hs force hnodup hstored
    (.start (w.store.localDatasets.map (·.id)).length)
  obtain ⟨hcalled, hstore, -, hsummary⟩ := hvisited
  rw [hcalls] at hcalled hstore hsummary
  change summary = counted (attemptsFrom s w.exportCalls.length (w.store.due force)) _ _
    at hsummary
  rw [w.count_isExporting]
  have hexported := ((exported_sublist s w.exportCalls.length (w.store.due force)).map
    (·.id)).nodup hdue
  have hparts : (attemptsFrom s w.exportCalls.length (w.store.due force)).length +
      (w.store.localDatasets.filter fun d => !Export.isNeeded d force).length =
        (w.store.localDatasets.map (·.id)).length := by
    rw [← List.length_map ExportAttempt.dataset, datasets_attemptsFrom, List.length_map]
    exact (List.length_eq_length_filter_add fun d => Export.isNeeded d force).symm
  obtain ⟨hpartition, hprocessed⟩ := counted_start hparts summary hsummary
  refine ⟨summary, v, ?_, ?_, ?_⟩
  · show (localDatasetIds >>= _).run s w = _
    rw [run_bind_of_ok (run_localDatasetIds hs w)]
    exact hrun
  · rw [hstore]
    exact hw.stampAll _ _
  · refine ⟨?_, hcalled, hdue, ?_, hpartition, hprocessed, ?_, ?_, ?_, ?_, ?_, ?_⟩
    · rw [w.count_isExporting]
    · rw [hsummary]
      exact List.length_map _
    · rw [hsummary]
      exact Nat.zero_add _
    · rw [hsummary]
      exact Nat.zero_add _
    · rw [hsummary]
      exact List.nil_append _
    · intro k d hk
      rw [hstore]
      exact findDataset?_stampAll hexported w.clock w.store hk
    · intro id hid
      rw [hstore]
      exact findDataset?_stampAll_of_notMem hid w.clock w.store
    · rw [hstore]
      exact stampAll_rest w.clock _ w.store

section

variable {s : Surroundings} {w v : World} {summary : RunSummary} {attempts : List ExportAttempt}

theorem ExportRun.datasets (h : ExportRun s false w v summary attempts) :
    attempts.map (·.dataset) = w.store.due false := by
  rw [h.attempted, datasets_attemptsFrom]

theorem ExportRun.ids (h : ExportRun s false w v summary attempts) :
    attempts.map (·.dataset.id) = (w.store.due false).map (·.id) := by
  rw [← h.datasets, List.map_map]
  rfl

/-- A dataset that was exported is up to date by its stamp. -/
private theorem ExportRun.ne_of_due (h : ExportRun s false w v summary attempts)
    (hreleases : ∀ (k : Nat) (d : Dataset) (t : Time.Instant),
      (exported attempts)[k]? = some d → d.releaseTime? = some t → t ≤ w.clock.ahead k)
    {d e : Dataset} (hd : v.store.findDataset? d.id = some d)
    (hneeded : Export.isNeeded d false = true) (he : e ∈ exported attempts) : e.id ≠ d.id := by
  intro hid
  obtain ⟨k, hk⟩ := List.getElem?_of_mem he
  have hsame : v.store.findDataset? e.id = some d := by rw [hid, hd]
  have hstamped := Option.some.inj (hsame.symm.trans (h.stamped k e hk))
  rw [hstamped, Export.isNeeded_stamped fun t ht => hreleases k e t hk ht] at hneeded
  cases hneeded

/-- No dataset was tried twice, so one that failed was not exported. -/
private theorem ExportRun.ne_of_failed (h : ExportRun s false w v summary attempts)
    {a : ExportAttempt} (ha : a ∈ attempts) (hfailed : a.failure.isSome = true) {e : Dataset}
    (he : e ∈ exported attempts) : e.id ≠ a.dataset.id := by
  intro hid
  obtain ⟨b, hb, rfl⟩ := List.mem_map.mp he
  obtain ⟨hb, hsucceeded⟩ := List.mem_filter.mp hb
  have hsame : b = a := List.inj_on_of_nodup_map (h.ids ▸ h.once) hb ha hid
  rw [hsame, Option.isNone_iff_eq_none] at hsucceeded
  rw [hsucceeded] at hfailed
  cases hfailed

/-- After a run whose stamps are not before the releases, the datasets are due that failed. -/
private theorem due_of_exportRun (h : ExportRun s false w v summary attempts) (hw : w.store.Keyed)
    (hv : v.store.Keyed)
    (hreleases : ∀ (k : Nat) (d : Dataset) (t : Time.Instant),
      (exported attempts)[k]? = some d → d.releaseTime? = some t → t ≤ w.clock.ahead k) :
    (v.store.due false).map (·.id) = (failures attempts).map (·.dataset) := by
  rw [map_dataset_failures]
  apply Table.eq_of_inOrder (hv.ids_inOrder (v.store.due_sublist false))
  · have hsublist := (List.filter_sublist (l := attempts)
      (p := fun a => a.failure.isSome)).map (·.dataset.id)
    apply List.Pairwise.sublist hsublist
    rw [h.ids]
    exact hw.ids_inOrder (w.store.due_sublist false)
  · intro id
    rw [List.mem_map, List.mem_map]
    constructor
    · rintro ⟨d, hd, rfl⟩
      obtain ⟨hfound, hneeded⟩ := (mem_due hv).mp hd
      have hother : ∀ e ∈ exported attempts, e.id ≠ d.id := fun e he =>
        h.ne_of_due hreleases hfound hneeded he
      have hbefore : d ∈ w.store.due false := by
        rw [mem_due hw, ← h.others d.id hother]
        exact ⟨hfound, hneeded⟩
      rw [← h.datasets] at hbefore
      obtain ⟨a, ha, rfl⟩ := List.mem_map.mp hbefore
      refine ⟨a, List.mem_filter.mpr ⟨ha, ?_⟩, rfl⟩
      by_contra hnone
      have hexported : a.dataset ∈ exported attempts := by
        apply List.mem_map_of_mem
        exact List.mem_filter.mpr ⟨ha, by simpa using hnone⟩
      exact hother a.dataset hexported rfl
    · rintro ⟨a, ha, rfl⟩
      obtain ⟨ha, hfailed⟩ := List.mem_filter.mp ha
      have hdue : a.dataset ∈ w.store.due false := h.datasets ▸ List.mem_map_of_mem ha
      have hother : ∀ e ∈ exported attempts, e.id ≠ a.dataset.id := fun e he =>
        h.ne_of_failed ha hfailed he
      obtain ⟨hfound, hneeded⟩ := (mem_due hw).mp hdue
      exact ⟨a.dataset, (mem_due hv).mpr ⟨(h.others _ hother).trans hfound, hneeded⟩, rfl⟩

end

/-- A run over any store whose datasets stand under their identities, however the exporter answers,
calls the exporter once for each dataset that is due, counts every local dataset once, lists those
that failed in order, and stamps those that did not and nothing else. If it was not forced and its
stamps are not before the releases of what it exported, the run after it calls the exporter for
those that failed. -/
theorem exports_account_and_converge {s : Surroundings} (hs : s.Steady) {w : World}
    (hw : w.store.Keyed) (force : Bool) :
    ∃ summary v attempts, (exportAll force).run s w = (.ok summary, v) ∧
      ExportRun s force w v summary attempts ∧
      (force = false →
        (∀ (k : Nat) (d : Dataset) (t : Time.Instant),
          (exported attempts)[k]? = some d → d.releaseTime? = some t → t ≤ w.clock.ahead k) →
        ∀ s' : Surroundings, s'.Steady →
          ∃ summary' v', (exportAll false).run s' v = (.ok summary', v') ∧
            v'.exportCalls = v.exportCalls ++ summary.failures.map (·.dataset)) := by
  obtain ⟨summary, v, hrun, hv, hexports⟩ := run_exportAll hs hw force
  refine ⟨summary, v, _, hrun, hexports, ?_⟩
  intro hforce hreleases s' hs'
  subst hforce
  obtain ⟨summary', v', hrun', -, hexports'⟩ := run_exportAll hs' hv false
  refine ⟨summary', v', hrun', ?_⟩
  rw [hexports'.calls, due_of_exportRun hexports hw hv hreleases, hexports.failures]

/-! ### A dataset that cannot be exported -/

/-- A dataset that was released when the clock stood at its start. -/
def releasedAs (n : Nat) : Dataset :=
  { (titled .released "Tides").mapLatest fun v => { v with releaseTime := some .epoch } with
    id := ⟨⟨n⟩⟩ }

/-- Two released datasets, a draft, and a released dataset that was harvested. -/
def catalogue : World :=
  { emptyWorld with
    store := (Store.empty true).performAll
      [.commit (.merge (releasedAs 1)), .commit (.merge (releasedAs 2)),
        .commit (.merge { titled .draft "Waves" with id := ⟨⟨4⟩⟩ }),
        .commit (.merge { releasedAs 5 with harvested := true })] }

/-- An exporter that fails for one dataset. -/
def partlyFailing : Surroundings :=
  { calmSurroundings with
    exporter := fun _ d =>
      ⟨[], if d.id = ⟨⟨1⟩⟩ then some (.exporting "no space left") else none⟩ }

theorem exports_converge_when_one_failed :
    ∃ summary v summary' v', (exportAll false).run partlyFailing catalogue = (.ok summary, v) ∧
      summary.total = 3 ∧ summary.succeeded = 1 ∧ summary.skipped = 1 ∧
      summary.failures.map (·.dataset) = [⟨⟨1⟩⟩] ∧
      (exportAll false).run partlyFailing v = (.ok summary', v') ∧
      v'.exportCalls = [⟨⟨1⟩⟩, ⟨⟨2⟩⟩, ⟨⟨1⟩⟩] := by
  have hsteady : partlyFailing.Steady := ⟨fun _ _ => rfl, fun _ => rfl⟩
  have hreachable : catalogue.store.Reachable := ⟨true, _, rfl⟩
  obtain ⟨summary, v, attempts, hrun, hexports, hagain⟩ :=
    exports_account_and_converge hsteady hreachable.keyed false
  have hattempts := hexports.attempted
  have hreleases : (exported attempts).all (fun d => d.releaseTime? == some .epoch) = true := by
    rw [hattempts]
    decide +kernel
  have hclock (k : Nat) (d : Dataset) (t : Time.Instant) (hk : (exported attempts)[k]? = some d)
      (ht : d.releaseTime? = some t) : t ≤ catalogue.clock.ahead k := by
    have hd := List.all_eq_true.mp hreleases d (List.mem_of_getElem? hk)
    rw [ht] at hd
    have hepoch : t = .epoch := by simpa using hd
    rw [hepoch]
    exact Int.le_refl _
  obtain ⟨summary', v', hrun', hcalls⟩ := hagain rfl hclock partlyFailing hsteady
  have hsummary : ((exportAll false).run partlyFailing catalogue).1.toOption =
      some ⟨3, 2, 1, 1, 1, [⟨⟨⟨1⟩⟩, (Failure.exporting "no space left").message⟩]⟩ := by
    decide +kernel
  have hfirst : catalogue.exportCalls ++ (catalogue.store.due false).map (·.id) =
      [⟨⟨1⟩⟩, ⟨⟨2⟩⟩] := by decide +kernel
  rw [hrun] at hsummary
  cases hsummary
  rw [hexports.calls, hfirst] at hcalls
  exact ⟨_, v, summary', v', hrun, rfl, rfl, rfl, rfl, hrun', hcalls⟩

end Repository

end Depository
