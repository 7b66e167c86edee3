import Depository.Proofs.Dataset.Editing
import Depository.Proofs.Store.Lookups

/-!
# Stamps of exports

An export stamps the stored dataset, and a commit puts another one in its place, stamp and all. So
a stamp is taken back by exactly those commits that come with none or an earlier one. A copy that
was read after the last stamp brings it along; one that was read before takes it back.
-/

namespace Depository

open Dataset

private theorem Dataset.lastExportTime_openDraft (d : Dataset) (ids : Supply Uuid) :
    (d.openDraft ids).1.lastExportTime = d.lastExportTime := by
  simp only [openDraft]
  split
  · rfl
  · split <;> rfl

/-- No edit stamps a dataset or takes its stamp. -/
private theorem Dataset.lastExportTime_edit (d : Dataset) (e : Edit) :
    (e.apply d).lastExportTime = d.lastExportTime := by
  cases e with
  | editDraft ids change => exact lastExportTime_openDraft d ids
  | addFile ids file label => exact lastExportTime_openDraft _ _
  | addToCategory id name =>
    simp only [Edit.apply, addToCategory]
    split <;> rfl
  | removeDraftRecord id =>
    simp only [Edit.apply, removeDraftRecord]
    split <;> rfl
  | setThumbnail file =>
    simp only [Edit.apply, setThumbnail]
    split <;> rfl
  | removeThumbnail => rfl
  | release time minor =>
    simp only [Edit.apply, releaseDraft]
    split <;> rfl

namespace Store

/-- When a dataset was last exported, as far as the store knows. -/
def exportTime? (s : Store) (id : DatasetId) : Option Time.Instant :=
  (s.findDataset? id).bind (·.lastExportTime)

/-- A stamp gives way at most to a later one. -/
def StampKept (before after : Option Time.Instant) : Prop :=
  ∀ t, before = some t → ∃ u, after = some u ∧ t ≤ u

theorem StampKept.refl (stamp : Option Time.Instant) : StampKept stamp stamp :=
  fun t ht => ⟨t, ht, Int.le_refl _⟩

private theorem exportTime?_of_datasets {s t : Store} (h : t.datasets = s.datasets)
    (id : DatasetId) :
    t.exportTime? id = s.exportTime? id := by
  unfold exportTime? findDataset?
  rw [h]

private theorem exportTime?_applyWork (s : Store) (work : UnitOfWork) (id : DatasetId) :
    (s.applyWork work).exportTime? id =
      if id = work.dataset.id then work.dataset.lastExportTime else s.exportTime? id := by
  unfold exportTime?
  rw [findDataset?_applyWork]
  split <;> rfl

private theorem exportTime?_stamped {s : Store} {id id' : DatasetId} {d : Dataset}
    {time : Time.Instant} :
    exportTime? { s with
      datasets := s.datasets.insert id' { d with lastExportTime := some time } } id =
        if id = id' then some time else s.exportTime? id := by
  unfold exportTime? findDataset?
  rw [Table.get?_insert]
  split <;> rfl

/-- The three things that an operation may do to the stamp of a dataset. -/
private theorem exportTime?_perform (s : Store) (op : Operation) (id : DatasetId) :
    (∃ work, op = .commit work ∧ s.Admits work ∧ work.dataset.id = id ∧
      (s.perform op).exportTime? id = work.dataset.lastExportTime) ∨
    (∃ time, op = .setLastExportTime id time ∧ (s.perform op).exportTime? id = some time) ∨
    (s.perform op).exportTime? id = s.exportTime? id := by
  cases happly : op.apply s with
  | error e =>
    rw [perform_of_error happly]
    exact Or.inr (Or.inr rfl)
  | ok t =>
    rw [perform_of_ok happly]
    rcases apply_cases happly with
      ⟨work, hop, hadmits, rfl⟩ | ⟨id', time, d, hop, -, rfl⟩ | hlocks | ⟨hdatasets, -, -⟩
    · by_cases hid : id = work.dataset.id
      · exact Or.inl ⟨work, hop, hadmits, hid.symm, by rw [exportTime?_applyWork, if_pos hid]⟩
      · exact Or.inr (Or.inr (by rw [exportTime?_applyWork, if_neg hid]))
    · by_cases hid : id = id'
      · subst hid
        exact Or.inr (Or.inl ⟨time, hop, by rw [exportTime?_stamped, if_pos rfl]⟩)
      · exact Or.inr (Or.inr (by rw [exportTime?_stamped, if_neg hid]))
    · exact Or.inr (Or.inr (exportTime?_of_datasets hlocks.datasets id))
    · exact Or.inr (Or.inr (exportTime?_of_datasets hdatasets id))

private theorem exportTime?_setLastExportTime {s : Store} {id : DatasetId} {d : Dataset}
    (hd : s.findDataset? id = some d) (time : Time.Instant) :
    (s.perform (.setLastExportTime id time)).exportTime? id = some time := by
  have happly : (Operation.setLastExportTime id time).apply s =
      .ok { s with datasets := s.datasets.insert id { d with lastExportTime := some time } } := by
    show s.setLastExportTime id time = _
    unfold setLastExportTime
    rw [hd]
  rw [perform_of_ok happly, exportTime?_stamped, if_pos rfl]

/-- The store after one operation more. -/
theorem performAll_take_succ {s : Store} {operations : List Operation} {n : Nat} {op : Operation}
    (h : operations[n]? = some op) :
    s.performAll (operations.take (n + 1)) = (s.performAll (operations.take n)).perform op := by
  rw [performAll, List.take_add_one, h, List.foldl_append]
  rfl

theorem performAll_take_succ_of_none {s : Store} {operations : List Operation} {n : Nat}
    (h : operations[n]? = none) :
    s.performAll (operations.take (n + 1)) = s.performAll (operations.take n) := by
  rw [List.take_add_one, h]
  simp

/-- From a stamp on a run, the dataset has a stamp as long as no commit takes it back. -/
private theorem isSome_exportTime? {s : Store} {operations : List Operation} {id : DatasetId}
    (hs : (s.exportTime? id).isSome = true)
    (hkeep : ∀ n work, operations[n]? = some (.commit work) →
      (s.performAll (operations.take n)).Admits work → work.dataset.id = id →
      StampKept ((s.performAll (operations.take n)).exportTime? id) work.dataset.lastExportTime)
    (n : Nat) : ((s.performAll (operations.take n)).exportTime? id).isSome = true := by
  induction n with
  | zero => simpa [performAll] using hs
  | succ n ih =>
    cases hn : operations[n]? with
    | none => rwa [performAll_take_succ_of_none hn]
    | some op =>
      rw [performAll_take_succ hn]
      rcases exportTime?_perform (s.performAll (operations.take n)) op id with
        ⟨work, rfl, hadmits, hid, hstamp⟩ | ⟨time, -, hstamp⟩ | hstamp
      · obtain ⟨t, ht⟩ := Option.isSome_iff_exists.mp ih
        obtain ⟨u, hu, -⟩ := hkeep n work hn hadmits hid t ht
        rw [hstamp, hu]
        rfl
      · rw [hstamp]
        rfl
      · rwa [hstamp]

/-- A unit of work brings the stamp of a copy that was read on a run since the last stamp. -/
def BuiltSinceStamp (run : Nat → Store) (operations : List Operation) (id : DatasetId) (n : Nat)
    (work : UnitOfWork) : Prop :=
  ∃ m copy, m ≤ n ∧ (run m).findDataset? id = some copy ∧
    work.dataset.lastExportTime = copy.lastExportTime ∧
    ∀ k, m ≤ k → k < n → ∀ time, operations[k]? ≠ some (.setLastExportTime id time)

/-- Where nothing is stamped and no commit moves the stamp, it stays. -/
private theorem exportTime?_of_quiet {s : Store} {operations : List Operation} {id : DatasetId}
    {m n : Nat} (hmn : m ≤ n)
    (hstamps : ∀ k, m ≤ k → k < n → ∀ time, operations[k]? ≠ some (.setLastExportTime id time))
    (hcommits : ∀ k, k < n → ∀ work, operations[k]? = some (.commit work) →
      (s.performAll (operations.take (k + 1))).exportTime? id =
        (s.performAll (operations.take k)).exportTime? id) :
    (s.performAll (operations.take n)).exportTime? id =
      (s.performAll (operations.take m)).exportTime? id := by
  induction hmn with
  | refl => rfl
  | @step n hmn ih =>
    have hbefore := ih (fun k hk hkn => hstamps k hk (Nat.lt_succ_of_lt hkn))
      (fun k hkn => hcommits k (Nat.lt_succ_of_lt hkn))
    rw [← hbefore]
    cases hn : operations[n]? with
    | none => rw [performAll_take_succ_of_none hn]
    | some op =>
      rcases exportTime?_perform (s.performAll (operations.take n)) op id with
        ⟨work, rfl, -⟩ | ⟨time, rfl, -⟩ | hsame
      · exact hcommits n (Nat.lt_succ_self n) work hn
      · exact absurd hn (hstamps n hmn (Nat.lt_succ_self n) time)
      · rw [performAll_take_succ hn, hsame]

/-- A commit of a copy that was read since the last stamp leaves the stamp as it is. -/
private theorem exportTime?_of_builtSinceStamp {s : Store} {operations : List Operation}
    {id : DatasetId}
    (hbuilt : ∀ n work, operations[n]? = some (.commit work) → work.dataset.id = id →
      BuiltSinceStamp (fun n => s.performAll (operations.take n)) operations id n work)
    (n : Nat) (work : UnitOfWork) (hn : operations[n]? = some (.commit work)) :
    (s.performAll (operations.take (n + 1))).exportTime? id =
      (s.performAll (operations.take n)).exportTime? id := by
  -- Between the copy and the commit only other commits could move the stamp: they come earlier.
  induction n using Nat.strongRecOn generalizing work with
  | ind n ih =>
    rw [performAll_take_succ hn]
    rcases exportTime?_perform (s.performAll (operations.take n)) (.commit work) id with
      ⟨work', hwork, -, hid, hstamp⟩ | ⟨time, hop, -⟩ | hsame
    · cases hwork
      obtain ⟨m, copy, hmn, hcopy, hbrought, hquiet⟩ := hbuilt n work hn hid
      have hread : (s.performAll (operations.take m)).exportTime? id = copy.lastExportTime := by
        simp [exportTime?, hcopy]
      rw [hstamp, hbrought, ← hread]
      exact (exportTime?_of_quiet hmn hquiet fun k hk work hwork => ih k hk work hwork).symm
    · cases hop
    · exact hsame

/-- From its stamp on, a dataset stays stamped and no commit takes a stamp back exactly if every
commit of it that is stored comes with a stamp that is not earlier. Commits of copies that were read
since the last stamp do not touch it at all. -/
theorem export_stamp_kept_iff {s : Store} {id : DatasetId} {d : Dataset}
    (hd : s.findDataset? id = some d) (time : Time.Instant) (later : List Operation) :
    let run (n : Nat) := (s.perform (.setLastExportTime id time)).performAll (later.take n)
    ((∀ n, ((run n).exportTime? id).isSome = true ∧
        ∀ work, later[n]? = some (.commit work) →
          StampKept ((run n).exportTime? id) ((run (n + 1)).exportTime? id)) ↔
      ∀ n work, later[n]? = some (.commit work) → (run n).Admits work → work.dataset.id = id →
        StampKept ((run n).exportTime? id) work.dataset.lastExportTime) ∧
    ((∀ n work, later[n]? = some (.commit work) → work.dataset.id = id →
        BuiltSinceStamp run later id n work) →
      ∀ n work, later[n]? = some (.commit work) →
        (run (n + 1)).exportTime? id = (run n).exportTime? id) := by
  intro run
  have hstart : ((s.perform (.setLastExportTime id time)).exportTime? id).isSome = true := by
    rw [exportTime?_setLastExportTime hd time]
    rfl
  refine ⟨⟨?_, ?_⟩, ?_⟩
  · intro hkept n work hn hadmits hid
    have hnext : (run (n + 1)).exportTime? id = work.dataset.lastExportTime := by
      show ((s.perform _).performAll (later.take (n + 1))).exportTime? id = _
      have hadmits' : ((s.perform (.setLastExportTime id time)).performAll
          (later.take n)).Admits work := hadmits
      rw [performAll_take_succ hn, perform_commit hadmits', exportTime?_applyWork, if_pos hid.symm]
    rw [← hnext]
    exact (hkept n).2 work hn
  · intro hbrought n
    refine ⟨isSome_exportTime? hstart hbrought n, ?_⟩
    intro work hn
    show StampKept _ (((s.perform _).performAll (later.take (n + 1))).exportTime? id)
    rw [performAll_take_succ hn]
    rcases exportTime?_perform (run n) (.commit work) id with
      ⟨work', hwork, hadmits, hid, hstamp⟩ | ⟨time', hop, -⟩ | hsame
    · cases hwork
      rw [show ((run n).perform (.commit work)).exportTime? id = _ from hstamp]
      exact hbrought n work hn hadmits hid
    · cases hop
    · rw [show ((run n).perform (.commit work)).exportTime? id = _ from hsame]
      exact .refl _
  · intro hbuilt
    exact exportTime?_of_builtSinceStamp hbuilt

/-! ### A stamp that is taken back -/

/-- A copy read after the stamp is edited and stored, and the stamp stays. -/
theorem export_stamp_kept_when_read_after :
    let tides := titled .released "Tides"
    let copy := { tides with lastExportTime := some .epoch }
    let s := (Store.empty true).performAll [.commit (.merge tides)]
    let later := [.nextSequence, .commit (.merge ((Edit.setThumbnail ⟨⟨3⟩⟩).apply copy))]
    s.findDataset? tides.id = some tides ∧
      ∀ n work, later[n]? = some (.commit work) →
        ((s.perform (.setLastExportTime tides.id .epoch)).performAll
            (later.take (n + 1))).exportTime? tides.id =
          ((s.perform (.setLastExportTime tides.id .epoch)).performAll
            (later.take n)).exportTime? tides.id := by
  intro tides copy s later
  have hd : s.findDataset? tides.id = some tides := rfl
  refine ⟨hd, (export_stamp_kept_iff hd .epoch later).2 ?_⟩
  intro n work hn hid
  match n, hn with
  | 1, hn =>
    cases hn
    refine ⟨0, copy, Nat.zero_le _, rfl, lastExportTime_edit copy _, ?_⟩
    intro k _ hk time
    have hzero : k = 0 := by omega
    subst hzero
    simp [later]

/-- A dataset is stamped, and the copy that was stored before the stamp is stored again. -/
theorem export_stamp_lost_to_stale_copy :
    let tides := titled .released "Tides"
    let s := (Store.empty true).performAll
      [.commit (.merge tides), .setLastExportTime tides.id .epoch]
    s.exportTime? tides.id = some .epoch ∧ s.Admits (.merge tides) ∧
      (s.perform (.commit (.merge tides))).exportTime? tides.id = none ∧
      ¬ StampKept (s.exportTime? tides.id)
        ((s.perform (.commit (.merge tides))).exportTime? tides.id) := by
  intro tides s
  have hstamp : s.exportTime? tides.id = some .epoch := by decide +kernel
  have hlost : (s.perform (.commit (.merge tides))).exportTime? tides.id = none := by
    decide +kernel
  have hadmits : s.Admits (.merge tides) := by
    rw [← commitFlaw?_eq_none_iff]
    decide +kernel
  refine ⟨hstamp, hadmits, hlost, ?_⟩
  intro hkept
  obtain ⟨u, hu, -⟩ := hkept .epoch hstamp
  rw [hlost] at hu
  cases hu

end Store

end Depository
