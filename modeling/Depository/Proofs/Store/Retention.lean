import Depository.Proofs.Store.Freezing

/-!
# Retained files

A commit compares the files it deletes with those of the dataset it stores. A released file
outlives a sequence of commits exactly if its dataset goes on listing it and no other dataset
deletes it; its own dataset can delete it only after a commit that dropped or unreleased it.
-/

namespace Depository

namespace Dataset

/-- All files of the given identity are released. -/
def HasReleasedOnly (d : Dataset) (x : DataFileId) : Prop :=
  ∀ f ∈ d.files, f.id = x → f.isReleased = true

end Dataset

namespace Store

/-- A file of the given identity is among those of a stored dataset. -/
def Owns (s : Store) (id : DatasetId) (x : DataFileId) : Prop :=
  ∃ d, s.findDataset? id = some d ∧ d.Owns x

/-- The stored dataset, if there is one, has released files of the given identity only. -/
def HasReleasedOnly (s : Store) (id : DatasetId) (x : DataFileId) : Prop :=
  ∀ d, s.findDataset? id = some d → d.HasReleasedOnly x

/-- A unit of work neither drops a file from its dataset nor deletes it in the name of another. -/
def Spares (w : UnitOfWork) (id : DatasetId) (x : DataFileId) : Prop :=
  (w.dataset.id = id → w.dataset.Owns x) ∧ (w.dataset.id ≠ id → x ∉ w.deletedFiles)

private theorem Spares.notMem {s : Store} {w : UnitOfWork} {id : DatasetId} {x : DataFileId}
    (h : Spares w id x) (ha : s.Admits w) : x ∉ w.deletedFiles := by
  by_cases hid : w.dataset.id = id
  · exact ha.notMem_of_owns (h.1 hid)
  · exact h.2 hid

private theorem owns_offer {s : Store} {w : UnitOfWork} {id : DatasetId} {x : DataFileId}
    (h : s.Owns id x) (hw : s.Admits w → Spares w id x) : (s.offer w).Owns id x := by
  by_cases ha : s.Admits w
  · rw [offer_of_admits ha]
    by_cases hid : w.dataset.id = id
    · exact ⟨w.dataset, by simp [hid], (hw ha).1 hid⟩
    · obtain ⟨d, hd, hx⟩ := h
      exact ⟨d, by simpa [Ne.symm hid] using hd, hx⟩
  · rwa [offer_of_not_admits ha]

private theorem count_offer {s : Store} {w : UnitOfWork} {id : DatasetId} {x : DataFileId}
    (hw : s.Admits w → Spares w id x) :
    (s.offer w).hardDeletedFiles.count x = s.hardDeletedFiles.count x := by
  by_cases ha : s.Admits w
  · rw [offer_of_admits ha]
    show (s.hardDeletedFiles ++ w.deletedFiles).count x = _
    rw [List.count_append, List.count_eq_zero.mpr ((hw ha).notMem ha), Nat.add_zero]
  · rw [offer_of_not_admits ha]

private theorem hasReleasedOnly_offer {s : Store} {w : UnitOfWork} {id : DatasetId} {x : DataFileId}
    (h : s.HasReleasedOnly id x) (hw : w.dataset.id = id → w.dataset.HasReleasedOnly x) :
    (s.offer w).HasReleasedOnly id x := by
  by_cases ha : s.Admits w
  · rw [offer_of_admits ha]
    intro d hd
    rw [findDataset?_applyWork] at hd
    split at hd
    · next hid =>
      cases hd
      exact hw hid.symm
    · exact h d hd
  · rwa [offer_of_not_admits ha]

/-- A file that an offer leaves where it was is spared by it. -/
private theorem spares_of_kept {s : Store} {w : UnitOfWork} {id : DatasetId} {x : DataFileId}
    (ha : s.Admits w) (howns : (s.offer w).Owns id x)
    (hcount : (s.offer w).hardDeletedFiles.count x = s.hardDeletedFiles.count x) :
    Spares w id x := by
  rw [offer_of_admits ha] at howns hcount
  refine ⟨fun hid => ?_, fun _ hdel => ?_⟩
  · obtain ⟨d, hd, hx⟩ := howns
    rw [findDataset?_applyWork, if_pos hid.symm] at hd
    cases hd
    exact hx
  · have hpos := List.count_pos_iff.mpr hdel
    have happ : (s.hardDeletedFiles ++ w.deletedFiles).count x = s.hardDeletedFiles.count x :=
      hcount
    rw [List.count_append] at happ
    omega

private theorem kept_offerAll {s : Store} {works : List UnitOfWork} {id : DatasetId}
    {x : DataFileId} (h : s.Owns id x)
    (hw : ∀ n w, works[n]? = some w → (s.offerAll (works.take n)).Admits w → Spares w id x)
    (n : Nat) :
    (s.offerAll (works.take n)).Owns id x ∧
      (s.offerAll (works.take n)).hardDeletedFiles.count x = s.hardDeletedFiles.count x := by
  induction n with
  | zero => exact ⟨by simpa [offerAll] using h, by simp [offerAll]⟩
  | succ n ih =>
    cases hn : works[n]? with
    | none => rwa [offerAll_take_succ_of_none hn]
    | some w =>
      rw [offerAll_take_succ hn]
      exact ⟨owns_offer ih.1 (hw n w hn), (count_offer (hw n w hn)).trans ih.2⟩

private theorem hasReleasedOnly_offerAll {s : Store} {works : List UnitOfWork} {id : DatasetId}
    {x : DataFileId} (h : s.HasReleasedOnly id x)
    (hw : ∀ w ∈ works, w.dataset.id = id → w.dataset.HasReleasedOnly x) (n : Nat) :
    (s.offerAll (works.take n)).HasReleasedOnly id x := by
  induction n with
  | zero => simpa [offerAll] using h
  | succ n ih =>
    cases hn : works[n]? with
    | none => rwa [offerAll_take_succ_of_none hn]
    | some w =>
      rw [offerAll_take_succ hn]
      exact hasReleasedOnly_offer ih (hw w (List.mem_of_getElem? hn))

/-- A dataset whose stored copy has the file only as released does not delete it. -/
private theorem Admits.not_owns_of_deleted {s : Store} {w : UnitOfWork} {id : DatasetId}
    {x : DataFileId} (ha : s.Admits w) (hid : w.dataset.id = id) (hrel : s.HasReleasedOnly id x)
    (hdel : x ∈ w.deletedFiles) : ¬ s.Owns id x := by
  rintro ⟨d, hd, hx⟩
  obtain ⟨f, hfile⟩ := hx.file?
  obtain ⟨hf, hfx⟩ := Dataset.file?_eq_some hfile
  have hunreleased := (ha.respects d (hid ▸ hd)).spares x hdel f hfile
  rw [hrel d hd f hf hfx] at hunreleased
  cases hunreleased

/-- In whatever order units of work reach a store that began empty, a released file stays with
its dataset and is not deleted for good exactly if every unit of work that is stored goes on
listing it, when it is one of its dataset, and does not delete it, when it is one of another. Of
its dataset's own units of work that have it as released if at all, only one that follows a unit
of work without it deletes it. -/
theorem released_file_kept_iff {hasSequence : Bool} {works later : List UnitOfWork}
    {id : DatasetId} {d : Dataset} {f : DataFile}
    (hd : ((Store.empty hasSequence).offerAll works).findDataset? id = some d)
    (hf : f ∈ d.files) (hrel : f.isReleased = true) :
    ((∀ n, ((Store.empty hasSequence).offerAll (works ++ later.take n)).Owns id f.id ∧
        ((Store.empty hasSequence).offerAll (works ++ later.take n)).hardDeletedFiles.count f.id =
          ((Store.empty hasSequence).offerAll works).hardDeletedFiles.count f.id) ↔
      ∀ n w, later[n]? = some w →
        ((Store.empty hasSequence).offerAll (works ++ later.take n)).Admits w →
        Spares w id f.id) ∧
    ((∀ g ∈ d.files, g.id = f.id → g = f) →
      (∀ w ∈ later, w.dataset.id = id → w.dataset.HasReleasedOnly f.id) →
      ∀ n w, later[n]? = some w →
        ((Store.empty hasSequence).offerAll (works ++ later.take n)).Admits w →
        w.dataset.id = id → f.id ∈ w.deletedFiles →
        ¬ ((Store.empty hasSequence).offerAll (works ++ later.take n)).Owns id f.id) := by
  simp only [offerAll_append]
  refine ⟨⟨fun hkept n w hn ha => ?_, fun hw => ?_⟩, fun hone hlater n w hn ha hid hdel => ?_⟩
  · have hnow := hkept n
    have hnext := hkept (n + 1)
    rw [offerAll_take_succ hn] at hnext
    exact spares_of_kept ha hnext.1 (hnext.2.trans hnow.2.symm)
  · exact kept_offerAll ⟨d, hd, f, hf, rfl⟩ hw
  · have hstart : ((Store.empty hasSequence).offerAll works).HasReleasedOnly id f.id := by
      intro e he g hg hgx
      cases hd.symm.trans he
      rw [hone g hg hgx]
      exact hrel
    exact ha.not_owns_of_deleted hid (hasReleasedOnly_offerAll hstart hlater n) hdel

/-! ### A file that is deleted -/

def chart : DataFile :=
  { DataFile.new ⟨⟨3⟩⟩ "text/csv" 9 "b021" with publicationDate := some .epoch }

def tidesWith (files : List DataFile) : Dataset := { titled .released "Tides" with files }

def otherDataset : Dataset := { titled .draft "Waves" with id := ⟨⟨4⟩⟩ }

/-- A released file is kept when its dataset is stored again with it, between other datasets. -/
theorem released_file_kept_when_listed :
    ((Store.empty true).offerAll [.merge (tidesWith [chart])]).findDataset? ⟨⟨1⟩⟩ =
        some (tidesWith [chart]) ∧
      ∀ n, ((Store.empty true).offerAll ([.merge (tidesWith [chart])] ++
          [.merge otherDataset, .merge (tidesWith [chart])].take n)).Owns ⟨⟨1⟩⟩ chart.id ∧
        ((Store.empty true).offerAll ([.merge (tidesWith [chart])] ++
          [.merge otherDataset, .merge (tidesWith [chart])].take n)).hardDeletedFiles.count
            chart.id =
          ((Store.empty true).offerAll [.merge (tidesWith [chart])]).hardDeletedFiles.count
            chart.id := by
  have hd : ((Store.empty true).offerAll [.merge (tidesWith [chart])]).findDataset? ⟨⟨1⟩⟩ =
      some (tidesWith [chart]) := rfl
  have hchart : chart ∈ (tidesWith [chart]).files := List.mem_singleton.mpr rfl
  refine ⟨hd, (released_file_kept_iff hd hchart rfl).1.mpr ?_⟩
  intro n w hw _
  have hw := List.mem_of_getElem? hw
  simp only [List.mem_cons, List.not_mem_nil, or_false] at hw
  rcases hw with rfl | rfl
  · exact ⟨fun hid => absurd hid (by decide), fun _ => List.not_mem_nil⟩
  · exact ⟨fun _ => ⟨chart, hchart, rfl⟩, fun _ => List.not_mem_nil⟩

/-- A released file is deleted for good in the name of another dataset, and in that of its own
dataset once a commit before has dropped it. -/
theorem released_file_deleted :
    let published := (Store.empty true).offerAll [.merge (tidesWith [chart])]
    published.findDataset? ⟨⟨1⟩⟩ = some (tidesWith [chart]) ∧ chart.isReleased = true ∧
      chart.id ∈ (published.offerAll [⟨otherDataset, [chart.id]⟩]).hardDeletedFiles ∧
      chart.id ∈ (published.offerAll
        [.merge (tidesWith []), ⟨tidesWith [], [chart.id]⟩]).hardDeletedFiles :=
  ⟨rfl, rfl, by decide, by decide⟩

end Store

end Depository
