import Depository.Proofs.Store.Commit

/-!
# Frozen versions

A commit compares each published version with the one of its identity in the staged dataset, so
its content outlives one commit. It outlives a sequence of them as long as no unit of work that
reopens the version, or follows one that does, changes it; nothing else can lose it.
-/

namespace Depository

namespace Dataset

/-- A version of the same identity and with the same fields and records is there. -/
def Holds (d : Dataset) (v : Version) : Prop :=
  ∃ u ∈ d.versions, u.id = v.id ∧ u.fields = v.fields ∧ u.fileMetadata = v.fileMetadata

/-- Such a version is there that is not a draft. -/
def HoldsPublished (d : Dataset) (v : Version) : Prop :=
  ∃ u ∈ d.versions, u.isDraft = false ∧
    u.id = v.id ∧ u.fields = v.fields ∧ u.fileMetadata = v.fileMetadata

end Dataset

/-- What replaces a dataset with a published version holds the content of that version. -/
theorem UnitOfWork.Respects.holds {w : UnitOfWork} {d : Dataset} {v : Version}
    (h : w.Respects d) (hv : d.HoldsPublished v) : w.dataset.Holds v := by
  obtain ⟨u, hu, hpub, hid, hfields, hrecords⟩ := hv
  obtain ⟨u', hfind, hfields', hrecords'⟩ := h.keeps u hu hpub
  have hid' : u'.id = u.id := by simpa using List.find?_some hfind
  exact ⟨u', List.mem_of_find?_eq_some hfind, hid'.trans hid, hfields'.trans hfields,
    hrecords'.trans hrecords⟩

namespace Store

/-- The content of a version is stored with a dataset. -/
def Holds (s : Store) (id : DatasetId) (v : Version) : Prop :=
  ∃ d, s.findDataset? id = some d ∧ d.Holds v

/-- The content of a version is stored with a dataset and published. -/
def HoldsPublished (s : Store) (id : DatasetId) (v : Version) : Prop :=
  ∃ d, s.findDataset? id = some d ∧ d.HoldsPublished v

private theorem holds_applyWork {s : Store} {w : UnitOfWork} {id : DatasetId} {v : Version}
    (h : s.Holds id v) (hw : w.dataset.id = id → w.dataset.Holds v) :
    (s.applyWork w).Holds id v := by
  by_cases hid : w.dataset.id = id
  · exact ⟨w.dataset, by simp [hid], hw hid⟩
  · obtain ⟨d, hd, hv⟩ := h
    exact ⟨d, by simpa [Ne.symm hid] using hd, hv⟩

/-- One offer keeps content that is published, and other content if the offered dataset does. -/
private theorem holds_offer {s : Store} {w : UnitOfWork} {id : DatasetId} {v : Version}
    (h : s.Holds id v)
    (hw : s.Admits w → w.dataset.id = id → ¬ s.HoldsPublished id v → w.dataset.Holds v) :
    (s.offer w).Holds id v := by
  by_cases ha : s.Admits w
  · rw [offer_of_admits ha]
    refine holds_applyWork h fun hid => ?_
    -- The comparison with the stored copy covers published content only.
    by_cases hpub : s.HoldsPublished id v
    · obtain ⟨d, hd, hv⟩ := hpub
      exact (ha.respects d (hid ▸ hd)).holds hv
    · exact hw ha hid hpub
  · rw [offer_of_not_admits ha]
    exact h

private theorem holdsPublished_offer {s : Store} {w : UnitOfWork} {id : DatasetId} {v : Version}
    (h : s.HoldsPublished id v)
    (hw : w.dataset.id = id → ∀ u ∈ w.dataset.versions, u.id = v.id → u.isDraft = false) :
    (s.offer w).HoldsPublished id v := by
  by_cases ha : s.Admits w
  · rw [offer_of_admits ha]
    obtain ⟨d, hd, hv⟩ := h
    by_cases hid : w.dataset.id = id
    · obtain ⟨u, hu, huid, hsame⟩ := (ha.respects d (hid ▸ hd)).holds hv
      exact ⟨w.dataset, by simp [hid], u, hu, hw hid u hu huid, huid, hsame⟩
    · exact ⟨d, by simpa [Ne.symm hid] using hd, hv⟩
  · rw [offer_of_not_admits ha]
    exact h

private theorem holds_offerAll {s : Store} {works : List UnitOfWork} {id : DatasetId} {v : Version}
    (h : s.Holds id v)
    (hw : ∀ n w, works[n]? = some w → (s.offerAll (works.take n)).Admits w → w.dataset.id = id →
      ¬ (s.offerAll (works.take n)).HoldsPublished id v → w.dataset.Holds v) (n : Nat) :
    (s.offerAll (works.take n)).Holds id v := by
  induction n with
  | zero => simpa [offerAll] using h
  | succ n ih =>
    cases hn : works[n]? with
    | none => rwa [offerAll_take_succ_of_none hn]
    | some w =>
      rw [offerAll_take_succ hn]
      exact holds_offer ih (hw n w hn)

private theorem holdsPublished_offerAll {s : Store} {works : List UnitOfWork} {id : DatasetId}
    {v : Version} (h : s.HoldsPublished id v)
    (hw : ∀ w ∈ works, w.dataset.id = id →
      ∀ u ∈ w.dataset.versions, u.id = v.id → u.isDraft = false) (n : Nat) :
    (s.offerAll (works.take n)).HoldsPublished id v := by
  induction n with
  | zero => simpa [offerAll] using h
  | succ n ih =>
    cases hn : works[n]? with
    | none => rwa [offerAll_take_succ_of_none hn]
    | some w =>
      rw [offerAll_take_succ hn]
      exact holdsPublished_offer ih (hw w (List.mem_of_getElem? hn))

/-- In whatever order units of work reach a store that began empty, the content of a version that
was published once stays with its dataset exactly if every unit of work that is stored while the
version stands reopened as a draft holds it still. In particular it stays if no unit of work has
the version as a draft. -/
theorem published_content_kept_iff {hasSequence : Bool} {works later : List UnitOfWork}
    {id : DatasetId} {d : Dataset} {v : Version}
    (hd : ((Store.empty hasSequence).offerAll works).findDataset? id = some d)
    (hv : v ∈ d.versions) (hpub : v.isDraft = false) :
    ((∀ n, ((Store.empty hasSequence).offerAll (works ++ later.take n)).Holds id v) ↔
      ∀ n w, later[n]? = some w →
        ((Store.empty hasSequence).offerAll (works ++ later.take n)).Admits w →
        w.dataset.id = id →
        ¬ ((Store.empty hasSequence).offerAll (works ++ later.take n)).HoldsPublished id v →
        w.dataset.Holds v) ∧
    ((∀ w ∈ later, w.dataset.id = id →
        ∀ u ∈ w.dataset.versions, u.id = v.id → u.isDraft = false) →
      ∀ n, ((Store.empty hasSequence).offerAll (works ++ later.take n)).HoldsPublished id v) := by
  have hstart : ((Store.empty hasSequence).offerAll works).HoldsPublished id v :=
    ⟨d, hd, v, hv, hpub, rfl, rfl, rfl⟩
  simp only [offerAll_append]
  refine ⟨⟨fun hkept n w hn ha hid _ => ?_, fun hw => ?_⟩, holdsPublished_offerAll hstart⟩
  · obtain ⟨e, he, hholds⟩ := hkept (n + 1)
    rw [offerAll_take_succ hn, offer_of_admits ha, findDataset?_applyWork, if_pos hid.symm] at he
    cases he
    exact hholds
  · exact holds_offerAll ⟨d, hd, v, hv, rfl, rfl, rfl⟩ hw

/-! ### A version that is reopened -/

/-- A dataset with one version, in a given state and under a given title. -/
def titled (state : VersionState) (title : String) : Dataset where
  id := ⟨⟨1⟩⟩
  owner := "root"
  creator := none
  globalId := none
  globalIdCreateTime := none
  identifierRegistered := false
  harvested := false
  versions := [{ Version.draft ⟨⟨2⟩⟩ with state, fields := [⟨"title", [title]⟩] }]
  files := []
  categories := []
  thumbnailFile := none
  createTime := .epoch
  modificationTime := none
  lastExportTime := none

/-- A published version whose state changes, but not back to that of a draft, is kept. -/
theorem published_content_kept_when_deaccessioned :
    ((Store.empty true).offerAll [.merge (titled .released "Tides")]).findDataset? ⟨⟨1⟩⟩ =
        some (titled .released "Tides") ∧
      ∀ n, ((Store.empty true).offerAll ([.merge (titled .released "Tides")] ++
        [.merge (titled .deaccessioned "Tides"), .merge (titled .released "Waves")].take n)).HoldsPublished
          ⟨⟨1⟩⟩ { Version.draft ⟨⟨2⟩⟩ with state := .released, fields := [⟨"title", ["Tides"]⟩] } := by
  have hd : ((Store.empty true).offerAll [.merge (titled .released "Tides")]).findDataset? ⟨⟨1⟩⟩ =
      some (titled .released "Tides") := rfl
  refine ⟨hd, (published_content_kept_iff hd (List.mem_singleton.mpr rfl) rfl).2 ?_⟩
  intro w hw _ u hu _
  simp only [List.mem_cons, List.not_mem_nil, or_false] at hw
  rcases hw with rfl | rfl <;> rw [List.mem_singleton.mp hu] <;> rfl

/-- Two commits rewrite a published version: the first reopens it, the second replaces what then
counts as a draft. -/
theorem published_content_lost_when_reopened :
    let published := (Store.empty true).offerAll [.merge (titled .released "Tides")]
    ∃ d v, published.findDataset? ⟨⟨1⟩⟩ = some d ∧ v ∈ d.versions ∧ v.isDraft = false ∧
      ¬ (published.offerAll
        [.merge (titled .draft "Tides"), .merge (titled .draft "Waves")]).Holds ⟨⟨1⟩⟩ v := by
  refine ⟨titled .released "Tides", _, rfl, List.mem_singleton.mpr rfl, rfl, ?_⟩
  rintro ⟨d, hd, u, hu, -, hfields, -⟩
  cases (show some (titled .draft "Waves") = some d from hd)
  rw [List.mem_singleton.mp hu] at hfields
  exact absurd hfields (by decide)

end Store

end Depository
