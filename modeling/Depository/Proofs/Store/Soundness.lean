import Depository.Proofs.Dataset.Editing
import Depository.Proofs.Repository.Effect
import Depository.Proofs.Store.Commit

/-!
# Sound stores

The invariant under which published content stays: every stored dataset is coherent, no two of
them own a file of the same identity, and none owns a file that was deleted for good. A commit
keeps it, and every stored dataset in the sense of revisions, when what it stores goes on from the
store.
-/

namespace Depository

open Dataset

namespace Store

/-- Of all stored datasets only the given one may own a file of the given identity, which was not
deleted for good. -/
structure Reserves (s : Store) (id : DatasetId) (x : DataFileId) : Prop where
  others : ∀ id' d, s.findDataset? id' = some d → d.Owns x → id' = id
  present : x ∉ s.hardDeletedFiles

/-- The invariant of the store. -/
structure Sound (s : Store) : Prop where
  keyed : ∀ id d, s.findDataset? id = some d → d.id = id
  coherent : ∀ id d, s.findDataset? id = some d → d.Coherent
  reserved : ∀ id d, s.findDataset? id = some d → ∀ x, d.Owns x → s.Reserves id x

theorem sound_empty (hasSequence : Bool) : (Store.empty hasSequence).Sound := by
  refine ⟨fun id d hd => ?_, fun id d hd => ?_, fun id d hd => ?_⟩ <;> cases hd

/-- Every stored dataset is still stored, with what it has published. -/
def KeptBy (s t : Store) : Prop :=
  ∀ id d, s.findDataset? id = some d → ∃ e, t.findDataset? id = some e ∧ Kept d e

/-- A dataset with which the store may go on: what is stored of it is kept, and its files are
its own. -/
structure Continues (s : Store) (d : Dataset) : Prop where
  coherent : d.Coherent
  kept : ∀ stored, s.findDataset? d.id = some stored → Kept stored d
  reserved : ∀ x, d.Owns x → s.Reserves d.id x

theorem Sound.continues {s : Store} (h : s.Sound) {id : DatasetId} {d : Dataset}
    (hd : s.findDataset? id = some d) : s.Continues d := by
  have hid := h.keyed id d hd
  refine ⟨h.coherent id d hd, fun stored hstored => ?_, fun x hx => hid ▸ h.reserved id d hd x hx⟩
  rw [hid, hd] at hstored
  cases hstored
  exact .refl d

theorem Continues.revision {s : Store} {d e : Dataset} (h : s.Continues d) (k : Revision d e) :
    s.Continues e := by
  have hid := k.kept.id_eq
  refine ⟨k.coherent, fun stored hstored => ?_, fun x hx => ?_⟩
  · rw [hid] at hstored
    exact (h.kept stored hstored).trans k.kept
  · rw [hid]
    exact h.reserved x (k.owned x hx)

/-- The sequence of numbers and the times noted have no part in it. -/
theorem Continues.of_eq {s t : Store} {d : Dataset} (h : s.Continues d)
    (hdatasets : t.datasets = s.datasets) (hdeleted : t.hardDeletedFiles = s.hardDeletedFiles) :
    t.Continues d := by
  have hfind (id : DatasetId) : t.findDataset? id = s.findDataset? id := by
    rw [Store.findDataset?, hdatasets]
    rfl
  refine ⟨h.coherent, fun stored hstored => h.kept stored (hfind _ ▸ hstored), fun x hx => ?_⟩
  exact ⟨fun id e he => (h.reserved x hx).others id e (hfind id ▸ he),
    by rw [hdeleted]; exact (h.reserved x hx).present⟩

theorem Continues.append {s : Store} {d : Dataset} (h : s.Continues d) {added : List DataFile}
    (hadded : ∀ f ∈ added, s.Reserves d.id f.id) :
    s.Continues { d with files := d.files ++ added } := by
  refine ⟨h.coherent.append added, fun stored hstored => ?_, ?_⟩
  · exact (h.kept stored hstored).trans (kept_append d added)
  · rintro x ⟨f, hf, rfl⟩
    rcases List.mem_append.mp hf with hf | hf
    · exact h.reserved f.id ⟨f, hf, rfl⟩
    · exact hadded f hf

end Store

/-! ### Effects that keep what is published -/

namespace StoreEffect

/-- A sound store stays sound and keeps every dataset. -/
def keeping : StoreEffect where
  allows s t := s.Sound → t.Sound ∧ s.KeptBy t
  refl _ h := ⟨h, fun _ d hd => ⟨d, hd, .refl d⟩⟩
  trans := by
    intro s t u hst htu hs
    obtain ⟨ht, hkept⟩ := hst hs
    obtain ⟨hu, hkept'⟩ := htu ht
    refine ⟨hu, fun id d hd => ?_⟩
    obtain ⟨e, he, hde⟩ := hkept id d hd
    obtain ⟨f, hf, hef⟩ := hkept' id e he
    exact ⟨f, hf, hde.trans hef⟩

theorem keeping_of_eq {s t : Store} (hdatasets : t.datasets = s.datasets)
    (hdeleted : t.hardDeletedFiles = s.hardDeletedFiles) : keeping.allows s t := by
  intro hs
  have hfind (id : DatasetId) : t.findDataset? id = s.findDataset? id := by
    rw [Store.findDataset?, hdatasets]
    rfl
  have hreserves {id : DatasetId} {x : DataFileId} (h : s.Reserves id x) : t.Reserves id x :=
    ⟨fun id' d hd => h.others id' d (hfind id' ▸ hd), by rw [hdeleted]; exact h.present⟩
  refine ⟨⟨fun id d hd => ?_, fun id d hd => ?_, fun id d hd x hx => ?_⟩, fun id d hd => ?_⟩
  · exact hs.keyed id d (hfind id ▸ hd)
  · exact hs.coherent id d (hfind id ▸ hd)
  · exact hreserves (hs.reserved id d (hfind id ▸ hd) x hx)
  · exact ⟨d, (hfind id).trans hd, .refl d⟩

/-- Storing a dataset with which the store may go on, and deleting files that were its own. -/
theorem keeping_applyWork {s : Store} {w : UnitOfWork} (hw : s.Continues w.dataset)
    (hdeleted : ∀ x ∈ w.deletedFiles, s.Reserves w.dataset.id x ∧ ¬ w.dataset.Owns x) :
    keeping.allows s (s.applyWork w) := by
  intro hs
  have hstored {id : DatasetId} {d : Dataset} (hd : (s.applyWork w).findDataset? id = some d) :
      (id = w.dataset.id ∧ d = w.dataset) ∨ (id ≠ w.dataset.id ∧ s.findDataset? id = some d) := by
    rw [Store.findDataset?_applyWork] at hd
    split at hd
    · next hid =>
      cases hd
      exact Or.inl ⟨hid, rfl⟩
    · next hid => exact Or.inr ⟨hid, hd⟩
  refine ⟨⟨fun id d hd => ?_, fun id d hd => ?_, fun id d hd x hx => ⟨fun id' d' hd' hx' => ?_, ?_⟩⟩,
    fun id d hd => ?_⟩
  · rcases hstored hd with ⟨rfl, rfl⟩ | ⟨-, hd⟩
    · rfl
    · exact hs.keyed id d hd
  · rcases hstored hd with ⟨rfl, rfl⟩ | ⟨-, hd⟩
    · exact hw.coherent
    · exact hs.coherent id d hd
  -- Of two datasets with one file, either may be the one just stored.
  · rcases hstored hd with ⟨rfl, rfl⟩ | ⟨hid, hd⟩ <;>
      rcases hstored hd' with ⟨rfl, rfl⟩ | ⟨hid', hd'⟩
    · rfl
    · exact (hw.reserved x hx).others id' d' hd' hx'
    · exact ((hw.reserved x hx').others id d hd hx).symm
    · exact (hs.reserved id d hd x hx).others id' d' hd' hx'
  · intro hdel
    rcases List.mem_append.mp (show x ∈ s.hardDeletedFiles ++ w.deletedFiles from hdel) with
      hdel | hdel
    · rcases hstored hd with ⟨rfl, rfl⟩ | ⟨-, hd⟩
      · exact (hw.reserved x hx).present hdel
      · exact (hs.reserved id d hd x hx).present hdel
    · obtain ⟨hreserved, howns⟩ := hdeleted x hdel
      rcases hstored hd with ⟨rfl, rfl⟩ | ⟨hid, hd⟩
      · exact howns hx
      · exact hid (hreserved.others id d hd hx)
  · rw [Store.findDataset?_applyWork]
    split
    · next hid =>
      subst hid
      exact ⟨w.dataset, rfl, hw.kept d hd⟩
    · exact ⟨d, hd, .refl d⟩

end StoreEffect

end Depository
