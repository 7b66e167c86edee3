import Depository.Proofs.Dataset.Files
import Depository.Store.Basic

/-!
# Commits

What the store demands of a unit of work and what a commit changes, and the stores that any
sequence of units of work leads through when those with a flaw are refused.
-/

namespace Depository

namespace UnitOfWork

/-- The conditions under which a unit of work may replace a stored dataset. -/
structure Respects (w : UnitOfWork) (stored : Dataset) : Prop where
  spares : ∀ x ∈ w.deletedFiles, ∀ f, stored.file? x = some f → f.isReleased = false
  keeps : ∀ v ∈ stored.versions, v.isDraft = false →
    ∃ u, (w.dataset.versions.find? fun u => u.id == v.id) = some u ∧
      u.fields = v.fields ∧ u.fileMetadata = v.fileMetadata

private theorem ownFlaw?_eq_none_iff {w : UnitOfWork} :
    w.ownFlaw? = none ↔ (w.dataset.versions.filter (·.isDraft)).length ≤ 1 ∧
      ∀ x ∈ w.deletedFiles, w.dataset.file? x = none := by
  unfold ownFlaw?
  split
  · next h => simp [Nat.not_le.mpr h]
  · next h => simp [Nat.not_lt.mp h]

private theorem versionFlaw?_eq_none_iff {w : UnitOfWork} {v : Version} :
    w.versionFlaw? v = none ↔ ∃ u, (w.dataset.versions.find? fun u => u.id == v.id) = some u ∧
      u.fields = v.fields ∧ u.fileMetadata = v.fileMetadata := by
  unfold versionFlaw?
  split
  · next h => simp [h]
  · next u h => simp [h]

private theorem flawAgainst?_eq_none_iff {w : UnitOfWork} {stored : Dataset} :
    w.flawAgainst? stored = none ↔ w.Respects stored := by
  have hspares : (w.deletedFiles.find? fun x => (stored.file? x).any (·.isReleased)) = none ↔
      ∀ x ∈ w.deletedFiles, ∀ f, stored.file? x = some f → f.isReleased = false := by
    simp only [List.find?_eq_none, Option.any_eq_true, not_exists, not_and, Bool.not_eq_true]
  have hkeeps : (stored.versions.filter fun v => !v.isDraft).findSome? w.versionFlaw? = none ↔
      ∀ v ∈ stored.versions, v.isDraft = false →
        ∃ u, (w.dataset.versions.find? fun u => u.id == v.id) = some u ∧
          u.fields = v.fields ∧ u.fileMetadata = v.fileMetadata := by
    simp only [List.findSome?_eq_none_iff, List.mem_filter, Bool.not_eq_true', and_imp,
      versionFlaw?_eq_none_iff]
  unfold flawAgainst?
  split
  · next x h =>
    refine ⟨fun hnone => (by cases hnone), fun hw => ?_⟩
    rw [hspares.mpr hw.spares] at h
    cases h
  · next h => exact ⟨fun hnone => ⟨hspares.mp h, hkeeps.mp hnone⟩, fun hw => hkeeps.mpr hw.keeps⟩

end UnitOfWork

namespace Store

/-- The conditions under which a unit of work is stored. -/
structure Admits (s : Store) (w : UnitOfWork) : Prop where
  oneDraft : (w.dataset.versions.filter (·.isDraft)).length ≤ 1
  detached : ∀ x ∈ w.deletedFiles, w.dataset.file? x = none
  respects : ∀ d, s.findDataset? w.dataset.id = some d → w.Respects d
  unused : ∀ g, w.dataset.globalId = some g → s.identifierInUse g (some w.dataset.id) = false

/-- What is stored with a dataset that lists a file does not delete that file. -/
theorem Admits.notMem_of_owns {s : Store} {w : UnitOfWork} {x : DataFileId} (h : s.Admits w)
    (hx : w.dataset.Owns x) : x ∉ w.deletedFiles := by
  intro hdel
  have hsome := Dataset.owns_iff_file?_isSome.mp hx
  rw [h.detached x hdel] at hsome
  cases hsome

theorem flaw?_eq_none_iff {s : Store} {w : UnitOfWork} :
    w.flaw? (s.findDataset? w.dataset.id) = none ↔
      w.ownFlaw? = none ∧ ∀ d, s.findDataset? w.dataset.id = some d → w.Respects d := by
  unfold UnitOfWork.flaw?
  split
  · next h => simp [h]
  · next h =>
    simp only [h, true_and]
    cases s.findDataset? w.dataset.id with
    | none => simp
    | some d => simp [UnitOfWork.flawAgainst?_eq_none_iff]

theorem commitFlaw?_eq_none_iff {s : Store} {w : UnitOfWork} :
    s.commitFlaw? w = none ↔ s.Admits w := by
  unfold commitFlaw?
  split
  · next flaw h =>
    refine ⟨fun hnone => (by cases hnone), fun ha => ?_⟩
    rw [flaw?_eq_none_iff.mpr ⟨UnitOfWork.ownFlaw?_eq_none_iff.mpr ⟨ha.oneDraft, ha.detached⟩,
      ha.respects⟩] at h
    cases h
  · next h =>
    obtain ⟨hown, hrespects⟩ := flaw?_eq_none_iff.mp h
    obtain ⟨hone, hdetached⟩ := UnitOfWork.ownFlaw?_eq_none_iff.mp hown
    have hunused : s.Admits w ↔ ∀ g, w.dataset.globalId = some g →
        s.identifierInUse g (some w.dataset.id) = false :=
      ⟨fun ha => ha.unused, fun hfree => ⟨hone, hdetached, hrespects, hfree⟩⟩
    rw [hunused]
    cases w.dataset.globalId with
    | none => simp
    | some g => simp

/-- A unit of work is stored exactly when the store admits it, and then as it is. -/
theorem commit_eq_ok_iff {s t : Store} {w : UnitOfWork} :
    s.commit w = .ok t ↔ s.Admits w ∧ t = s.applyWork w := by
  rw [← commitFlaw?_eq_none_iff]
  unfold commit
  split
  · next flaw h => simp [h]
  · next h => simp [h, eq_comm]

@[simp] theorem findDataset?_applyWork (s : Store) (w : UnitOfWork) (id : DatasetId) :
    (s.applyWork w).findDataset? id =
      if id = w.dataset.id then some w.dataset else s.findDataset? id :=
  Table.get?_insert _ _ _ _

/-! ### Sequences of commits -/

/-- The store after a unit of work was offered to it. One with a flaw changes nothing. -/
def offer (s : Store) (w : UnitOfWork) : Store :=
  match s.commit w with
  | .ok t => t
  | .error _ => s

/-- The store after units of work were offered to it one after another. -/
def offerAll (s : Store) (works : List UnitOfWork) : Store := works.foldl offer s

theorem offer_of_admits {s : Store} {w : UnitOfWork} (h : s.Admits w) :
    s.offer w = s.applyWork w := by
  rw [offer, commit_eq_ok_iff.mpr ⟨h, rfl⟩]

theorem offer_of_not_admits {s : Store} {w : UnitOfWork} (h : ¬ s.Admits w) : s.offer w = s := by
  unfold offer
  split
  · next t ht => exact absurd (commit_eq_ok_iff.mp ht).1 h
  · rfl

theorem offerAll_append (s : Store) (before after : List UnitOfWork) :
    s.offerAll (before ++ after) = (s.offerAll before).offerAll after :=
  List.foldl_append

/-- The store after one unit of work more. -/
theorem offerAll_take_succ {s : Store} {works : List UnitOfWork} {n : Nat} {w : UnitOfWork}
    (h : works[n]? = some w) :
    s.offerAll (works.take (n + 1)) = (s.offerAll (works.take n)).offer w := by
  rw [List.take_add_one, h, offerAll_append]
  rfl

/-- Beyond its end a sequence leads nowhere new. -/
theorem offerAll_take_succ_of_none {s : Store} {works : List UnitOfWork} {n : Nat}
    (h : works[n]? = none) :
    s.offerAll (works.take (n + 1)) = s.offerAll (works.take n) := by
  rw [List.take_add_one, h]
  simp

end Store

end Depository
