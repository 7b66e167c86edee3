import Depository.Proofs.Dataset.Revision

/-!
# Editing sessions

The edits that a caller makes to a dataset at hand before it is stored. Each keeps what is
published and coherent; only adding a file makes the dataset own one more.
-/

namespace Depository

/-- A change of a draft that leaves it a draft and gives it no file to refer to. It may rewrite all
fields and the words about files. -/
structure DraftChange where
  change : Version → Version
  isDraft : ∀ v, (change v).isDraft = v.isDraft
  references : ∀ v, ∀ r ∈ (change v).fileMetadata, ∃ q ∈ v.fileMetadata, q.dataFile = r.dataFile

/-- Another list of fields. -/
def DraftChange.ofFields (change : List Field → List Field) : DraftChange where
  change v := { v with fields := change v.fields }
  isDraft _ := rfl
  references _ r hr := ⟨r, hr, rfl⟩

inductive Edit where
  | editDraft (ids : Supply Uuid) (change : DraftChange)
  | addFile (ids : Supply Uuid) (file : DataFile) (label : String)
  | addToCategory (id : FileMetadataId) (name : String)
  | removeDraftRecord (id : FileMetadataId)
  | setThumbnail (file : DataFileId)
  | removeThumbnail
  | release (time : Time.Instant) (minor : Bool)

namespace Edit

def apply (d : Dataset) : Edit → Dataset
  | editDraft ids change => (d.openDraft ids).1.mapLatest change.change
  | addFile ids file label => (d.addFile ids file label).2.1
  | addToCategory id name => d.addToCategory id name
  | removeDraftRecord id => (d.removeDraftRecord id).2
  | setThumbnail file => (d.setThumbnail file).2
  | removeThumbnail => d.removeThumbnail.2
  | release time minor => (d.releaseDraft time minor).2

/-- The files that an edit adds. -/
def added : Edit → List DataFile
  | addFile _ file _ => [file]
  | _ => []

end Edit

namespace Dataset

/-- An edit is a revision of the dataset with the added files. -/
theorem revision_edit {d : Dataset} (h : d.Coherent) (e : Edit) :
    Revision { d with files := d.files ++ e.added } (e.apply d) := by
  have hadded : e.added = [] → { d with files := d.files ++ e.added } = d := by
    intro hnone
    rw [hnone, List.append_nil]
  cases e with
  | editDraft ids change =>
    rw [hadded rfl]
    have hopen := revision_openDraft h ids
    refine hopen.trans (hopen.coherent.mapLatest (hasDraft_openDraft d ids) fun v hv => ?_)
    refine ⟨(change.isDraft v).trans (draft?_eq_some hv).1, fun r hr => ?_⟩
    exact Or.inl (change.references v r hr)
  | addFile ids file label => exact revision_addFile h ids file label
  | addToCategory id name =>
    rw [hadded rfl]
    have hsame : (d.addToCategory id name).versions = d.versions ∧
        (d.addToCategory id name).id = d.id ∧ (d.addToCategory id name).files = d.files := by
      unfold addToCategory
      dsimp only
      split <;> exact ⟨rfl, rfl, rfl⟩
    exact h.keep hsame.1 hsame.2.1 (congrArg _ hsame.2.2)
  | removeDraftRecord id =>
    rw [hadded rfl]
    exact revision_removeDraftRecord h id
  | setThumbnail file =>
    rw [hadded rfl]
    have hsame : (d.setThumbnail file).2.versions = d.versions ∧
        (d.setThumbnail file).2.id = d.id ∧ (d.setThumbnail file).2.files = d.files := by
      unfold setThumbnail
      split <;> exact ⟨rfl, rfl, rfl⟩
    exact h.keep hsame.1 hsame.2.1 (congrArg _ hsame.2.2)
  | removeThumbnail =>
    rw [hadded rfl]
    exact h.keep rfl rfl rfl
  | release time minor =>
    rw [hadded rfl]
    exact revision_releaseDraft h time minor

end Dataset

end Depository
