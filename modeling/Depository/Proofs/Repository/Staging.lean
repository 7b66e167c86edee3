import Depository.Proofs.Dataset.Revision
import Depository.Proofs.Repository.Registration
import Depository.Repository.Updating

/-!
# Staging an update

What an update makes of the dataset that it saves, before the commit. Each stage keeps the
identity of the dataset, leaves a draft at the end, and is a revision of a coherent dataset; the
files that are to be deleted were owned by it.
-/

namespace Depository

namespace Dataset

/-- What a stage makes of a dataset. -/
structure Staged (d e : Dataset) : Prop where
  id_eq : e.id = d.id
  hasDraft : e.HasDraft
  revision : d.Coherent → Revision d e

theorem Staged.refl {d : Dataset} (h : d.HasDraft) : Staged d d := ⟨rfl, h, .refl⟩

theorem Staged.trans {c d e : Dataset} (h : Staged c d) (k : Staged d e) : Staged c e where
  id_eq := k.id_eq.trans h.id_eq
  hasDraft := k.hasDraft
  revision hc := (h.revision hc).trans (k.revision (h.revision hc).coherent)

private theorem mapDraft_id (change : Version → Version) (d : Dataset) :
    (d.mapDraft change).id = d.id := by
  unfold mapDraft
  split <;> rfl

private theorem staged_openDraft (d : Dataset) (ids : Supply Uuid) :
    Staged d (d.openDraft ids).1 := by
  refine ⟨?_, hasDraft_openDraft d ids, fun h => revision_openDraft h ids⟩
  unfold openDraft
  split
  · rfl
  · split <;> rfl

/-- A change of the draft that keeps its state and its records. -/
private theorem staged_mapLatest {d : Dataset} (h : d.HasDraft) {change : Version → Version}
    (hchange : ∀ v, d.draft? = some v →
      (change v).isDraft = true ∧ (change v).fileMetadata = v.fileMetadata) :
    Staged d (d.mapLatest change) := by
  refine ⟨rfl, h.mapLatest fun v hv => (hchange v hv).1, fun hd => hd.mapLatest h fun v hv => ?_⟩
  obtain ⟨hstate, hrecords⟩ := hchange v hv
  exact ⟨hstate, fun r hr => Or.inl ⟨r, hrecords ▸ hr, rfl⟩⟩

private theorem staged_mapDraft {d : Dataset} (h : d.HasDraft) {change : Version → Version}
    (hstate : ∀ v, (change v).isDraft = v.isDraft)
    (hrecords : ∀ v, (change v).fileMetadata = v.fileMetadata) : Staged d (d.mapDraft change) :=
  ⟨mapDraft_id change d, h.mapDraft hstate, fun hd => hd.mapDraft hstate hrecords⟩

/-- A change of anything but the identity, the versions, and the content of files. -/
private theorem staged_keep {d e : Dataset} (h : d.HasDraft) (hversions : e.versions = d.versions)
    (hid : e.id = d.id) (hfiles : SameFiles d e) : Staged d e := by
  refine ⟨hid, ?_, fun hd => hd.keep hversions hid hfiles⟩
  obtain ⟨older, v, hd, hv⟩ := h
  exact ⟨older, v, hversions.trans hd, hv⟩

theorem staged_identify {d e : Dataset} (h : d.HasDraft) (he : e.unidentified = d.unidentified) :
    Staged d e := by
  have hversions := congrArg Dataset.versions he
  have hid := congrArg Dataset.id he
  exact staged_keep h hversions hid (.of_unidentified he)

private theorem staged_removeDraftRecord {d : Dataset} (h : d.HasDraft) (id : FileMetadataId) :
    Staged d (d.removeDraftRecord id).2 := by
  refine ⟨?_, ?_, fun hd => revision_removeDraftRecord hd id⟩
  · unfold removeDraftRecord
    split <;> rfl
  · unfold removeDraftRecord
    split
    · exact h
    · exact h.mapLatest fun v hv => (draft?_eq_some hv).1

private theorem staged_removeFile {d : Dataset} (h : d.HasDraft) {x : DataFileId}
    (hx : (d.file? x).any (·.isReleased) = false) : Staged d (d.removeFile x).2 := by
  refine ⟨?_, ?_, fun hd => revision_removeFile hd hx⟩
  · unfold removeFile
    split <;> rfl
  · unfold removeFile
    split
    · exact h
    · exact h.of_map rfl fun _ => rfl

end Dataset

/-! ### Judging -/

/-- Judging rewrites the fields and notes problems. -/
theorem Schema.judge_rewrites (s : Schema) (lenient : Bool) (v : Version) :
    ∃ fields validationProblems,
      (s.judge lenient v).2 = { v with fields, validationProblems } := by
  simp only [judge]
  split
  · exact ⟨v.fields, v.validationProblems, rfl⟩
  · split
    · split <;> exact ⟨_, _, rfl⟩
    · exact ⟨v.fields, v.validationProblems, rfl⟩

theorem Schema.judge_keeps (s : Schema) (lenient : Bool) (v : Version) :
    (s.judge lenient v).2.isDraft = v.isDraft ∧
      (s.judge lenient v).2.fileMetadata = v.fileMetadata := by
  obtain ⟨fields, problems, hjudged⟩ := s.judge_rewrites lenient v
  rw [hjudged]
  exact ⟨rfl, rfl⟩

namespace Repository

open Depository.Action Depository.Dataset

theorem staged_judgeDraft {schema : Schema} {lenient : Bool} {d e : Dataset} (h : d.HasDraft)
    (he : judgeDraft schema lenient d = .ok e) : Staged d e := by
  unfold judgeDraft at he
  split at he
  · cases he
    exact .refl h
  · next draft hlatest =>
    obtain ⟨hstate, hrecords⟩ :=
      schema.judge_keeps lenient { draft with fields := schema.arrange draft.fields }
    split at he
    · cases he
    · next judged hjudged =>
      cases he
      rw [hjudged] at hstate hrecords
      refine staged_mapLatest h fun v hv => ?_
      have hvd : v = draft := by
        have hlast := (Option.filter_eq_some_iff.mp hv).1
        rw [hlatest] at hlast
        exact (Option.some.inj hlast).symm
      subst hvd
      exact ⟨hstate.trans (draft?_eq_some hv).1, hrecords⟩

/-! ### Stamps -/

theorem content_stampFile (user : UserId) (time : Time.Instant) (f : DataFile) :
    (stampFile user time f).content = f.content := by
  unfold stampFile
  dsimp only
  split <;> rfl

theorem staged_stamp {d : Dataset} (h : d.HasDraft) (user : UserId) (time : Time.Instant) :
    Staged d (stamp user time d) := by
  have hdraft : Staged d (d.mapDraft (stampDraft time)) :=
    staged_mapDraft h (fun _ => rfl) fun _ => rfl
  exact hdraft.trans (staged_keep hdraft.hasDraft rfl rfl (.of_map (content_stampFile user time) rfl))

theorem staged_stampUpdate {d : Dataset} (h : d.HasDraft) (time : Time.Instant) :
    Staged d (stampUpdate time d) := by
  have hdraft : Staged d (d.mapDraft fun v => { v with lastUpdateTime := some time }) :=
    staged_mapDraft h (fun _ => rfl) fun _ => rfl
  exact hdraft.trans (staged_keep hdraft.hasDraft rfl rfl rfl)

/-! ### Deletions -/

theorem staged_clearThumbnail {d : Dataset} (h : d.HasDraft) (deletions : List Deletion) :
    Staged d (clearThumbnail deletions d) := by
  unfold clearThumbnail
  split
  · exact staged_keep h rfl rfl rfl
  · exact .refl h

theorem dataset_deleteFile (w : UnitOfWork) (x : DataFileId) :
    (w.deleteFile x).dataset = w.dataset := by
  unfold UnitOfWork.deleteFile
  split <;> rfl

theorem staged_delete {w : UnitOfWork} (h : w.dataset.HasDraft) (x : Deletion) :
    Staged w.dataset (delete w x).dataset := by
  unfold delete
  split
  · exact staged_removeDraftRecord h x.record
  · next hx =>
    rw [dataset_deleteFile]
    exact staged_removeFile h (by simpa using hx)

private theorem staged_deleteAll {w : UnitOfWork} (h : w.dataset.HasDraft)
    (deletions : List Deletion) :
    Staged w.dataset (deleteAll deletions w).dataset := by
  unfold deleteAll
  induction deletions generalizing w with
  | nil => exact .refl h
  | cons x rest ih =>
    -- The rest is deleted from what the first deletion has left, which has its draft still.
    have hx := staged_delete h x
    exact hx.trans (ih hx.hasDraft)

private theorem mem_deletedFiles_delete {w : UnitOfWork} {x : Deletion} {id : DataFileId}
    (h : id ∈ (delete w x).deletedFiles) : id ∈ w.deletedFiles ∨ id = x.file := by
  unfold delete at h
  split at h
  · exact Or.inl h
  · unfold UnitOfWork.deleteFile at h
    split at h
    · exact Or.inl h
    · simpa using h

private theorem mem_deletedFiles_deleteAll {w : UnitOfWork} {deletions : List Deletion}
    {id : DataFileId} (h : id ∈ (deleteAll deletions w).deletedFiles) :
    id ∈ w.deletedFiles ∨ ∃ x ∈ deletions, x.file = id := by
  unfold deleteAll at h
  induction deletions generalizing w with
  | nil => exact Or.inl h
  | cons x rest ih =>
    rcases ih h with h | ⟨y, hy, hid⟩
    · rcases mem_deletedFiles_delete h with h | rfl
      · exact Or.inl h
      · exact Or.inr ⟨x, List.mem_cons_self, rfl⟩
    · exact Or.inr ⟨y, List.mem_cons_of_mem _ hy, hid⟩

private theorem owns_of_mem_deletionsOf {d : Dataset} (h : d.Coherent)
    {records : List FileMetadataId}
    {x : Deletion} (hx : x ∈ deletionsOf records d) : d.Owns x.file := by
  obtain ⟨id, -, hx⟩ := List.mem_filterMap.mp hx
  obtain ⟨r, hr, rfl⟩ := Option.map_eq_some_iff.mp hx
  obtain ⟨v, hv, hr⟩ := Option.bind_eq_some_iff.mp hr
  obtain ⟨-, older, hversions⟩ := draft?_eq_some hv
  exact h.owned v (by simp [hversions]) r (List.mem_of_find?_eq_some hr)

/-! ### The stages -/

theorem returns_prepare (r : UpdateRequest) :
    Returns (fun p => Staged r.dataset p.dataset) (prepare r) := by
  have hopen : Returns (Staged r.dataset) (withIds fun ids => r.dataset.openDraft ids) :=
    returns_withIds fun ids => staged_openDraft r.dataset ids
  refine Returns.bind fun time => Returns.bind fun user => hopen.then fun d hd => ?_
  refine Returns.bind fun s => ?_
  have hjudge : Returns (Staged r.dataset) (ofExcept (judgeDraft s.schema r.lenient d)) :=
    returns_ofExcept fun e he => hd.trans (staged_judgeDraft hd.hasDraft he)
  exact hjudge.then fun e he => Returns.bind fun records => returns_pure he

/-- A request that names nothing to be deleted prepares no deletion. -/
theorem returns_prepare_records (r : UpdateRequest) :
    Returns (fun p => r.records = [] → r.file = none → p.records = []) (prepare r) := by
  refine Returns.bind fun time => Returns.bind fun user => Returns.bind fun d => ?_
  refine Returns.bind fun s => Returns.bind fun e => ?_
  have hrecords : Returns (fun records => r.records = [] → r.file = none → records = [])
      (ofExcept (recordsToDelete r.records r.file e)) := by
    refine returns_ofExcept fun records hrecords hnone hfile => ?_
    rw [hnone, hfile] at hrecords
    cases hrecords
    rfl
  exact hrecords.then fun records hrecords => returns_pure hrecords

theorem returns_renewFingerprint {d : Dataset} (h : d.HasDraft) :
    Returns (Staged d) (renewFingerprint d) := by
  unfold renewFingerprint
  split
  · exact returns_pure (.refl h)
  · exact Returns.bind fun unf => returns_pure
      (staged_mapLatest h fun v hv => ⟨(draft?_eq_some hv).1, rfl⟩)

/-- The work of an update that deletes records from the draft of a dataset. -/
structure StagedWork (d : Dataset) (records : List FileMetadataId) (w : UnitOfWork) : Prop where
  staged : Staged d w.dataset
  owned : d.Coherent → ∀ x ∈ w.deletedFiles, d.Owns x
  named : records = [] → w.deletedFiles = []

theorem stagedWork_deleteAll {d : Dataset} (h : d.HasDraft) (records : List FileMetadataId) :
    StagedWork d records (deleteAll (deletionsOf records d)
      (.merge (clearThumbnail (deletionsOf records d) d))) := by
  have hclear := staged_clearThumbnail h (deletionsOf records d)
  have hdelete : Staged (clearThumbnail (deletionsOf records d) d)
      (deleteAll (deletionsOf records d)
        (.merge (clearThumbnail (deletionsOf records d) d))).dataset :=
    staged_deleteAll (w := .merge _) hclear.hasDraft (deletionsOf records d)
  refine ⟨hclear.trans hdelete, fun hcoherent x hx => ?_, ?_⟩
  · rcases mem_deletedFiles_deleteAll hx with hx | ⟨y, hy, rfl⟩
    · cases hx
    · exact owns_of_mem_deletionsOf hcoherent hy
  · rintro rfl
    rfl

theorem returns_stage {p : PreparedUpdate} (h : p.dataset.HasDraft) :
    Returns (StagedWork p.dataset p.records) (stage p) := by
  have hstamp := staged_stamp h p.user.id p.time
  have hwork := stagedWork_deleteAll hstamp.hasDraft p.records
  have hstamped {w : UnitOfWork}
      (hw : StagedWork (stamp p.user.id p.time p.dataset) p.records w) :
      StagedWork p.dataset p.records w := by
    refine ⟨hstamp.trans hw.staged, fun hcoherent x hx => ?_, hw.named⟩
    have hrevision := hstamp.revision hcoherent
    exact hrevision.owned x (hw.owned hrevision.coherent x hx)
  unfold stage
  dsimp only
  split
  · have hrenew := returns_renewFingerprint hwork.staged.hasDraft
    refine hrenew.then fun e he => returns_pure (hstamped ?_)
    exact ⟨hwork.staged.trans he, hwork.owned, hwork.named⟩
  · exact returns_pure (hstamped hwork)

theorem returns_registerIfDue_part {β : Type} {part : Dataset → β}
    (hpart : Subject.dataset.Spares part) (d : Dataset) :
    Returns (fun x => part x.1 = part d) (registerIfDue d) := by
  refine Returns.bind fun s => ?_
  split
  · refine (returns_registerDataset_part hpart d).outcome.then fun result hresult => ?_
    cases result with
    | error _ => exact returns_pure rfl
    | ok x => exact returns_pure (hresult x rfl)
  · exact returns_pure rfl

theorem returns_registerIfDue (d : Dataset) :
    Returns (fun x => x.1.unidentified = d.unidentified) (registerIfDue d) :=
  returns_registerIfDue_part (Subject.spares_unidentified .dataset) d

end Repository

end Depository
