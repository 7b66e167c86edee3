import Depository.Proofs.Dataset.VersionNumbers
import Depository.Proofs.Repository.Deletion
import Depository.Proofs.Repository.Retry

/-!
# What an update leaves alone

An update works on the draft, on the files and what refers to them, and on stamps. Stage by stage the
rest of the dataset stays: who owns it and where it came from, the versions before the draft, the
number and the state of the draft, and of each file all but three stamps.
-/

namespace Depository

namespace Version

/-- A version without what an update writes into it each time. -/
def core (v : Version) : Version :=
  { v with
    fields := []
    fileMetadata := []
    lastUpdateTime := none
    unf := none
    validationProblems := [] }

private theorem isDraft_core (v : Version) : v.core.isDraft = v.isDraft := rfl

/-- The core of a draft that is saved. -/
def createdBy (time : Time.Instant) (core : Version) : Version :=
  { core with createTime := core.createTime.or (some time) }

end Version

namespace Dataset

/-- A dataset without what an update works on. -/
def frame (d : Dataset) : Dataset :=
  { d with
    versions := []
    files := []
    categories := []
    thumbnailFile := none
    modificationTime := none }

theorem identifier_of_frame {d e : Dataset} (h : e.frame = d.frame) :
    e.globalId = d.globalId ∧ e.globalIdCreateTime = d.globalIdCreateTime ∧
      e.identifierRegistered = d.identifierRegistered := by
  have hid := congrArg Dataset.globalId h
  have htime := congrArg Dataset.globalIdCreateTime h
  have hflag := congrArg Dataset.identifierRegistered h
  exact ⟨hid, htime, hflag⟩

private theorem frame_openDraft (d : Dataset) (ids : Supply Uuid) :
    (d.openDraft ids).1.frame = d.frame := by
  unfold openDraft
  split
  · rfl
  · split <;> rfl

private theorem frame_mapDraft (change : Version → Version) (d : Dataset) :
    (d.mapDraft change).frame = d.frame := by
  unfold mapDraft
  split <;> rfl

private theorem files_mapDraft (change : Version → Version) (d : Dataset) :
    (d.mapDraft change).files = d.files := by
  unfold mapDraft
  split <;> rfl

private theorem published_openDraft (d : Dataset) (ids : Supply Uuid) :
    (d.openDraft ids).1.published = d.published := by
  unfold openDraft
  split
  · rfl
  · split
    · show (d.versions ++ [_]).filter _ = _
      rw [List.filter_append]
      exact List.append_nil _
    · next hlatest =>
      have hnone : d.versions = [] := List.getLast?_eq_none_iff.mp hlatest
      unfold published
      rw [hnone]
      rfl

private theorem SingleDraft.versions_eq {d : Dataset} (h : d.SingleDraft) :
    ∃ v, d.versions = d.published ++ [v] ∧ v.isDraft = true := by
  obtain ⟨older, v, hversions, hv, holder⟩ := h
  refine ⟨v, ?_, hv⟩
  have hkept : older.filter (fun u => !u.isDraft) = older := by
    rw [List.filter_eq_self]
    intro u hu
    simp [holder u hu]
  rw [published, hversions, List.filter_append, hkept]
  simp [hv]

/-! ### The versions before the draft -/

/-- A draft with a given core stands after versions that are about released files only. -/
structure Standing (older : List Version) (core : Version) (d : Dataset) : Prop where
  versions : ∃ v, d.versions = older ++ [v] ∧ v.core = core
  isDraft : core.isDraft = true
  released : ∀ u ∈ older, ∀ r ∈ u.fileMetadata, (d.file? r.dataFile).all (·.isReleased) = true

namespace Standing

variable {older : List Version} {core core' : Version} {d e : Dataset}

theorem hasDraft (h : Standing older core d) : d.HasDraft := by
  obtain ⟨v, hversions, hv⟩ := h.versions
  refine ⟨older, v, hversions, ?_⟩
  rw [← v.isDraft_core, hv]
  exact h.isDraft

theorem mapLatest (h : Standing older core d) {change : Version → Version}
    (hchange : ∀ v, d.latest? = some v → v.core = core → (change v).core = core')
    (hdraft : core'.isDraft = true) : Standing older core' (d.mapLatest change) := by
  obtain ⟨v, hversions, hv⟩ := h.versions
  have hlatest : d.latest? = some v := by rw [latest?, hversions, List.getLast?_concat]
  refine ⟨⟨change v, versions_mapLatest hversions change, ?_⟩, hdraft, h.released⟩
  exact hchange v hlatest hv

theorem keep (h : Standing older core d) (hversions : e.versions = d.versions)
    (hfiles : SameFiles d e) : Standing older core e := by
  refine ⟨hversions ▸ h.versions, h.isDraft, ?_⟩
  intro u hu r hr
  have hreleased (o : Option DataFile) :
      o.all (·.isReleased) = (o.map DataFile.content).all (·.isReleased) := by cases o <;> rfl
  rw [hreleased, hfiles.content_file?, ← hreleased]
  exact h.released u hu r hr

theorem removeDraftRecord (h : Standing older core d) (id : FileMetadataId) :
    Standing older core (d.removeDraftRecord id).2 := by
  unfold Dataset.removeDraftRecord
  split
  · exact h
  · have herased : Standing older core (d.mapLatest fun v =>
        { v with fileMetadata := v.fileMetadata.eraseP fun fm => fm.id == id }) :=
      h.mapLatest (fun _ _ hv => hv) h.isDraft
    exact herased.keep rfl rfl

theorem removeFile (h : Standing older core d) {x : DataFileId}
    (hx : (d.file? x).any (·.isReleased) = false) : Standing older core (d.removeFile x).2 := by
  cases hfile : d.file? x with
  | none => simpa only [Dataset.removeFile, hfile] using h
  | some file =>
    -- No version before the draft is about the file, since that is not released.
    have hapart (u : Version) (hu : u ∈ older) (r : FileMetadata) (hr : r ∈ u.fileMetadata) :
        r.dataFile ≠ x := by
      rintro rfl
      have hreleased := h.released u hu r hr
      rw [hfile] at hx hreleased
      rw [Option.any_some, show file.isReleased = true from hreleased] at hx
      cases hx
    have hstrip (u : Version) (hu : u ∈ older) :
        { u with fileMetadata := u.fileMetadata.filter fun r => r.dataFile != x } = u := by
      have hall : (u.fileMetadata.filter fun r => r.dataFile != x) = u.fileMetadata := by
        rw [List.filter_eq_self]
        intro r hr
        simpa using hapart u hu r hr
      rw [hall]
    obtain ⟨v, hversions, hv⟩ := h.versions
    refine ⟨?_, h.isDraft, ?_⟩
    · refine ⟨{ v with fileMetadata := v.fileMetadata.filter fun r => r.dataFile != x }, ?_, hv⟩
      simp only [Dataset.removeFile, hfile]
      show d.versions.map _ = _
      rw [hversions, List.map_append, List.map_congr_left hstrip, List.map_id']
      rfl
    · intro u hu r hr
      rw [file?_removeFile_of_ne (hapart u hu r hr)]
      exact h.released u hu r hr

end Standing

end Dataset

namespace Repository

open Depository.Action Depository.Dataset

/-! ### The stages -/

/-- The draft was worked on and files were taken out; all else stayed. -/
structure Reworked (d e : Dataset) : Prop where
  frame : e.frame = d.frame
  files : e.files.Sublist d.files
  standing : ∀ older core, Standing older core d → Standing older core e

theorem Reworked.refl (d : Dataset) : Reworked d d := ⟨rfl, .refl _, fun _ _ => id⟩

theorem Reworked.trans {c d e : Dataset} (h : Reworked c d) (k : Reworked d e) : Reworked c e where
  frame := k.frame.trans h.frame
  files := k.files.trans h.files
  standing older core hc := k.standing older core (h.standing older core hc)

private theorem reworked_mapLatest {d : Dataset} {change : Version → Version}
    (hchange : ∀ v, d.latest? = some v → (change v).core = v.core) :
    Reworked d (d.mapLatest change) where
  frame := rfl
  files := .refl _
  standing _ _ h := h.mapLatest (fun v hlatest hv => (hchange v hlatest).trans hv) h.isDraft

private theorem reworked_judgeDraft {schema : Schema} {lenient : Bool} {d e : Dataset}
    (h : judgeDraft schema lenient d = .ok e) : Reworked d e := by
  unfold judgeDraft at h
  split at h
  · cases h
    exact .refl d
  · next draft hdraft =>
    split at h
    · cases h
    · next judged hjudged =>
      cases h
      apply reworked_mapLatest
      intro v hv
      obtain rfl : draft = v := Option.some.inj (hdraft.symm.trans hv)
      obtain ⟨fields, problems, hrewritten⟩ :=
        schema.judge_rewrites lenient { draft with fields := schema.arrange draft.fields }
      rw [hjudged] at hrewritten
      dsimp only at hrewritten
      rw [hrewritten]
      rfl

private theorem files_judgeDraft {schema : Schema} {lenient : Bool} {d e : Dataset}
    (h : judgeDraft schema lenient d = .ok e) : e.files = d.files := by
  unfold judgeDraft at h
  split at h
  · cases h
    rfl
  · split at h <;> cases h
    rfl

private theorem reworked_clearThumbnail (deletions : List Deletion) (d : Dataset) :
    Reworked d (clearThumbnail deletions d) := by
  unfold clearThumbnail
  split
  · exact ⟨rfl, .refl _, fun _ _ h => h.keep rfl rfl⟩
  · exact .refl d

private theorem reworked_removeDraftRecord (id : FileMetadataId) (d : Dataset) :
    Reworked d (d.removeDraftRecord id).2 := by
  refine ⟨?_, ?_, fun _ _ h => h.removeDraftRecord id⟩
  · unfold removeDraftRecord
    split <;> rfl
  · unfold removeDraftRecord
    split <;> exact .refl _

private theorem reworked_removeFile {x : DataFileId} {d : Dataset}
    (hx : (d.file? x).any (·.isReleased) = false) : Reworked d (d.removeFile x).2 := by
  refine ⟨?_, ?_, fun _ _ h => h.removeFile hx⟩
  · unfold removeFile
    split <;> rfl
  · unfold removeFile
    split
    · exact .refl _
    · exact List.eraseP_sublist

private theorem reworked_delete (w : UnitOfWork) (x : Deletion) :
    Reworked w.dataset (delete w x).dataset := by
  unfold delete
  split
  · exact reworked_removeDraftRecord x.record w.dataset
  · next hx =>
    rw [dataset_deleteFile]
    exact reworked_removeFile (by simpa using hx)

private theorem reworked_deleteAll (deletions : List Deletion) (w : UnitOfWork) :
    Reworked w.dataset (deleteAll deletions w).dataset := by
  unfold deleteAll
  induction deletions generalizing w with
  | nil => exact .refl _
  | cons x rest ih => exact (reworked_delete w x).trans (ih (delete w x))

theorem returns_renewFingerprint_reworked (d : Dataset) :
    Returns (Reworked d) (renewFingerprint d) := by
  unfold renewFingerprint
  split
  · exact returns_pure (.refl d)
  · exact Returns.bind fun unf => returns_pure (reworked_mapLatest fun _ _ => rfl)

/-- What is prepared is the opened dataset with its draft judged. -/
theorem returns_prepare_frame (r : UpdateRequest) :
    Returns (fun p => p.dataset.frame = r.dataset.frame) (prepare r) := by
  have hopen : Returns (fun d => d.frame = r.dataset.frame)
      (withIds fun ids => r.dataset.openDraft ids) :=
    returns_withIds fun ids => frame_openDraft r.dataset ids
  refine Returns.bind fun time => Returns.bind fun user => hopen.then fun d hd => ?_
  refine Returns.bind fun s => ?_
  have hjudge : Returns (fun e => e.frame = r.dataset.frame)
      (ofExcept (judgeDraft s.schema r.lenient d)) :=
    returns_ofExcept fun e he => (reworked_judgeDraft he).frame.trans hd
  exact hjudge.then fun e he => Returns.bind fun records => returns_pure he

/-- A stage stamps the dataset and then works on it. -/
theorem returns_stage_reworked (p : PreparedUpdate) :
    Returns (fun work => Reworked (stamp p.user.id p.time p.dataset) work.dataset) (stage p) := by
  have hbase (deletions : List Deletion) : Reworked (stamp p.user.id p.time p.dataset)
      (deleteAll deletions (.merge (clearThumbnail deletions
        (stamp p.user.id p.time p.dataset)))).dataset :=
    (reworked_clearThumbnail deletions _).trans (reworked_deleteAll deletions (.merge _))
  unfold stage
  dsimp only
  split
  · refine (returns_renewFingerprint_reworked _).then fun e he => returns_pure ?_
    exact (hbase _).trans he
  · exact returns_pure (hbase _)

/-! ### Stamps -/

private theorem frame_stamp (user : UserId) (time : Time.Instant) (d : Dataset) :
    (stamp user time d).frame = d.frame :=
  frame_mapDraft (stampDraft time) d

private theorem files_stamp (user : UserId) (time : Time.Instant) (d : Dataset) :
    (stamp user time d).files = d.files.map (stampFile user time) :=
  congrArg (List.map (stampFile user time)) (files_mapDraft (stampDraft time) d)

private theorem standing_stamp {older : List Version} {core : Version} {d : Dataset}
    (h : Standing older core d) (user : UserId) (time : Time.Instant) :
    Standing older (core.createdBy time) (stamp user time d) := by
  have hcreated : Standing older (core.createdBy time) (d.mapDraft (stampDraft time)) := by
    unfold mapDraft
    rw [if_pos h.hasDraft.draft?]
    refine h.mapLatest ?_ h.isDraft
    rintro v - rfl
    rfl
  exact hcreated.keep rfl (.of_map (content_stampFile user time) rfl)

theorem frame_stampUpdate (time : Time.Instant) (d : Dataset) :
    (stampUpdate time d).frame = d.frame :=
  frame_mapDraft (fun v => { v with lastUpdateTime := some time }) d

private theorem stampFile_eq (user : UserId) (time : Time.Instant) (f : DataFile) :
    stampFile user time f = { f with
      createDate := f.createDate.or (some time)
      creator := if f.createDate.isNone then some user else f.creator
      modificationTime := some time } := by
  unfold stampFile
  cases hcreated : f.createDate <;> simp [hcreated]

/-! ### The update -/

/-- The drafts of a dataset that is opened are those of the one that is saved. -/
private theorem singleDraft_of_saved {s : Surroundings} {r : UpdateRequest} {p : PreparedUpdate}
    {work : UnitOfWork} {d : Dataset} {registration : Option RegistrationReport}
    {w w₁ w₂ w₃ : World} (hprepare : (prepare r).run s w = (.ok p, w₁))
    (hstage : (stage p).run s w₁ = (.ok work, w₂))
    (hregister : (registerIfDue work.dataset).run s w₂ = (.ok (d, registration), w₃))
    (hadmits : w₃.store.Admits { work with dataset := stampUpdate p.time d }) :
    (r.dataset.openDraft w.ids).1.SingleDraft := by
  have hsaved := stagedWork_of_saved hprepare hstage hregister
  have hprepared := returns_prepare r s w p w₁ hprepare
  have hregistered := returns_registerIfDue work.dataset s w₂ (d, registration) w₃ hregister
  refine (hsaved.staged.hasDraft.singleDraft hadmits.oneDraft).of_drafts ?_
  have hfinal : (stampUpdate p.time d).holdings = work.dataset.holdings :=
    (holdings_stampUpdate p.time d).trans (holdings_of_unidentified hregistered)
  show (stampUpdate p.time d).holdings.drafts = _
  rw [hfinal, drafts_of_run_stage hprepared.hasDraft hstage, (of_run_prepare_draft hprepare).1]

private theorem time_of_run_prepare {s : Surroundings} {r : UpdateRequest} {p : PreparedUpdate}
    {w w₁ : World} (h : (prepare r).run s w = (.ok p, w₁)) : p.time = w.clock.next := by
  obtain ⟨time, _, hnow, h⟩ := of_run_bind_ok h
  cases hnow
  obtain ⟨user, _, -, h⟩ := of_run_bind_ok h
  obtain ⟨d, _, -, h⟩ := of_run_bind_ok h
  obtain ⟨_, _, -, h⟩ := of_run_bind_ok h
  obtain ⟨_, _, -, h⟩ := of_run_bind_ok h
  obtain ⟨_, _, -, h⟩ := of_run_bind_ok h
  cases h
  rfl

/-- Only what is due is registered. -/
theorem of_run_registerIfDue_ok {s : Surroundings} {d e : Dataset}
    {registration : Option RegistrationReport} {w v : World}
    (h : (registerIfDue d).run s w = (.ok (e, registration), v)) :
    e = d ∨ s.identifiers.registersImmediately = true ∧ d.globalIdCreateTime = none := by
  by_cases hdue : (s.identifiers.registersImmediately && d.globalIdCreateTime.isNone) = true
  · rw [Bool.and_eq_true, Option.isNone_iff_eq_none] at hdue
    exact Or.inr hdue
  · unfold registerIfDue at h
    rw [run_bind_of_ok (x := surroundings) rfl, if_neg hdue] at h
    cases h
    exact Or.inl rfl

private theorem spares_blank : Subject.dataset.Spares Subject.dataset.blank :=
  ⟨Subject.dataset.blank_assign, Subject.dataset.blank_markRegistered⟩

private theorem eq_of_blank_frame {d e : Dataset}
    (h : Subject.dataset.blank e.frame = Subject.dataset.blank d.frame) :
    e = { d with
      versions := e.versions
      files := e.files
      categories := e.categories
      thumbnailFile := e.thumbnailFile
      globalId := e.globalId
      globalIdCreateTime := e.globalIdCreateTime
      identifierRegistered := e.identifierRegistered
      modificationTime := e.modificationTime } := by
  cases d
  cases e
  simp only [Subject.blank, frame, Dataset.mk.injEq] at h ⊢
  simp [h]

private theorem eq_of_core {u v : Version} (h : v.core = u.core) : v = { u with
    fields := v.fields
    fileMetadata := v.fileMetadata
    lastUpdateTime := v.lastUpdateTime
    unf := v.unf
    validationProblems := v.validationProblems } := by
  cases u
  cases v
  simp only [Version.core, Version.mk.injEq] at h ⊢
  simp [h]

section Stages

variable {s s' : Surroundings} {r : UpdateRequest} {p : PreparedUpdate} {work : UnitOfWork}
  {d : Dataset} {registration : Option RegistrationReport} {w w' w₁ w₂ w₃ : World}

/-- Other tasks may have worked between the two stages. -/
theorem frame_of_stages (hprepare : (prepare r).run s w = (.ok p, w₁))
    (hstage : (stage p).run s' w' = (.ok work, w₂)) : work.dataset.frame = r.dataset.frame := by
  have hprepared := returns_prepare_frame r s w p w₁ hprepare
  have hworked := returns_stage_reworked p s' w' work w₂ hstage
  rw [hworked.frame, frame_stamp, hprepared]

variable (hprepare : (prepare r).run s w = (.ok p, w₁))
  (hstage : (stage p).run s w₁ = (.ok work, w₂))
  (hregister : (registerIfDue work.dataset).run s w₂ = (.ok (d, registration), w₃))

include hprepare hstage

private theorem files_of_stages : ∃ kept : List DataFile, kept.Sublist r.dataset.files ∧
    work.dataset.files = kept.map (stampFile p.user.id p.time) := by
  obtain ⟨hjudged, -⟩ := of_run_prepare_judged hprepare
  have hworked := returns_stage_reworked p s w₁ work w₂ hstage
  have hstamped := hworked.files
  rw [files_stamp, files_judgeDraft hjudged, files_openDraft] at hstamped
  exact List.sublist_map_iff.mp hstamped

include hregister

private theorem blank_of_stages :
    Subject.dataset.blank d.frame = Subject.dataset.blank r.dataset.frame ∧
      d.versions = work.dataset.versions ∧ d.files = work.dataset.files := by
  have hblank : Subject.dataset.blank d = Subject.dataset.blank work.dataset :=
    returns_registerIfDue_part spares_blank work.dataset s w₂ (d, registration) w₃ hregister
  have hversions := congrArg Dataset.versions hblank
  have hfiles := congrArg Dataset.files hblank
  refine ⟨?_, hversions, hfiles⟩
  rw [← frame_of_stages hprepare hstage]
  exact congrArg frame hblank

/-- The draft stands on the published versions up to the commit. -/
private theorem standing_of_stages {old : Version}
    (hreleased : ∀ u ∈ r.dataset.versions, u.isDraft = false → ∀ q ∈ u.fileMetadata,
      (r.dataset.file? q.dataFile).all (·.isReleased) = true)
    (hopened : (r.dataset.openDraft w.ids).1.versions = r.dataset.published ++ [old])
    (hold : old.isDraft = true) :
    Standing r.dataset.published (old.core.createdBy p.time) d := by
  have hstart : Standing r.dataset.published old.core (r.dataset.openDraft w.ids).1 := by
    refine ⟨⟨old, hopened, rfl⟩, hold, ?_⟩
    intro u hu q hq
    obtain ⟨hu, hpublished⟩ := List.mem_filter.mp hu
    rw [file?, files_openDraft]
    exact hreleased u hu (by simpa using hpublished) q hq
  obtain ⟨hjudged, -⟩ := of_run_prepare_judged hprepare
  have hprepared := (reworked_judgeDraft hjudged).standing _ _ hstart
  have hworked := returns_stage_reworked p s w₁ work w₂ hstage
  have hstaged := hworked.standing _ _ (standing_stamp hprepared p.user.id p.time)
  obtain ⟨-, hversions, hfiles⟩ := blank_of_stages hprepare hstage hregister
  exact hstaged.keep hversions (congrArg _ hfiles)

end Stages

/-- What a user's update at a time may have changed of a dataset `d`, whose draft was `old`, when it
is saved as `e` with the draft `new`. -/
structure Framed (s : Surroundings) (user : User) (time : Time.Instant) (d : Dataset)
    (old new : Version) (e : Dataset) : Prop where
  record : e = { d with
    versions := d.published ++ [new]
    files := e.files
    categories := e.categories
    thumbnailFile := e.thumbnailFile
    globalId := e.globalId
    globalIdCreateTime := e.globalIdCreateTime
    identifierRegistered := e.identifierRegistered
    modificationTime := some time }
  draft : new = { old with
    fields := new.fields
    fileMetadata := new.fileMetadata
    unf := new.unf
    validationProblems := new.validationProblems
    createTime := old.createTime.or (some time)
    lastUpdateTime := some time }
  files : ∃ kept : List DataFile, kept.Sublist d.files ∧ e.files = kept.map fun f => { f with
    createDate := f.createDate.or (some time)
    creator := if f.createDate.isNone then some user.id else f.creator
    modificationTime := some time }
  registration : s.identifiers.registersImmediately = true ∧ d.globalIdCreateTime = none ∨
    e.globalId = d.globalId ∧ e.globalIdCreateTime = d.globalIdCreateTime ∧
      e.identifierRegistered = d.identifierRegistered

/-- An update changes nothing that it has no business with. The versions that are not drafts have to
be about released files, so that nothing that they are about can be deleted. -/
theorem update_framed {s : Surroundings} {w v : World} {r : UpdateRequest} {o : UpdateOutcome}
    (hreleased : ∀ u ∈ r.dataset.versions, u.isDraft = false → ∀ q ∈ u.fileMetadata,
      (r.dataset.file? q.dataFile).all (·.isReleased) = true)
    (h : (update r).run s w = (.ok o, v)) :
    ∃ user old new, r.principal = .authenticated user ∧
      (∀ u, r.dataset.draft? = some u → u = old) ∧
      (r.dataset.openDraft w.ids).1.versions = r.dataset.published ++ [old] ∧
      v.store.findDataset? r.dataset.id = some o.dataset ∧
      Framed s user w.clock.next r.dataset old new o.dataset := by
  obtain ⟨p, work, d, registration, w₁, w₂, w₃, w₄, hprepare, hstage, hregister, hcommit, hfollow,
    rfl⟩ := of_run_update_ok h
  obtain ⟨-, hadmits, hstored, hvisited⟩ :=
    store_of_run_stages hprepare hstage hregister hcommit hfollow
  obtain ⟨old, hopened, hold⟩ :=
    (singleDraft_of_saved hprepare hstage hregister hadmits).versions_eq
  rw [published_openDraft] at hopened
  have hstanding := standing_of_stages hprepare hstage hregister hreleased hopened hold
  obtain ⟨hblank, -, hfiles⟩ := blank_of_stages hprepare hstage hregister
  obtain ⟨new, hversions, hcore⟩ := hstanding.versions
  have hsaved : (stampUpdate p.time d).versions =
      r.dataset.published ++ [{ new with lastUpdateTime := some p.time }] := by
    unfold stampUpdate mapDraft
    rw [if_pos hstanding.hasDraft.draft?]
    exact versions_mapLatest hversions _
  have hrecord := eq_of_blank_frame
    ((congrArg Subject.dataset.blank (frame_stampUpdate p.time d)).trans hblank)
  refine ⟨p.user, old, { new with lastUpdateTime := some p.time },
    (of_run_prepare_ok hprepare).caller, ?_, hopened, ?_, ?_⟩
  · intro u hu
    have hsame : (r.dataset.openDraft w.ids).1.draft? = some u := by
      unfold openDraft
      rwa [if_pos (by rw [hu]; rfl)]
    rw [draft?_of_versions hopened, if_pos hold] at hsame
    exact (Option.some.inj hsame).symm
  · have hid : (stampUpdate p.time d).id = r.dataset.id := by rw [hrecord]
    rw [← hid, hvisited, hstored]
    exact (Store.findDataset?_applyWork _ _ _).trans (if_pos rfl)
  · rw [← time_of_run_prepare hprepare]
    refine ⟨?_, ?_, ?_, ?_⟩
    · rw [← hsaved]
      exact hrecord
    · have hsame : new.core = { old with createTime := old.createTime.or (some p.time) }.core :=
        hcore
      rw [eq_of_core hsame]
    · obtain ⟨kept, hkept, hstamped⟩ := files_of_stages hprepare hstage
      refine ⟨kept, hkept, ?_⟩
      rw [← funext (stampFile_eq p.user.id p.time), ← hstamped, ← hfiles]
      exact files_mapDraft _ d
    · have hframe := frame_of_stages hprepare hstage
      rcases of_run_registerIfDue_ok hregister with rfl | ⟨himmediate, hnone⟩
      · exact Or.inr (identifier_of_frame ((frame_stampUpdate p.time _).trans hframe))
      · exact Or.inl ⟨himmediate, (identifier_of_frame hframe).2.1.symm.trans hnone⟩

/-- Files are deleted, one of them new and one that the published version is about. -/
theorem update_framed_when_deleting :
    ∃ o v, (update clearingRequest).run plainSurroundings emptyWorld = (.ok o, v) ∧
      surveyed.published.length = 1 ∧ surveyed.files.length = 2 ∧
      ∃ user old new, clearingRequest.principal = .authenticated user ∧
        (∀ u, surveyed.draft? = some u → u = old) ∧
        (surveyed.openDraft emptyWorld.ids).1.versions = surveyed.published ++ [old] ∧
        v.store.findDataset? surveyed.id = some o.dataset ∧
        Framed plainSurroundings user emptyWorld.clock.next surveyed old new o.dataset := by
  have hok : ((update clearingRequest).run plainSurroundings emptyWorld).1.toOption.isSome = true :=
    by decide +kernel
  cases hrun : (update clearingRequest).run plainSurroundings emptyWorld with
  | mk result v =>
    rw [hrun] at hok
    cases result with
    | error e => cases hok
    | ok o =>
      refine ⟨o, v, rfl, by decide +kernel, by decide +kernel, ?_⟩
      exact update_framed (by decide +kernel) hrun

end Repository

end Depository
