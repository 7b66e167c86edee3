import Depository.Proofs.Dataset.Holdings
import Depository.Proofs.Repository.Reregistration
import Depository.Proofs.Schema.Settling

/-!
# Saving settled fields

An update saves the fields of the draft as they were judged, without blank values. They are
settled, so that the next update finds nothing to object to and saves them again as they are.
-/

namespace Depository

/-- Whether a failure blames what is to be saved. -/
def Failure.isValidation : Failure → Bool
  | .validation _ _ => true
  | _ => false

namespace Dataset

/-- The fields of the draft, if there is one. -/
def draftFields? (d : Dataset) : Option (List Field) := d.draft?.map (·.fields)

/-! ### Changes of the draft -/

private theorem draft?_of_map {d e : Dataset} (change : Version → Version)
    (hchange : ∀ v, (change v).isDraft = v.isDraft) (he : e.latest? = d.latest?.map change) :
    e.draft? = d.draft?.map change := by
  unfold draft?
  rw [he]
  cases d.latest? with
  | none => rfl
  | some v =>
    by_cases hv : v.isDraft = true
    · simp [Option.filter, hchange, hv]
    · simp [Option.filter, hchange, hv]

private theorem draft?_mapLatest (d : Dataset) (change : Version → Version)
    (hchange : ∀ v, (change v).isDraft = v.isDraft) :
    (d.mapLatest change).draft? = d.draft?.map change :=
  draft?_of_map change hchange (getLast?_mapLast change d.versions)

theorem draft?_mapDraft (d : Dataset) (change : Version → Version)
    (hchange : ∀ v, (change v).isDraft = v.isDraft) :
    (d.mapDraft change).draft? = d.draft?.map change := by
  unfold mapDraft
  split
  · exact draft?_mapLatest d change hchange
  · next hnone =>
    have hdraft : d.draft? = none := by simpa using hnone
    rw [hdraft]
    rfl

theorem draft?_of_unidentified {d e : Dataset} (h : e.unidentified = d.unidentified) :
    e.draft? = d.draft? := by
  have hversions := congrArg Dataset.versions h
  have hsame : e.versions = d.versions := hversions
  rw [draft?, latest?, hsame]
  rfl

theorem draft?_removeDraftRecord {d : Dataset} {id : FileMetadataId} {record : FileMetadata}
    (h : d.draftRecord? id = some record) :
    (d.removeDraftRecord id).2.draft? = d.draft?.map fun v =>
      { v with fileMetadata := v.fileMetadata.eraseP fun fm => fm.id == id } := by
  simp only [removeDraftRecord, h]
  apply draft?_mapLatest d
  intro v
  rfl

theorem draft?_removeFile {d : Dataset} {x : DataFileId} {file : DataFile}
    (h : d.file? x = some file) :
    (d.removeFile x).2.draft? = d.draft?.map fun v =>
      { v with fileMetadata := v.fileMetadata.filter fun fm => fm.dataFile != x } := by
  simp only [removeFile, h]
  apply draft?_of_map
  · intro v
    rfl
  · exact List.getLast?_map

section Part

variable {β : Type} {part : Version → β}

/-- A part of the draft that a change does not touch. -/
theorem map_draft?_of_map {d e : Dataset} {change : Version → Version}
    (he : e.draft? = d.draft?.map change) (hpart : ∀ v, part (change v) = part v) :
    e.draft?.map part = d.draft?.map part := by
  rw [he, Option.map_map]
  congr 1
  funext v
  exact hpart v

variable (hpart : ∀ v records, part { v with fileMetadata := records } = part v)

include hpart

private theorem map_draft?_removeDraftRecord (id : FileMetadataId) (d : Dataset) :
    (d.removeDraftRecord id).2.draft?.map part = d.draft?.map part := by
  cases hrecord : d.draftRecord? id with
  | none => simp only [removeDraftRecord, hrecord]
  | some record => exact map_draft?_of_map (draft?_removeDraftRecord hrecord) fun v => hpart v _

private theorem map_draft?_removeFile (x : DataFileId) (d : Dataset) :
    (d.removeFile x).2.draft?.map part = d.draft?.map part := by
  cases hfile : d.file? x with
  | none => simp only [removeFile, hfile]
  | some file => exact map_draft?_of_map (draft?_removeFile hfile) fun v => hpart v _

end Part

end Dataset

namespace Repository

open Depository.Action Depository.Dataset

/-! ### The stages -/

private theorem draftFields?_stamp (user : UserId) (time : Time.Instant) (d : Dataset) :
    (stamp user time d).draftFields? = d.draftFields?.map tidyFields := by
  have hdraft : (stamp user time d).draft? = d.draft?.map (stampDraft time) :=
    d.draft?_mapDraft (stampDraft time) fun _ => rfl
  unfold draftFields?
  rw [hdraft, Option.map_map, Option.map_map]
  rfl

theorem map_draft?_stampUpdate {β : Type} {part : Version → β}
    (hpart : ∀ v time, part { v with lastUpdateTime := time } = part v) (time : Time.Instant)
    (d : Dataset) : (stampUpdate time d).draft?.map part = d.draft?.map part := by
  have hdraft : (stampUpdate time d).draft? =
      d.draft?.map fun v => { v with lastUpdateTime := some time } := by
    apply draft?_mapDraft d
    intro v
    rfl
  exact map_draft?_of_map hdraft fun v => hpart v _

/-- Deleting files touches nothing of the draft but its records. -/
theorem map_draft?_deleteAll {β : Type} {part : Version → β}
    (hpart : ∀ v records, part { v with fileMetadata := records } = part v)
    (deletions : List Deletion) (w : UnitOfWork) :
    (deleteAll deletions w).dataset.draft?.map part = w.dataset.draft?.map part := by
  have hdelete (w : UnitOfWork) (x : Deletion) :
      (delete w x).dataset.draft?.map part = w.dataset.draft?.map part := by
    unfold delete
    split
    · exact map_draft?_removeDraftRecord hpart x.record w.dataset
    · rw [dataset_deleteFile]
      exact map_draft?_removeFile hpart x.file w.dataset
  unfold deleteAll
  induction deletions generalizing w with
  | nil => rfl
  | cons x rest ih => rw [List.foldl_cons, ih, hdelete]

theorem draft?_clearThumbnail (deletions : List Deletion) (d : Dataset) :
    (clearThumbnail deletions d).draft? = d.draft? := by
  unfold clearThumbnail
  split <;> rfl

theorem returns_renewFingerprint_fields (d : Dataset) :
    Returns (fun e => e.draftFields? = d.draftFields?) (renewFingerprint d) := by
  unfold renewFingerprint
  split
  · exact returns_pure rfl
  · refine Returns.bind fun unf => returns_pure ?_
    exact map_draft?_of_map (draft?_mapLatest d _ fun _ => rfl) fun _ => rfl

/-- A stage tidies the fields of the draft. -/
theorem returns_stage_fields (p : PreparedUpdate) :
    Returns (fun work => work.dataset.draftFields? = p.dataset.draftFields?.map tidyFields)
      (stage p) := by
  have hbase (deletions : List Deletion) :
      (deleteAll deletions (.merge (clearThumbnail deletions
        (stamp p.user.id p.time p.dataset)))).dataset.draftFields? =
        p.dataset.draftFields?.map tidyFields := by
    rw [← draftFields?_stamp p.user.id p.time, draftFields?, map_draft?_deleteAll fun _ _ => rfl]
    exact congrArg _ (draft?_clearThumbnail deletions _)
  unfold stage
  dsimp only
  split
  · refine (returns_renewFingerprint_fields _).then fun e he => returns_pure ?_
    exact he.trans (hbase _)
  · exact returns_pure (hbase _)

/-- A draft that stands is judged as it was arranged. -/
theorem of_judgeDraft_ok {schema : Schema} {lenient : Bool} {d e : Dataset} (hdraft : d.HasDraft)
    (h : judgeDraft schema lenient d = .ok e) :
    ∃ draft judged, d.draft? = some draft ∧
      schema.judge lenient { draft with fields := schema.arrange draft.fields } = (none, judged) ∧
      e.draft? = some judged := by
  obtain ⟨older, draft, hversions, hv⟩ := hdraft
  have hlatest : d.latest? = some draft := by rw [latest?, hversions, List.getLast?_concat]
  have hkeeps := schema.judge_keeps lenient { draft with fields := schema.arrange draft.fields }
  unfold judgeDraft at h
  rw [hlatest] at h
  dsimp only at h
  split at h
  · cases h
  · next judged hjudged =>
    cases h
    rw [hjudged] at hkeeps
    have hstate : judged.isDraft = true := hkeeps.1.trans hv
    refine ⟨draft, judged, ?_, hjudged, ?_⟩
    · rw [draft?_of_versions hversions, if_pos hv]
    · rw [draft?_of_versions (versions_mapLatest hversions fun _ => judged), if_pos hstate]

/-- What an update saves are the fields that were judged, tidied. -/
private theorem fields_of_update {s : Surroundings} {r : UpdateRequest} {w v : World}
    {o : UpdateOutcome} (h : (update r).run s w = (.ok o, v)) :
    ∃ ids draft judged, (r.dataset.openDraft ids).1.draft? = some draft ∧
      s.schema.judge r.lenient { draft with fields := s.schema.arrange draft.fields } =
        (none, judged) ∧
      o.dataset.draftFields? = some (tidyFields judged.fields) := by
  obtain ⟨p, work, d, registration, w₁, w₂, w₃, w₄, hprepare, hstage, hregister, -, -, rfl⟩ :=
    of_run_update_ok h
  obtain ⟨hprepared, -⟩ := of_run_prepare_judged hprepare
  obtain ⟨draft, judged, hdraft, hjudged, hsaved⟩ :=
    of_judgeDraft_ok (hasDraft_openDraft r.dataset w.ids) hprepared
  have hstaged := returns_stage_fields p s w₁ work w₂ hstage
  have hregistered : d.draft? = work.dataset.draft? :=
    draft?_of_unidentified (returns_registerIfDue work.dataset s w₂ (d, registration) w₃ hregister)
  refine ⟨w.ids, draft, judged, hdraft, hjudged, ?_⟩
  have hstamped : (stampUpdate p.time d).draftFields? = d.draftFields? :=
    map_draft?_stampUpdate (fun _ _ => rfl) p.time d
  rw [hstamped, draftFields?, hregistered, ← draftFields?, hstaged, draftFields?, hsaved]
  rfl

/-! ### Failures -/

/-- Failures under the given settings and services blame nothing that is to be saved. -/
def Blameless (s : Surroundings) (x : Action α) : Prop :=
  ∀ w e v, x.run s w = (.error e, v) → e.isValidation = false

theorem Blameless.then {s : Surroundings} {x : Action α} {f : α → Action β} (hx : Blameless s x)
    (hf : ∀ a w v, x.run s w = (.ok a, v) → Blameless s (f a)) : Blameless s (x >>= f) := by
  intro w e u h
  rcases of_run_bind_error h with h | ⟨a, v, ha, h⟩
  · exact hx w e u h
  · exact hf a w v ha v e u h

private theorem blameless_of_succeeds {s : Surroundings} {x : Action α} (h : Succeeds x) :
    Blameless s x := by
  intro w e v hrun
  obtain ⟨a, u, ha⟩ := h s w
  cases ha.symm.trans hrun

private theorem blameless_fail {s : Surroundings} {e : Failure} (h : e.isValidation = false) :
    Blameless s (fail e : Action α) := by
  intro w e' v hrun
  cases hrun
  exact h

private theorem blameless_askStore (s : Surroundings) (call : StoreCall) (question : Store → α) :
    Blameless s (askStore call question) := by
  intro w e v h
  change (askStore call question) s w = _ at h
  unfold askStore callStore at h
  split at h
  · cases h
    rfl
  · cases h

private theorem blameless_authorize (s : Surroundings) (principal : Principal)
    (dataset : DatasetId) :
    Blameless s (authorize principal dataset) := by
  cases principal with
  | guest => exact blameless_fail rfl
  | authenticated u =>
    have hpermissions : Blameless s (permissionsOfUser u dataset) := by
      unfold permissionsOfUser
      split
      · exact blameless_of_succeeds (succeeds_pure _)
      · exact blameless_askStore s _ _
    have hcheck (canPublish : Bool) : Blameless s (checkEdit dataset canPublish) := by
      refine (blameless_askStore s _ _).then fun locks _ _ _ => ?_
      split
      · exact blameless_of_succeeds (succeeds_pure _)
      · exact blameless_fail rfl
    refine hpermissions.then fun permissions _ _ _ => ?_
    split
    · exact (hcheck _).then fun _ _ _ _ => blameless_of_succeeds (succeeds_pure u)
    · exact blameless_fail rfl

/-- A commit is refused by the store only. -/
private theorem blameless_commit (s : Surroundings) (work : UnitOfWork) :
    Blameless s (commit work) := by
  intro w e v h
  rcases run_commit work s w with ⟨_, _, hfailed⟩ | ⟨-, hstored⟩
  · cases h.symm.trans hfailed
    rfl
  · cases h.symm.trans hstored

theorem succeeds_follow (user : User) (time : Time.Instant) (saved : Dataset) :
    Succeeds (follow user time saved) := by
  intro s w
  obtain ⟨v, hrun, -⟩ := run_follow user time saved s w
  exact ⟨(), _, hrun⟩

/-- Where nothing is deleted, the fingerprint stays and the ingest service is not asked. -/
theorem succeeds_stage {p : PreparedUpdate} (h : p.records = []) : Succeeds (stage p) := by
  unfold stage
  rw [h]
  exact succeeds_pure _

private theorem blameless_carryOut (s : Surroundings) {p : PreparedUpdate} (h : p.records = []) :
    Blameless s (carryOut p) := by
  refine (blameless_of_succeeds (succeeds_stage h)).then fun work _ _ _ => ?_
  refine (blameless_of_succeeds (succeeds_registerIfDue _)).then fun x _ _ _ => ?_
  refine (blameless_commit s _).then fun saved _ _ _ => ?_
  refine (blameless_of_succeeds (succeeds_follow _ _ saved)).then fun _ _ _ _ => ?_
  exact blameless_of_succeeds (succeeds_pure _)

/-- A request that deletes nothing, on a dataset whose draft stands, is not refused for it. -/
private theorem blameless_update {s : Surroundings} {r : UpdateRequest} {d : Dataset}
    (hopen : ∀ ids, (r.dataset.openDraft ids).1 = r.dataset)
    (hjudge : judgeDraft s.schema r.lenient r.dataset = .ok d) (hrecords : r.records = [])
    (hfile : r.file = none) : Blameless s (update r) := by
  have hprepare : Blameless s (prepare r) := by
    have hnow : Succeeds now := fun s w => ⟨w.clock.next, _, rfl⟩
    have hids : Succeeds (withIds fun ids => r.dataset.openDraft ids) := fun s w => ⟨_, _, rfl⟩
    refine (blameless_of_succeeds hnow).then fun time _ _ _ => ?_
    refine (blameless_authorize s r.principal r.dataset.id).then fun user _ _ _ => ?_
    refine (blameless_of_succeeds hids).then fun opened w v hopened => ?_
    refine (blameless_of_succeeds succeeds_surroundings).then fun s' w' v' hs' => ?_
    have hsame : opened = r.dataset := by
      rw [← hopen w.ids]
      exact (Except.ok.inj (congrArg Prod.fst hopened)).symm
    cases hs'
    rw [hsame, hjudge]
    refine (blameless_of_succeeds fun s w => ⟨d, w, rfl⟩).then fun e _ _ _ => ?_
    rw [hrecords, hfile]
    refine (blameless_of_succeeds fun s w => ⟨[], w, rfl⟩).then fun records _ _ _ => ?_
    exact blameless_of_succeeds (succeeds_pure _)
  refine hprepare.then fun p w v hp => ?_
  exact blameless_carryOut s (returns_prepare_records r s w p v hp hrecords hfile)

/-! ### Saved and saved again -/

private theorem judge_of_settled {schema : Schema} (hs : schema.DistinctNames) {draft : Version}
    (h : schema.Settled draft.fields) (lenient : Bool) :
    schema.judge lenient { draft with fields := schema.arrange draft.fields } =
      (none, { draft with fields := schema.arrange draft.fields }) :=
  Schema.judge_of_valid (h.validate_arrange hs) lenient

/-- A settled draft is not refused for its fields, and its fields are saved as they are. -/
private theorem saved_again_of_settled {s : Surroundings} (hs : s.schema.DistinctNames)
    {d : Dataset}
    {draft : Version} (hdraft : d.draft? = some draft) (h : s.schema.Settled draft.fields)
    (principal : Principal) (w : World) :
    match (update ⟨principal, d, [], none, false⟩).run s w with
    | (.error e, _) => e.isValidation = false
    | (.ok o, _) => o.dataset.draftFields? = some draft.fields := by
  have hopen (ids : Supply Uuid) : (d.openDraft ids).1 = d := by
    have hsome : d.draft?.isSome = true := by rw [hdraft]; rfl
    unfold openDraft
    rw [if_pos hsome]
  have hjudge : judgeDraft s.schema false d =
      .ok (d.mapLatest fun _ => { draft with fields := s.schema.arrange draft.fields }) := by
    have hlatest : d.latest? = some draft := (Option.filter_eq_some_iff.mp hdraft).1
    unfold judgeDraft
    rw [hlatest]
    dsimp only
    rw [judge_of_settled hs h]
  have hblameless : Blameless s (update ⟨principal, d, [], none, false⟩) :=
    blameless_update hopen hjudge rfl rfl
  cases hrun : (update ⟨principal, d, [], none, false⟩).run s w with
  | mk result v =>
    cases result with
    | error e => exact hblameless w e v hrun
    | ok o =>
      obtain ⟨ids, opened, judged, hopened, hjudged, hfields⟩ := fields_of_update hrun
      rw [hopen ids, hdraft] at hopened
      cases hopened
      rw [judge_of_settled hs h] at hjudged
      cases hjudged
      dsimp only
      rw [hfields, h.tidyFields_arrange]

/-- What an update saves is settled, whether the update was lenient or not: the fields of the draft
satisfy the schema, have no blank values, and stand in its order. A strict update that deletes
nothing, made by anybody at any time, then does not fail for the fields and saves the same ones. -/
theorem update_saves_settled_fields {s : Surroundings} {r : UpdateRequest} {w v : World}
    {o : UpdateOutcome} (hs : s.schema.DistinctNames) (h : (update r).run s w = (.ok o, v)) :
    v.store.findDataset? r.dataset.id = some o.dataset ∧
      ∃ draft, o.dataset.draft? = some draft ∧ s.schema.Settled draft.fields ∧
        ∀ principal s' w', s'.schema = s.schema →
          match (update ⟨principal, o.dataset, [], none, false⟩).run s' w' with
          | (.error e, _) => e.isValidation = false
          | (.ok o', _) => o'.dataset.draftFields? = some draft.fields := by
  have hended := updateRun s w r
  rw [h] at hended
  obtain ⟨u, -, hsaved⟩ := hended.of_ok
  obtain ⟨ids, opened, judged, -, hjudged, hfields⟩ := fields_of_update h
  obtain ⟨draft, hdraft, hdraftFields⟩ := Option.map_eq_some_iff.mp hfields
  have hsettled : s.schema.Settled draft.fields := by
    rw [hdraftFields]
    exact Schema.settled_of_judge hs hjudged
  refine ⟨hsaved.stored, draft, hdraft, hsettled, ?_⟩
  intro principal s' w' hschema
  rw [← hschema] at hs hsettled
  exact saved_again_of_settled hs hdraft hsettled principal w'

/-! ### A draft that is repaired -/

/-- Surroundings for datasets that have depths, in whole numbers. -/
def soundingSurroundings : Surroundings :=
  { calmSurroundings with schema := ⟨"sounding", [⟨"depth", .integer, true, true⟩]⟩ }

def unsettledDraft : Dataset :=
  titledDraft.mapLatest fun v => { v with fields := [⟨"depth", ["", "deep", "12"]⟩] }

/-- A lenient update leaves out a blank depth and repairs one that is no number; the next update
keeps what is left. -/
theorem update_saves_settled_fields_when_repaired :
    soundingSurroundings.schema.DistinctNames ∧ ∃ o v o' v',
      (update { savingRequest unsettledDraft with lenient := true }).run soundingSurroundings
        emptyWorld = (.ok o, v) ∧
      o.dataset.draftFields? = some [⟨"depth", ["N/A", "12"]⟩] ∧
      soundingSurroundings.schema.Settled [⟨"depth", ["N/A", "12"]⟩] ∧
      (update (savingRequest o.dataset)).run soundingSurroundings v = (.ok o', v') ∧
      o'.dataset.draftFields? = some [⟨"depth", ["N/A", "12"]⟩] := by
  have hs : soundingSurroundings.schema.DistinctNames := by
    unfold Schema.DistinctNames
    decide +kernel
  have hfields : ((update { savingRequest unsettledDraft with lenient := true }).run
      soundingSurroundings emptyWorld).1.toOption.bind (fun o => o.dataset.draftFields?) =
        some [⟨"depth", ["N/A", "12"]⟩] := by
    decide +kernel
  have hok : ((update { savingRequest unsettledDraft with lenient := true }).run
      soundingSurroundings emptyWorld).1.toOption.any (fun o =>
        ((update (savingRequest o.dataset)).run soundingSurroundings
          ((update { savingRequest unsettledDraft with lenient := true }).run
            soundingSurroundings emptyWorld).2).1.toOption.isSome) = true := by
    decide +kernel
  cases hrun : (update { savingRequest unsettledDraft with lenient := true }).run
      soundingSurroundings emptyWorld with
  | mk result v =>
    rw [hrun] at hfields hok
    cases result with
    | error e => cases hfields
    | ok o =>
      obtain ⟨-, draft, hdraft, hsettled, hagain⟩ := update_saves_settled_fields hs hrun
      have hsaved : o.dataset.draftFields? = some draft.fields := by
        unfold draftFields?
        rw [hdraft]
        rfl
      have hdraftFields : draft.fields = [⟨"depth", ["N/A", "12"]⟩] :=
        Option.some.inj (hsaved.symm.trans hfields)
      rw [hdraftFields] at hsettled hsaved hagain
      have hagain := hagain (savingRequest o.dataset).principal soundingSurroundings v rfl
      cases hrun' : (update (savingRequest o.dataset)).run soundingSurroundings v with
      | mk result' v' =>
        have hok' : ((update (savingRequest o.dataset)).run soundingSurroundings
            v).1.toOption.isSome = true := hok
        rw [hrun'] at hok'
        cases result' with
        | error e => cases hok'
        | ok o' =>
          rw [show (update ⟨(savingRequest o.dataset).principal, o.dataset, [], none, false⟩).run
            soundingSurroundings v = (.ok o', v') from hrun'] at hagain
          exact ⟨hs, o, v, o', v', rfl, hsaved, hsettled, hrun', hagain⟩

end Repository

end Depository
