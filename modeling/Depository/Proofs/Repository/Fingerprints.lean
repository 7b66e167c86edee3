import Depository.Dataset.Fingerprint
import Depository.Proofs.Dataset.WellFormed
import Depository.Proofs.Repository.Deletion
import Depository.Proofs.Repository.Saving

/-!
# Fingerprints of saved drafts

An update renews the fingerprint of the draft only where one of the files that it deletes has one.
The deletion of other files leaves the fingerprints that are summed up as they were, so that a draft
whose fingerprint was right is saved with the right one in either case.
-/

namespace Depository

section Lists

variable {α β : Type} {p : α → Bool} {f : α → Option β} {l : List α}

/-- Elements without a value may be erased. -/
private theorem filterMap_eraseP (h : ∀ a ∈ l, p a = true → f a = none) :
    (l.eraseP p).filterMap f = l.filterMap f := by
  induction l with
  | nil => rfl
  | cons a rest ih =>
    obtain ⟨ha, hrest⟩ := List.forall_mem_cons.mp h
    by_cases hp : p a = true
    · rw [List.eraseP_cons_of_pos hp, List.filterMap_cons_none (ha hp)]
    · rw [List.eraseP_cons_of_neg hp, List.filterMap_cons, List.filterMap_cons, ih hrest]

/-- Elements without a value may be filtered out. -/
private theorem filterMap_filter_of_none (h : ∀ a ∈ l, p a = false → f a = none) :
    (l.filter p).filterMap f = l.filterMap f := by
  rw [List.filterMap_filter]
  apply List.filterMap_congr
  intro a ha
  by_cases hp : p a = true
  · simp [hp]
  · simp [hp, h a ha (by simpa using hp)]

end Lists

/-- Records of one identity are about one file. -/
def NameOneFile (records : List FileMetadata) : Prop :=
  ∀ r ∈ records, ∀ q ∈ records, r.id = q.id → r.dataFile = q.dataFile

namespace Holdings

/-- The fingerprint of a file, if it has one. -/
def unf? (h : Holdings) (x : DataFileId) : Option String := (h.file? x).bind (·.unf)

/-- The fingerprints of the files that the records are about, one for each record. -/
def fingerprints (h : Holdings) : List String := h.records.filterMap fun r => h.unf? r.dataFile

/-- Only records about files without fingerprints were taken out. -/
structure Thinned (h k : Holdings) : Prop where
  fingerprints : k.fingerprints = h.fingerprints
  kept : ∀ r ∈ k.records, r ∈ h.records ∧ k.unf? r.dataFile = h.unf? r.dataFile

theorem Thinned.refl (h : Holdings) : Thinned h h := ⟨rfl, fun _ hr => ⟨hr, rfl⟩⟩

theorem Thinned.trans {h k l : Holdings} (hk : Thinned h k) (kl : Thinned k l) : Thinned h l := by
  refine ⟨kl.fingerprints.trans hk.fingerprints, ?_⟩
  intro r hr
  obtain ⟨hr, hkl⟩ := kl.kept r hr
  obtain ⟨hr, hhk⟩ := hk.kept r hr
  exact ⟨hr, hkl.trans hhk⟩

/-- Where files keep their fingerprints, it matters only which records are taken out. -/
private theorem thinned_of_filterMap {h k : Holdings}
    (hfiles : ∀ r ∈ k.records, k.unf? r.dataFile = h.unf? r.dataFile)
    (hmem : ∀ r ∈ k.records, r ∈ h.records)
    (hsame : (k.records.filterMap fun r => h.unf? r.dataFile) =
      h.records.filterMap fun r => h.unf? r.dataFile) : Thinned h k := by
  refine ⟨?_, fun r hr => ⟨hmem r hr, hfiles r hr⟩⟩
  rw [fingerprints, List.filterMap_congr hfiles, hsame]
  rfl

end Holdings

namespace Dataset

private theorem unf?_holdings (d : Dataset) (x : DataFileId) :
    d.holdings.unf? x = (d.file? x).bind (·.unf) := by
  rw [Holdings.unf?, file?_holdings]
  cases d.file? x <;> rfl

private theorem fingerprints_of_versions {d : Dataset} {older : List Version} {v : Version}
    (h : d.versions = older ++ [v]) (hv : v.isDraft = true) :
    d.holdings.fingerprints = v.fileFingerprints d.files := by
  have hunf (r : FileMetadata) : d.holdings.unf? r.dataFile =
      (d.files.find? fun f => f.id == r.dataFile).bind (·.unf) := d.unf?_holdings r.dataFile
  simp only [Holdings.fingerprints, hunf, records_of_versions h hv, Version.fileFingerprints,
    List.filterMap_filterMap]

/-- The last version has the fingerprint of the files that its records are about. -/
def Truthful (d : Dataset) : Prop :=
  ∀ v, d.latest? = some v → v.unf = v.fingerprint? d.files

private theorem fingerprint?_congr {files files' : List DataFile} {u v : Version}
    (h : u.fileFingerprints files = v.fileFingerprints files') :
    u.fingerprint? files = v.fingerprint? files' := by
  simp only [Version.fingerprint?, h]

/-- A draft with the same fingerprint as one that was right, over the same fingerprints of files. -/
private theorem Truthful.carry {d e : Dataset} (h : d.Truthful) (hd : d.HasDraft) (he : e.HasDraft)
    (hunf : e.draft?.map (·.unf) = d.draft?.map (·.unf))
    (hfingerprints : e.holdings.fingerprints = d.holdings.fingerprints) : e.Truthful := by
  obtain ⟨older, v, hversions, hv⟩ := hd
  obtain ⟨older', u, hversions', hu⟩ := he
  have hlatest : d.latest? = some v := by rw [latest?, hversions, List.getLast?_concat]
  have hlatest' : e.latest? = some u := by rw [latest?, hversions', List.getLast?_concat]
  have hsame : u.unf = v.unf := by
    rw [draft?_of_versions hversions, draft?_of_versions hversions', if_pos hv, if_pos hu] at hunf
    exact Option.some.inj hunf
  intro t ht
  cases hlatest'.symm.trans ht
  rw [hsame, h v hlatest]
  apply fingerprint?_congr
  rw [← fingerprints_of_versions hversions hv, ← fingerprints_of_versions hversions' hu,
    hfingerprints]

/-! ### The draft that is opened -/

private theorem fileFingerprints_eq (files : List DataFile) (v : Version) :
    v.fileFingerprints files = (v.fileMetadata.map (·.dataFile)).filterMap fun x =>
      (files.find? fun f => f.id == x).bind (·.unf) := by
  rw [Version.fileFingerprints, List.filterMap_filterMap, List.filterMap_map]
  rfl

/-- A copy has the fingerprint of its model and refers to the same files. -/
theorem Truthful.openDraft {d : Dataset} (h : d.Truthful) (ids : Supply Uuid) :
    (d.openDraft ids).1.Truthful := by
  unfold Dataset.openDraft
  split
  · exact h
  · split
    · next v hlatest =>
      have hcopy : (d.appendDerived ids v).latest? = some (v.derive ids) := List.getLast?_concat
      intro u hu
      cases hcopy.symm.trans hu
      show v.unf = _
      rw [h v hlatest]
      apply fingerprint?_congr
      rw [fileFingerprints_eq, fileFingerprints_eq]
      show _ = ((v.copiedRecords ids).map (·.dataFile)).filterMap _
      rw [dataFile_copiedRecords]
      rfl
    · intro u hu
      cases hu
      rfl

/-- In a copy the records have fresh identities. -/
private theorem nameOneFile_openDraft {d : Dataset} {ids : Supply Uuid}
    (hdraft : ∀ v, d.draft? = some v → NameOneFile v.fileMetadata)
    (hids : ∀ v, d.latest? = some v → v.isDraft = false → Fresh ids v.fileMetadata.length) :
    NameOneFile (d.openDraft ids).1.holdings.records := by
  unfold Dataset.openDraft
  split
  · next hsome =>
    obtain ⟨v, hv⟩ := Option.isSome_iff_exists.mp hsome
    simpa [holdings, hv] using hdraft v hv
  · next hnone =>
    split
    · next v hlatest =>
      have hv : v.isDraft = false := by simpa [draft?, hlatest, Option.filter] using hnone
      have hversions : (d.appendDerived ids v).versions = d.versions ++ [v.derive ids] := rfl
      rw [records_of_versions hversions rfl]
      intro r hr q hq hid
      rw [List.inj_on_of_nodup_map (nodup_copiedRecords (hids v hlatest hv)) hr hq hid]
    · intro r hr
      cases hr

/-! ### Deletions -/

private theorem thinned_removeDraftRecord {d : Dataset} {id : FileMetadataId}
    (h : ∀ r ∈ d.holdings.records, r.id = id → d.holdings.unf? r.dataFile = none) :
    d.holdings.Thinned (d.removeDraftRecord id).2.holdings := by
  cases hrecord : d.draftRecord? id with
  | none =>
    simp only [removeDraftRecord, hrecord]
    exact .refl _
  | some record =>
    have hrecords : (d.removeDraftRecord id).2.holdings.records =
        d.holdings.records.eraseP fun r => r.id == id := by
      simp only [holdings, draft?_removeDraftRecord hrecord]
      cases d.draft? <;> rfl
    have hfiles (x : DataFileId) :
        (d.removeDraftRecord id).2.holdings.unf? x = d.holdings.unf? x := by
      simp only [removeDraftRecord, hrecord]
      rfl
    apply Holdings.thinned_of_filterMap
    · intro r _
      exact hfiles r.dataFile
    · intro r hr
      rw [hrecords] at hr
      exact List.mem_of_mem_eraseP hr
    · rw [hrecords]
      apply filterMap_eraseP
      intro r hr hid
      exact h r hr (by simpa using hid)

private theorem thinned_removeFile {d : Dataset} {x : DataFileId}
    (h : ∀ r ∈ d.holdings.records, r.dataFile = x → d.holdings.unf? r.dataFile = none) :
    d.holdings.Thinned (d.removeFile x).2.holdings := by
  cases hfile : d.file? x with
  | none =>
    simp only [removeFile, hfile]
    exact .refl _
  | some file =>
    have hrecords : (d.removeFile x).2.holdings.records =
        d.holdings.records.filter fun r => r.dataFile != x := by
      simp only [holdings, draft?_removeFile hfile]
      cases d.draft? <;> rfl
    apply Holdings.thinned_of_filterMap
    · intro r hr
      rw [hrecords] at hr
      have hne : r.dataFile ≠ x := by simpa using (List.mem_filter.mp hr).2
      rw [unf?_holdings, unf?_holdings, file?_removeFile_of_ne hne]
    · intro r hr
      rw [hrecords] at hr
      exact (List.mem_filter.mp hr).1
    · rw [hrecords]
      apply filterMap_filter_of_none
      intro r hr hx
      exact h r hr (by simpa using hx)

end Dataset

namespace Repository

open Depository.Action Depository.Dataset

/-- The records that a deletion may take out are about files without fingerprints. -/
def Deletion.Harmless (x : Deletion) (h : Holdings) : Prop :=
  ∀ r ∈ h.records, r.id = x.record ∨ r.dataFile = x.file → h.unf? r.dataFile = none

private theorem Deletion.Harmless.of_thinned {x : Deletion} {h k : Holdings} (hx : x.Harmless h)
    (hk : h.Thinned k) : x.Harmless k := by
  intro r hr htaken
  obtain ⟨hr, hsame⟩ := hk.kept r hr
  rw [hsame]
  exact hx r hr htaken

private theorem thinned_delete {w : UnitOfWork} {x : Deletion} (h : x.Harmless w.dataset.holdings) :
    w.dataset.holdings.Thinned (delete w x).dataset.holdings := by
  unfold delete
  split
  · apply thinned_removeDraftRecord
    intro r hr hid
    exact h r hr (Or.inl hid)
  · rw [dataset_deleteFile]
    apply thinned_removeFile
    intro r hr hfile
    exact h r hr (Or.inr hfile)

/-- Deletions that do no harm at the start do none later on. -/
private theorem thinned_deleteAll {deletions : List Deletion} {w : UnitOfWork}
    (h : ∀ x ∈ deletions, x.Harmless w.dataset.holdings) :
    w.dataset.holdings.Thinned (deleteAll deletions w).dataset.holdings := by
  unfold deleteAll
  induction deletions generalizing w with
  | nil => exact .refl _
  | cons x rest ih =>
    obtain ⟨hx, hrest⟩ := List.forall_mem_cons.mp h
    have hthinned := thinned_delete hx
    apply hthinned.trans
    apply ih
    intro y hy
    exact (hrest y hy).of_thinned hthinned

/-- A record that is named stands for the file that was looked up, since no other file has its
identity. -/
private theorem harmless_of_untouched {d : Dataset} {records : List FileMetadataId}
    (hnamed : NameOneFile d.holdings.records)
    (h : touchesFingerprint (deletionsOf records d) d = false) :
    ∀ x ∈ deletionsOf records d, x.Harmless d.holdings := by
  intro x hx r hr htaken
  have hsilent : d.holdings.unf? x.file = none := by
    rw [unf?_holdings]
    simpa using List.any_eq_false.mp h x hx
  have hfile : r.dataFile = x.file := by
    rcases htaken with hid | hfile
    · obtain ⟨id, -, hfound⟩ := List.mem_filterMap.mp hx
      obtain ⟨q, hq, rfl⟩ := Option.map_eq_some_iff.mp hfound
      rw [draftRecord?_eq] at hq
      have hqid : q.id = id := by simpa using List.find?_some hq
      exact hnamed r hr q (List.mem_of_find?_eq_some hq) (hid.trans hqid.symm)
    · exact hfile
  rw [hfile, hsilent]

/-! ### The stages -/

private theorem truthful_of_run_renewFingerprint {d e : Dataset} {s : Surroundings} {w v : World}
    (hingest : s.ingest = fun _ v files => .ok (v.fingerprint? files)) (hdraft : d.HasDraft)
    (h : (renewFingerprint d).run s w = (.ok e, v)) : e.Truthful := by
  obtain ⟨older, draft, hversions, hv⟩ := hdraft
  rw [run_renewFingerprint hversions] at h
  obtain ⟨unf, u, hunf, h⟩ := of_run_bind_ok h
  cases h
  have hrenewed : unf = draft.fingerprint? d.files := by
    change (s.ingest _ draft d.files, _) = _ at hunf
    rw [hingest] at hunf
    cases hunf
    rfl
  intro t ht
  have hlatest : (d.mapLatest fun v => { v with unf }).latest? = some { draft with unf } := by
    rw [latest?, versions_mapLatest hversions, List.getLast?_concat]
  cases hlatest.symm.trans ht
  exact hrenewed

/-- The fingerprint is renewed, or none that counts is gone. -/
private theorem truthful_of_run_stage {p : PreparedUpdate} {s : Surroundings} {w v : World}
    {work : UnitOfWork} (hingest : s.ingest = fun _ v files => .ok (v.fingerprint? files))
    (hdraft : p.dataset.HasDraft) (hnamed : NameOneFile p.dataset.holdings.records)
    (htruthful : p.dataset.Truthful) (h : (stage p).run s w = (.ok work, v)) :
    work.dataset.Truthful := by
  let d := stamp p.user.id p.time p.dataset
  let deletions := deletionsOf p.records d
  let base := deleteAll deletions (.merge (clearThumbnail deletions d))
  have hd : d.HasDraft := (staged_stamp hdraft p.user.id p.time).hasDraft
  have hbase : base.dataset.HasDraft := (stagedWork_deleteAll hd p.records).staged.hasDraft
  have hheld : d.holdings = p.dataset.holdings := holdings_stamp _ _ _
  change (if touchesFingerprint deletions d then _ else _ : Action UnitOfWork).run s w = _ at h
  split at h
  · obtain ⟨e, u, he, h⟩ := of_run_bind_ok h
    cases h
    exact truthful_of_run_renewFingerprint hingest hbase he
  · next htouches =>
    cases h
    have hharmless : ∀ x ∈ deletions, x.Harmless (clearThumbnail deletions d).holdings := by
      rw [holdings_clearThumbnail]
      exact harmless_of_untouched (hheld ▸ hnamed) (by simpa using htouches)
    have hthinned := thinned_deleteAll (w := .merge (clearThumbnail deletions d)) hharmless
    apply htruthful.carry hdraft hbase
    · show base.dataset.draft?.map (·.unf) = _
      rw [map_draft?_deleteAll fun _ _ => rfl]
      show (clearThumbnail deletions d).draft?.map _ = _
      rw [draft?_clearThumbnail]
      exact map_draft?_of_map (p.dataset.draft?_mapDraft (stampDraft p.time) fun _ => rfl)
        fun _ => rfl
    · show base.dataset.holdings.fingerprints = _
      rw [hthinned.fingerprints, ← hheld]
      show (clearThumbnail deletions d).holdings.fingerprints = _
      rw [holdings_clearThumbnail]
      rfl

private theorem truthful_of_judgeDraft {schema : Schema} {lenient : Bool} {d e : Dataset}
    (hdraft : d.HasDraft) (h : d.Truthful) (he : judgeDraft schema lenient d = .ok e) :
    e.Truthful := by
  apply h.carry hdraft (staged_judgeDraft hdraft he).hasDraft
  · obtain ⟨draft, judged, hdraft, hjudged, hsaved⟩ := of_judgeDraft_ok hdraft he
    obtain ⟨fields, problems, hrewritten⟩ :=
      schema.judge_rewrites lenient { draft with fields := schema.arrange draft.fields }
    rw [hjudged] at hrewritten
    have hunf : judged.unf = draft.unf := by
      change judged = _ at hrewritten
      rw [hrewritten]
    rw [hdraft, hsaved, Option.map_some, Option.map_some, hunf]
  · rw [holdings_judgeDraft he]

/-- An update of a dataset whose last version has the right fingerprint saves a draft that has it
too, for whatever is deleted, if fingerprints are found here and no record of the draft shares its
identity with a record about another file. -/
theorem update_keeps_fingerprint {s : Surroundings} {w v : World} {r : UpdateRequest}
    {o : UpdateOutcome} (hingest : s.ingest = fun _ v files => .ok (v.fingerprint? files))
    (hnamed : ∀ u, r.dataset.draft? = some u → NameOneFile u.fileMetadata)
    (hids : ∀ u, r.dataset.latest? = some u → u.isDraft = false →
      Fresh w.ids u.fileMetadata.length)
    (htruthful : r.dataset.Truthful) (h : (update r).run s w = (.ok o, v)) :
    v.store.findDataset? r.dataset.id = some o.dataset ∧
      ∃ draft, o.dataset.draft? = some draft ∧ draft.unf = draft.fingerprint? o.dataset.files := by
  have hended := updateRun s w r
  rw [h] at hended
  obtain ⟨u, -, hstored⟩ := hended.of_ok
  refine ⟨hstored.stored, ?_⟩
  obtain ⟨p, work, d, registration, w₁, w₂, w₃, w₄, hprepare, hstage, hregister, -, -, rfl⟩ :=
    of_run_update_ok h
  obtain ⟨hjudged, -⟩ := of_run_prepare_judged hprepare
  have hopened := hasDraft_openDraft r.dataset w.ids
  have hprepared : p.dataset.Truthful :=
    truthful_of_judgeDraft hopened (htruthful.openDraft w.ids) hjudged
  have hpreparedDraft := (returns_prepare r s w p w₁ hprepare).hasDraft
  have hpreparedNamed : NameOneFile p.dataset.holdings.records := by
    rw [holdings_judgeDraft hjudged]
    exact nameOneFile_openDraft hnamed hids
  have hwork : work.dataset.Truthful :=
    truthful_of_run_stage hingest hpreparedDraft hpreparedNamed hprepared hstage
  have hworkDraft := (returns_stage hpreparedDraft s w₁ work w₂ hstage).staged.hasDraft
  have hsaved := (stagedWork_of_saved hprepare hstage hregister).staged.hasDraft
  have hregistered := returns_registerIfDue work.dataset s w₂ (d, registration) w₃ hregister
  have hsame : (stampUpdate p.time d).Truthful := by
    apply hwork.carry hworkDraft hsaved
    · rw [map_draft?_stampUpdate fun _ _ => rfl, draft?_of_unidentified hregistered]
    · rw [holdings_stampUpdate, holdings_of_unidentified hregistered]
  obtain ⟨older, draft, hversions, hdraft⟩ := hsaved
  refine ⟨draft, ?_, ?_⟩
  · exact (draft?_of_versions hversions).trans (if_pos hdraft)
  · apply hsame
    exact (congrArg _ hversions).trans List.getLast?_concat

/-! ### Fingerprints that are right at first -/

/-- The dataset with the right fingerprint of its last version. -/
def fingerprinted (d : Dataset) : Dataset :=
  d.mapLatest fun v => { v with unf := v.fingerprint? d.files }

private theorem truthful_fingerprinted (d : Dataset) : (fingerprinted d).Truthful := by
  intro v hv
  have hlatest : (fingerprinted d).latest? =
      d.latest?.map fun v => { v with unf := v.fingerprint? d.files } :=
    getLast?_mapLast _ d.versions
  rw [hlatest] at hv
  obtain ⟨u, -, rfl⟩ := Option.map_eq_some_iff.mp hv
  rfl

/-- Surroundings in which fingerprints are found here. -/
def summingSurroundings : Surroundings :=
  { plainSurroundings with ingest := fun _ v files => .ok (v.fingerprint? files) }

/-- The fingerprint is right after a tabular file was deleted that is named twice. -/
theorem update_keeps_fingerprint_when_named_twice :
    ∃ o v, (update { clearingRequest with dataset := fingerprinted surveyed }).run
        summingSurroundings emptyWorld = (.ok o, v) ∧
      v.store.findDataset? surveyed.id = some o.dataset ∧
      ∃ draft, o.dataset.draft? = some draft ∧
        draft.unf = draft.fingerprint? o.dataset.files := by
  have hok : ((update { clearingRequest with dataset := fingerprinted surveyed }).run
      summingSurroundings emptyWorld).1.toOption.isSome = true := by decide +kernel
  have hdraft : (fingerprinted surveyed).draft?.all (fun u =>
      u.isDraft && decide (u.fileMetadata.map (·.id)).Nodup) = true := by decide +kernel
  have hnamed (u : Version) (hu : (fingerprinted surveyed).draft? = some u) :
      NameOneFile u.fileMetadata := by
    rw [hu] at hdraft
    have hnodup : (u.fileMetadata.map (·.id)).Nodup := by
      simp only [Option.all_some, Bool.and_eq_true, decide_eq_true_eq] at hdraft
      exact hdraft.2
    intro r hr q hq hid
    rw [List.inj_on_of_nodup_map hnodup hr hq hid]
  have hids (u : Version) (hu : (fingerprinted surveyed).latest? = some u)
      (hstate : u.isDraft = false) : Fresh emptyWorld.ids u.fileMetadata.length := by
    have hsome : (fingerprinted surveyed).latest?.any (·.isDraft) = true := by decide +kernel
    rw [hu, Option.any_some, hstate] at hsome
    cases hsome
  cases hrun : (update { clearingRequest with dataset := fingerprinted surveyed }).run
      summingSurroundings emptyWorld with
  | mk result v =>
    rw [hrun] at hok
    cases result with
    | error e => cases hok
    | ok o =>
      obtain ⟨hstored, hright⟩ :=
        update_keeps_fingerprint rfl hnamed hids (truthful_fingerprinted surveyed) hrun
      have hid : (fingerprinted surveyed).id = surveyed.id := rfl
      exact ⟨o, v, rfl, hid ▸ hstored, hright⟩

/-- A draft with two records of one identity, about a released file without a fingerprint and about
a released file with one. -/
def doublyNamed : Dataset :=
  let plain := { DataFile.new ⟨⟨3⟩⟩ "text/csv" 9 "b021" with publicationDate := some .epoch }
  let tabular := { plain with id := ⟨⟨7⟩⟩, unf := some "UNF:6:x" }
  fingerprinted ({ titledDraft with files := [plain, tabular] }.mapLatest fun v =>
    { v with fileMetadata :=
        [.new ⟨⟨20⟩⟩ plain.id "gauge.csv", .new ⟨⟨20⟩⟩ tabular.id "survey.tab"] })

/-- Named twice, the identity takes out both records. Only the file of the first was asked for a
fingerprint, so that of the draft is left without a file that it could be of. -/
theorem fingerprint_left_behind :
    doublyNamed.Truthful ∧
      ∃ o v draft, (update { savingRequest doublyNamed with records := [⟨⟨20⟩⟩, ⟨⟨20⟩⟩] }).run
          summingSurroundings emptyWorld = (.ok o, v) ∧
        o.dataset.draft? = some draft ∧ draft.unf ≠ draft.fingerprint? o.dataset.files := by
  refine ⟨truthful_fingerprinted _, ?_⟩
  have hleft : ((update { savingRequest doublyNamed with records := [⟨⟨20⟩⟩, ⟨⟨20⟩⟩] }).run
      summingSurroundings emptyWorld).1.toOption.any (fun o => o.dataset.draft?.any fun draft =>
        draft.unf.isSome && (draft.fingerprint? o.dataset.files).isNone) = true := by
    decide +kernel
  cases hrun : (update { savingRequest doublyNamed with records := [⟨⟨20⟩⟩, ⟨⟨20⟩⟩] }).run
      summingSurroundings emptyWorld with
  | mk result v =>
    rw [hrun] at hleft
    cases result with
    | error e => cases hleft
    | ok o =>
      have hsaved := hleft
      simp only [Except.toOption, Option.any_some, Option.any_eq_true, Bool.and_eq_true] at hsaved
      obtain ⟨draft, hdraft, hsome, hnone⟩ := hsaved
      refine ⟨o, v, draft, rfl, hdraft, ?_⟩
      intro hsame
      rw [hsame, Option.isNone_iff_eq_none.mp hnone] at hsome
      cases hsome

end Repository

end Depository
