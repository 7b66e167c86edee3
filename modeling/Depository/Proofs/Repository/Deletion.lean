import Depository.Proofs.Dataset.Holdings
import Depository.Proofs.Repository.Update

/-!
# What an update deletes

The named records leave the draft; the files that they are about leave the dataset with all that
refers to them, unless they are released. Deleting one after another, some of them named more than
once, comes to the same as taking everything out at once.
-/

namespace Depository

namespace Event

/-- A call of the ingest service, by the numbers of records and files that it was asked about. -/
def ingest? : Event → Option (Nat × Nat)
  | .ingest records files => some (records, files)
  | _ => none

private theorem ingest?_eq_none {e : Event} (h : e.isIngest = false) : e.ingest? = none := by
  cases e <;> first | rfl | cases h

theorem SeeksIdentifier.isIngest {e : Event} (h : e.SeeksIdentifier) : e.isIngest = false := by
  cases e <;> first | rfl | cases h

end Event

/-- The calls of the ingest service made so far. -/
def World.ingests (w : World) : List (Nat × Nat) := w.log.filterMap Event.ingest?

private theorem Action.Confined.ingests {α : Type} {E : StoreEffect} {P : Event → Prop}
    {x : Action α}
    (h : Confined E P x) (hP : ∀ e, P e → e.isIngest = false) (s : Surroundings) (w : World) :
    (x.run s w).2.ingests = w.ingests :=
  h.filterMap_log (fun e he => Event.ingest?_eq_none (hP e he)) s w

namespace Repository

open Depository.Action Depository.Dataset

/-! ### One deletion -/

/-- Whether a deletion takes a record out. If the file is released this is the record named, and
otherwise every record about the file. -/
def Deletion.takes (released : DataFileId → Bool) (x : Deletion) (r : FileMetadata) : Bool :=
  if released x.file then r.id == x.record else r.dataFile == x.file

/-- The files that deletions take out: those that are not released. -/
def takenFiles (released : DataFileId → Bool) (deletions : List Deletion) : List DataFileId :=
  (deletions.map (·.file)).filter fun x => !released x

/-- A dataset from which the deletion of files takes out what it should. -/
structure Deletable (d : Dataset) : Prop where
  coherent : d.Coherent
  singleDraft : d.SingleDraft
  distinct : d.holdings.Distinct

private theorem holdings_delete {w : UnitOfWork} (h : Deletable w.dataset) {x : Deletion}
    (hthumbnail : w.dataset.thumbnailFile ≠ some x.file) :
    (delete w x).dataset.holdings = w.dataset.holdings.strip
      (x.takes w.dataset.holdings.isReleased) (takenFiles w.dataset.holdings.isReleased [x]) := by
  have hreleased := w.dataset.isReleased_holdings x.file
  unfold delete
  split
  · next hx =>
    have htakes : x.takes w.dataset.holdings.isReleased = fun r => r.id == x.record := by
      funext r
      rw [Deletion.takes, hreleased, if_pos hx]
    rw [htakes, takenFiles, List.map_singleton, List.filter_singleton, hreleased, hx]
    exact holdings_removeDraftRecord h.singleDraft.hasDraft h.distinct x.record
  · next hx =>
    have htakes : x.takes w.dataset.holdings.isReleased = fun r => r.dataFile == x.file := by
      funext r
      rw [Deletion.takes, hreleased, if_neg hx]
    have hx' : (w.dataset.file? x.file).any (·.isReleased) = false := by simpa using hx
    rw [htakes, takenFiles, List.map_singleton, List.filter_singleton, hreleased, hx',
      dataset_deleteFile]
    exact holdings_removeFile h.coherent h.singleDraft h.distinct hx' hthumbnail

theorem Deletable.delete {w : UnitOfWork} (h : Deletable w.dataset) {x : Deletion}
    (hthumbnail : w.dataset.thumbnailFile ≠ some x.file) :
    Deletable (Repository.delete w x).dataset := by
  have hholdings := holdings_delete h hthumbnail
  refine ⟨?_, ?_, ?_⟩
  · exact ((staged_delete h.singleDraft.hasDraft x).revision h.coherent).coherent
  · refine h.singleDraft.of_drafts ?_
    rw [hholdings]
    rfl
  · rw [hholdings]
    exact h.distinct.strip

/-- What is released stays so when a file is deleted. -/
private theorem isReleased_delete {w : UnitOfWork} (h : Deletable w.dataset) {x : Deletion}
    (hthumbnail : w.dataset.thumbnailFile ≠ some x.file) :
    (delete w x).dataset.holdings.isReleased = w.dataset.holdings.isReleased := by
  funext y
  rw [holdings_delete h hthumbnail]
  refine Holdings.isReleased_strip (fun z hz => ?_) y
  simpa using (List.mem_filter.mp hz).2

/-! ### All deletions -/

private theorem holdings_deleteAll {w : UnitOfWork} (h : Deletable w.dataset)
    {deletions : List Deletion}
    (hthumbnail : ∀ x ∈ deletions, w.dataset.thumbnailFile ≠ some x.file) :
    (deleteAll deletions w).dataset.holdings = w.dataset.holdings.strip
      (fun r => deletions.any fun x => x.takes w.dataset.holdings.isReleased r)
      (takenFiles w.dataset.holdings.isReleased deletions) := by
  unfold deleteAll
  induction deletions generalizing w with
  | nil => exact (Holdings.strip_eq_self (fun _ _ => rfl) fun _ _ => List.not_mem_nil).symm
  | cons x rest ih =>
    obtain ⟨hx, hrest⟩ := List.forall_mem_cons.mp hthumbnail
    have hsame : (delete w x).dataset.thumbnailFile = w.dataset.thumbnailFile :=
      congrArg Holdings.thumbnailFile (holdings_delete h hx)
    -- The rest finds the same files released, so it takes out what it would have before.
    rw [List.foldl_cons, ih (h.delete hx) (by rwa [hsame]), isReleased_delete h hx,
      holdings_delete h hx, Holdings.strip_strip]
    refine Holdings.strip_congr (fun r _ => ?_) fun y => ?_
    · rw [List.any_cons]
    · simp [takenFiles, ← List.filter_append]

/-- A list with an element at the end that was not in it. -/
def mark {α : Type} [BEq α] (marked : List α) (a : α) : List α :=
  if marked.contains a then marked else marked ++ [a]

private theorem foldl_mark {α : Type} [BEq α] [LawfulBEq α] (l marked : List α) :
    l.foldl mark marked = marked ++ (l.filter fun a => !marked.contains a).eraseDups := by
  induction l generalizing marked with
  | nil => simp
  | cons a rest ih =>
    rw [List.foldl_cons, ih]
    by_cases ha : marked.contains a = true
    · have hmark : mark marked a = marked := if_pos ha
      rw [hmark, List.filter_cons_of_neg (by simpa using ha)]
    · have hmark : mark marked a = marked ++ [a] := if_neg ha
      rw [hmark, List.filter_cons_of_pos (by simpa using ha), List.eraseDups_cons,
        List.filter_filter, List.append_assoc, List.singleton_append]
      congr 3
      refine List.filter_congr fun b _ => ?_
      rw [Bool.eq_iff_iff]
      simp [or_comm]

private theorem nodup_foldl_mark {α : Type} [BEq α] [LawfulBEq α] {marked : List α}
    (h : marked.Nodup) (l : List α) : (l.foldl mark marked).Nodup := by
  induction l generalizing marked with
  | nil => exact h
  | cons a rest ih =>
    refine ih ?_
    unfold mark
    split
    · exact h
    · next ha =>
      refine List.nodup_append.mpr ⟨h, List.nodup_singleton a, fun b hb c hc hbc => ha ?_⟩
      rw [List.contains_iff_mem, ← List.mem_singleton.mp hc, ← hbc]
      exact hb

private theorem deletedFiles_delete (w : UnitOfWork) (x : Deletion) :
    (delete w x).deletedFiles =
      (takenFiles w.dataset.holdings.isReleased [x]).foldl mark w.deletedFiles := by
  rw [takenFiles, List.map_singleton, List.filter_singleton, isReleased_holdings]
  unfold delete
  split
  · next hx => rw [hx]; rfl
  · next hx =>
    have hx' : (w.dataset.file? x.file).any (·.isReleased) = false := by simpa using hx
    rw [hx']
    show (UnitOfWork.deleteFile _ _).deletedFiles = mark w.deletedFiles x.file
    unfold UnitOfWork.deleteFile mark
    dsimp only
    split <;> rfl

private theorem deletedFiles_deleteAll {w : UnitOfWork} (h : Deletable w.dataset)
    {deletions : List Deletion}
    (hthumbnail : ∀ x ∈ deletions, w.dataset.thumbnailFile ≠ some x.file) :
    (deleteAll deletions w).deletedFiles =
      (takenFiles w.dataset.holdings.isReleased deletions).foldl mark w.deletedFiles := by
  unfold deleteAll
  induction deletions generalizing w with
  | nil => rfl
  | cons x rest ih =>
    obtain ⟨hx, hrest⟩ := List.forall_mem_cons.mp hthumbnail
    have hsame : (delete w x).dataset.thumbnailFile = w.dataset.thumbnailFile :=
      congrArg Holdings.thumbnailFile (holdings_delete h hx)
    rw [List.foldl_cons, ih (h.delete hx) (by rwa [hsame]), isReleased_delete h hx,
      deletedFiles_delete, ← List.foldl_append]
    simp only [takenFiles, List.map_cons, List.map_nil, ← List.filter_append,
      List.singleton_append]

/-! ### The stages -/

theorem holdings_judgeDraft {schema : Schema} {lenient : Bool} {d e : Dataset}
    (h : judgeDraft schema lenient d = .ok e) : e.holdings = d.holdings := by
  unfold judgeDraft at h
  split at h
  · cases h
    rfl
  · next draft hlatest =>
    have hkeeps := schema.judge_keeps lenient { draft with fields := schema.arrange draft.fields }
    split at h
    · cases h
    · next judged hjudged =>
      cases h
      rw [hjudged] at hkeeps
      refine holdings_mapLatest fun v hv => ?_
      obtain rfl : draft = v := Option.some.inj (hlatest.symm.trans hv)
      exact hkeeps

theorem holdings_stamp (user : UserId) (time : Time.Instant) (d : Dataset) :
    (stamp user time d).holdings = d.holdings := by
  have hdraft : (d.mapDraft (stampDraft time)).holdings = d.holdings :=
    holdings_mapDraft (fun _ => rfl) fun _ => rfl
  rw [← hdraft]
  exact holdings_of_same rfl (.of_map (content_stampFile user time) rfl) rfl rfl

theorem holdings_stampUpdate (time : Time.Instant) (d : Dataset) :
    (stampUpdate time d).holdings = d.holdings := by
  have hdraft : (d.mapDraft fun v => { v with lastUpdateTime := some time }).holdings =
      d.holdings := holdings_mapDraft (fun _ => rfl) fun _ => rfl
  rw [← hdraft]
  exact holdings_of_same rfl rfl rfl rfl

theorem holdings_clearThumbnail (deletions : List Deletion) (d : Dataset) :
    (clearThumbnail deletions d).holdings = { d.holdings with
      thumbnailFile := if deletions.any fun x => d.thumbnailFile == some x.file then none
        else d.thumbnailFile } := by
  unfold clearThumbnail
  split
  · rfl
  · rfl

private theorem touchesFingerprint_eq (deletions : List Deletion) (d : Dataset) :
    touchesFingerprint deletions d = deletions.any fun x => d.holdings.isTabular x.file := by
  unfold touchesFingerprint
  congr 1
  funext x
  rw [isTabular_holdings]
  cases d.file? x.file <;> rfl

private theorem thumbnailFile_clearThumbnail (deletions : List Deletion) (d : Dataset) :
    ∀ x ∈ deletions, (clearThumbnail deletions d).thumbnailFile ≠ some x.file := by
  intro x hx
  unfold clearThumbnail
  split
  · simp
  · next hnone =>
    intro hsome
    exact hnone (List.any_eq_true.mpr ⟨x, hx, by simp [hsome]⟩)

/-- The fingerprint is asked for once, for the records and the files that are left. -/
theorem run_renewFingerprint {d : Dataset} {older : List Version} {draft : Version}
    (h : d.versions = older ++ [draft]) (s : Surroundings) (w : World) :
    (renewFingerprint d).run s w =
      (do
        let unf ← recalculate draft d.files
        return d.mapLatest fun v => { v with unf } : Action Dataset).run s w := by
  have hlatest : d.latest? = some draft := by rw [latest?, h, List.getLast?_concat]
  unfold renewFingerprint
  rw [hlatest]

/-- The work of a stage that succeeds, and what it asked of the ingest service. -/
theorem of_run_stage_ok {p : PreparedUpdate} {s : Surroundings} {w v : World} {work : UnitOfWork}
    (hdraft : p.dataset.HasDraft) (h : (stage p).run s w = (.ok work, v)) :
    let d := stamp p.user.id p.time p.dataset
    let deletions := deletionsOf p.records d
    let base := deleteAll deletions (.merge (clearThumbnail deletions d))
    work.deletedFiles = base.deletedFiles ∧ work.dataset.holdings = base.dataset.holdings ∧
      v.ingests = w.ingests ++ if touchesFingerprint deletions d then
        [(base.dataset.holdings.records.length, base.dataset.files.length)] else [] := by
  intro d deletions base
  have hstamp := staged_stamp hdraft p.user.id p.time
  have hbase := (stagedWork_deleteAll hstamp.hasDraft p.records).staged.hasDraft
  change (if touchesFingerprint deletions d then _ else _ : Action UnitOfWork).run s w = _ at h
  split at h
  · next htouches =>
    obtain ⟨older, draft, hversions, hv⟩ := hbase
    obtain ⟨e, u, he, h⟩ := of_run_bind_ok h
    cases h
    rw [run_renewFingerprint hversions] at he
    obtain ⟨unf, u', hunf, he⟩ := of_run_bind_ok he
    cases he
    have hlog : v.log = w.log ++ [.ingest draft.fileMetadata.length base.dataset.files.length] :=
      congrArg (fun x : Except Failure (Option String) × World => x.2.log) hunf.symm
    refine ⟨rfl, holdings_mapLatest fun _ _ => ⟨rfl, rfl⟩, ?_⟩
    rw [if_pos htouches, World.ingests, hlog, List.filterMap_append,
      records_of_versions hversions hv]
    rfl
  · next htouches =>
    cases h
    rw [if_neg htouches, List.append_nil]
    exact ⟨rfl, rfl, rfl⟩

private theorem drafts_deleteAll (deletions : List Deletion) (w : UnitOfWork) :
    (deleteAll deletions w).dataset.holdings.drafts = w.dataset.holdings.drafts := by
  unfold deleteAll
  induction deletions generalizing w with
  | nil => rfl
  | cons x rest ih =>
    rw [List.foldl_cons, ih]
    unfold delete
    split
    · exact drafts_removeDraftRecord _ _
    · rw [dataset_deleteFile]
      exact drafts_removeFile _ _

/-- A stage leaves which versions are drafts. -/
theorem drafts_of_run_stage {p : PreparedUpdate} {s : Surroundings} {w v : World}
    {work : UnitOfWork} (hdraft : p.dataset.HasDraft) (h : (stage p).run s w = (.ok work, v)) :
    work.dataset.holdings.drafts = p.dataset.holdings.drafts := by
  obtain ⟨-, hheld, -⟩ := of_run_stage_ok hdraft h
  rw [hheld, drafts_deleteAll]
  show (clearThumbnail _ _).holdings.drafts = _
  rw [holdings_clearThumbnail, holdings_stamp]

/-! ### What was asked -/

/-- The records of a draft that a request names, in the order in which it does. The one about the
file that it names comes last. -/
def UpdateRequest.targets (r : UpdateRequest) (d : Dataset) : List FileMetadata :=
  r.records.filterMap d.draftRecord? ++
    (r.file.bind fun x => d.draft?.bind (·.recordFor? x)).toList

/-- The files that are to go with some records: those that are not released, each once. -/
def doomed (d : Dataset) (targets : List FileMetadata) : List DataFileId :=
  ((targets.map (·.dataFile)).filter fun x => !(d.file? x).any (·.isReleased)).eraseDups

private theorem nodup_doomed (d : Dataset) (targets : List FileMetadata) :
    (doomed d targets).Nodup := by
  have hmarked (l : List DataFileId) : l.eraseDups = l.foldl mark [] := by simp [foldl_mark]
  rw [doomed, hmarked]
  exact nodup_foldl_mark List.nodup_nil _

/-- Whether a record is to go: because it is named or because its file goes. -/
def goes (d : Dataset) (targets : List FileMetadata) (r : FileMetadata) : Bool :=
  targets.contains r || (doomed d targets).contains r.dataFile

private theorem mem_records_of_targets {r : UpdateRequest} {d : Dataset} {t : FileMetadata}
    (h : t ∈ r.targets d) : t ∈ d.holdings.records := by
  rcases List.mem_append.mp h with h | h
  · obtain ⟨id, -, hid⟩ := List.mem_filterMap.mp h
    rw [draftRecord?_eq] at hid
    exact List.mem_of_find?_eq_some hid
  · obtain ⟨x, -, hx⟩ := Option.bind_eq_some_iff.mp (Option.mem_toList.mp h)
    rw [draftRecordFor?_eq] at hx
    exact List.mem_of_find?_eq_some hx

private theorem deletionsOf_eq {r : UpdateRequest} {b c d : Dataset}
    (hdistinct : b.holdings.Distinct)
    (hc : c.holdings = b.holdings) (hd : d.holdings = b.holdings) {records : List FileMetadataId}
    (h : recordsToDelete r.records r.file c = .ok records) :
    deletionsOf records d = (r.targets b).map fun t => ⟨t.id, t.dataFile⟩ := by
  have hrecords : records = r.records ++
      ((r.file.bind fun x => b.draft?.bind (·.recordFor? x)).map (·.id)).toList := by
    unfold recordsToDelete at h
    dsimp only at h
    split at h
    · cases h
    · cases h
      simp only [draftRecordFor?_eq, hc]
  unfold deletionsOf UpdateRequest.targets
  simp only [hrecords, List.filterMap_append, List.map_append, List.map_filterMap, draftRecord?_eq,
    hd]
  congr 1
  · refine List.filterMap_congr fun id _ => ?_
    cases hfound : b.holdings.records.find? fun t => t.id == id with
    | none => rfl
    | some t =>
      obtain rfl : t.id = id := by simpa using List.find?_some hfound
      rfl
  · cases hfile : r.file.bind fun x => b.draft?.bind (·.recordFor? x) with
    | none => rfl
    | some t =>
      have ht : t ∈ b.holdings.records :=
        mem_records_of_targets (r := r) (List.mem_append_right _ (by simp [hfile]))
      simp [hdistinct.find?_id ht]

/-- One by one the deletions take out what is to go. -/
private theorem strip_targets {d b : Dataset} {targets : List FileMetadata} {h : Holdings}
    (hdistinct : b.holdings.Distinct) (htargets : ∀ t ∈ targets, t ∈ b.holdings.records)
    (hrecords : h.records = b.holdings.records) {released : DataFileId → Bool}
    (hreleased : ∀ x, released x = (d.file? x).any (·.isReleased)) :
    (h.strip (fun r => (targets.map fun t => (⟨t.id, t.dataFile⟩ : Deletion)).any
        fun x => x.takes released r)
      (takenFiles released (targets.map fun t => ⟨t.id, t.dataFile⟩))) =
    h.strip (goes d targets) (doomed d targets) := by
  have hmem (x : DataFileId) : x ∈ doomed d targets ↔
      ∃ t ∈ targets, t.dataFile = x ∧ released x = false := by
    rw [doomed, List.mem_eraseDups]
    simp only [List.mem_filter, List.mem_map, ← hreleased, Bool.not_eq_true']
    constructor
    · rintro ⟨⟨t, ht, hx⟩, hrel⟩
      exact ⟨t, ht, hx, hrel⟩
    · rintro ⟨t, ht, hx, hrel⟩
      exact ⟨⟨t, ht, hx⟩, hrel⟩
  refine Holdings.strip_congr (fun r hr => ?_) fun x => ?_
  · rw [Bool.eq_iff_iff, goes, Bool.or_eq_true, List.contains_iff_mem, List.contains_iff_mem, hmem,
      List.any_map, List.any_eq_true]
    constructor
    · rintro ⟨t, ht, htakes⟩
      unfold Function.comp Deletion.takes at htakes
      dsimp only at htakes
      split at htakes
      · have hrt : r = t := List.inj_on_of_nodup_map hdistinct.records (hrecords ▸ hr)
          (htargets t ht) (by simpa using htakes)
        exact Or.inl (hrt ▸ ht)
      · next hrel =>
        have hfile : r.dataFile = t.dataFile := by simpa using htakes
        exact Or.inr ⟨t, ht, hfile.symm, by simpa [hfile] using hrel⟩
    · rintro (hr | ⟨t, ht, hfile, hrel⟩)
      · refine ⟨r, hr, ?_⟩
        unfold Function.comp Deletion.takes
        dsimp only
        split <;> exact beq_self_eq_true _
      · refine ⟨t, ht, ?_⟩
        unfold Function.comp Deletion.takes
        dsimp only
        rw [hfile, if_neg (by simp [hrel])]
        exact beq_self_eq_true _
  · rw [hmem, takenFiles, List.map_map]
    simp only [List.mem_filter, List.mem_map, Function.comp_apply, Bool.not_eq_true']
    constructor
    · rintro ⟨⟨t, ht, hx⟩, hrel⟩
      exact ⟨t, ht, hx, hrel⟩
    · rintro ⟨t, ht, hx, hrel⟩
      exact ⟨⟨t, ht, hx⟩, hrel⟩

/-- Deleting the targets one by one from what was staged takes out at once what is to go. -/
private theorem deleteAll_targets {d b c : Dataset} {targets : List FileMetadata}
    (hfiles : b.files = d.files) (hc : c.holdings = b.holdings)
    (hdistinct : b.holdings.Distinct) (htargets : ∀ t ∈ targets, t ∈ b.holdings.records)
    (hcoherent : c.Coherent) (hsingle : c.SingleDraft) :
    let deletions := targets.map fun t => (⟨t.id, t.dataFile⟩ : Deletion)
    let base := deleteAll deletions (.merge (clearThumbnail deletions c))
    base.deletedFiles = doomed d targets ∧
      base.dataset.holdings = { b.holdings.strip (goes d targets) (doomed d targets) with
        thumbnailFile := if targets.any fun t => b.thumbnailFile == some t.dataFile then none
          else b.thumbnailFile } := by
  intro deletions base
  have hcleared : (clearThumbnail deletions c).holdings = { b.holdings with
      thumbnailFile := if targets.any fun t => b.thumbnailFile == some t.dataFile then none
        else b.thumbnailFile } := by
    have hthumbnail : c.thumbnailFile = b.thumbnailFile := congrArg Holdings.thumbnailFile hc
    rw [holdings_clearThumbnail, hc, hthumbnail, List.any_map]
    rfl
  have hdeletable : Deletable (clearThumbnail deletions c) := by
    refine ⟨?_, ?_, ?_⟩
    · exact ((staged_clearThumbnail hsingle.hasDraft deletions).revision hcoherent).coherent
    · refine hsingle.of_drafts ?_
      rw [hcleared, hc]
    · rw [hcleared]
      exact ⟨hdistinct.files, hdistinct.records⟩
  have hreleased (x : DataFileId) : (clearThumbnail deletions c).holdings.isReleased x =
      (d.file? x).any (·.isReleased) := by
    have hsame : (clearThumbnail deletions c).holdings.isReleased x = b.holdings.isReleased x := by
      rw [hcleared]
      rfl
    rw [hsame, isReleased_holdings, file?, hfiles, ← file?]
  have hthumbnail := thumbnailFile_clearThumbnail deletions c
  have htaken := deletedFiles_deleteAll (w := .merge (clearThumbnail deletions c)) hdeletable
    hthumbnail
  have hstripped := holdings_deleteAll (w := .merge (clearThumbnail deletions c)) hdeletable
    hthumbnail
  refine ⟨?_, ?_⟩
  · rw [foldl_mark] at htaken
    refine htaken.trans ?_
    simp only [UnitOfWork.merge, takenFiles, hreleased]
    simp [deletions, doomed, Function.comp_def]
  · refine hstripped.trans ((strip_targets hdistinct htargets ?_ hreleased).trans ?_)
    · show (clearThumbnail deletions c).holdings.records = _
      rw [hcleared]
    · show (clearThumbnail deletions c).holdings.strip _ _ = _
      rw [hcleared]
      rfl

/-- A stage takes out what is to go, and asks the ingest service once if a tabular file is among
the files that the targets are about. -/
theorem of_run_stage_targets {r : UpdateRequest} {p : PreparedUpdate} {b : Dataset}
    {s : Surroundings} {w v : World} {work : UnitOfWork} (hfiles : b.files = r.dataset.files)
    (hdistinct : b.holdings.Distinct) (hprepared : p.dataset.holdings = b.holdings)
    (hrecords : recordsToDelete r.records r.file p.dataset = .ok p.records)
    (hcoherent : p.dataset.Coherent) (hsingle : p.dataset.SingleDraft)
    (h : (stage p).run s w = (.ok work, v)) :
    work.deletedFiles = doomed r.dataset (r.targets b) ∧
      work.dataset.holdings = { b.holdings.strip (goes r.dataset (r.targets b))
          (doomed r.dataset (r.targets b)) with
        thumbnailFile := if (r.targets b).any fun t => b.thumbnailFile == some t.dataFile then none
          else b.thumbnailFile } ∧
      v.ingests = w.ingests ++
        if (r.targets b).any fun t => (r.dataset.file? t.dataFile).any (·.isTabular) then
          [(work.dataset.holdings.records.length, work.dataset.holdings.files.length)] else [] := by
  let c := stamp p.user.id p.time p.dataset
  have hstamp := staged_stamp hsingle.hasDraft p.user.id p.time
  have hc : c.holdings = b.holdings := (holdings_stamp _ _ _).trans hprepared
  have hsingle' : c.SingleDraft := hsingle.of_drafts (by rw [holdings_stamp])
  obtain ⟨hdeleted, hheld, hasked⟩ := of_run_stage_ok hsingle.hasDraft h
  rw [deletionsOf_eq hdistinct hprepared hc hrecords] at hdeleted hheld hasked
  obtain ⟨hdoomed, hbase⟩ := deleteAll_targets hfiles hc hdistinct
    (fun t => mem_records_of_targets (r := r)) (hstamp.revision hcoherent).coherent hsingle'
  have htouches : touchesFingerprint ((r.targets b).map fun t => ⟨t.id, t.dataFile⟩) c =
      (r.targets b).any fun t => (r.dataset.file? t.dataFile).any (·.isTabular) := by
    have htabular (x : DataFileId) :
        c.holdings.isTabular x = (r.dataset.file? x).any (·.isTabular) := by
      rw [hc, isTabular_holdings, file?, hfiles, ← file?]
    rw [touchesFingerprint_eq, List.any_map]
    simp only [Function.comp_def, htabular]
  refine ⟨hdeleted.trans hdoomed, hheld.trans hbase, ?_⟩
  rw [hasked, htouches, hheld, length_files]

/-- What is prepared holds what the draft does that was opened first. -/
theorem of_run_prepare_draft {r : UpdateRequest} {s : Surroundings} {w v : World}
    {p : PreparedUpdate} (h : (prepare r).run s w = (.ok p, v)) :
    p.dataset.holdings = (r.dataset.openDraft w.ids).1.holdings ∧
      recordsToDelete r.records r.file p.dataset = .ok p.records := by
  obtain ⟨hjudged, hrecords⟩ := of_run_prepare_judged h
  exact ⟨holdings_judgeDraft hjudged, hrecords⟩

/-! ### The update -/

/-- Between two worlds a dataset was saved from which the files of some records were deleted. `b`
is the dataset with its draft `old` before anything was deleted, and `e` the one with `new` that
was saved. -/
structure Deleted (w v : World) (d b : Dataset) (old new : Version) (targets : List FileMetadata)
    (e : Dataset) : Prop where
  stored : v.store.findDataset? d.id = some e
  files : e.files.map (·.id) = (d.files.map (·.id)).filter fun x => !(doomed d targets).contains x
  deleted : v.store.hardDeletedFiles = w.store.hardDeletedFiles ++ doomed d targets
  once : (doomed d targets).Nodup
  records : new.fileMetadata = old.fileMetadata.filter fun r => !goes d targets r
  published : ∀ (i : Nat) (u : Version), d.versions[i]? = some u → u.isDraft = false →
    e.versions[i]? = some u
  categories : e.categories =
    Holdings.unlink (old.fileMetadata.filter (goes d targets)) b.categories
  thumbnail : e.thumbnailFile =
    if targets.any fun r => d.thumbnailFile == some r.dataFile then none else d.thumbnailFile
  ingests : v.ingests = w.ingests ++
    if targets.any fun r => (d.file? r.dataFile).any (·.isTabular) then
      [(new.fileMetadata.length, e.files.length)] else []

/-- Of the stages of an update only the second asks the ingest service. -/
private theorem ingests_of_stages {s : Surroundings} {r : UpdateRequest} {p : PreparedUpdate}
    {work : UnitOfWork} {d e : Dataset} {registration : Option RegistrationReport}
    {w w₁ w₂ w₃ w₄ v : World} (hprepare : (prepare r).run s w = (.ok p, w₁))
    (hregister : (registerIfDue work.dataset).run s w₂ = (.ok (d, registration), w₃))
    (hstored : w₄ = { w₃.record (.store .commit false) with store := w₄.store })
    (hfollow : (follow p.user p.time e).run s w₄ = (.ok (), v)) :
    w₁.ingests = w.ingests ∧ v.ingests = w₂.ingests := by
  have hingests₁ := (confined_prepare r).ingests (fun _ => Event.Consults.isIngest) s w
  have hingests₃ := (registering_confined.registerIfDue work.dataset).ingests
    (fun _ => Event.SeeksIdentifier.isIngest) s w₂
  have hingests₅ := (confined_follow p.user p.time e).ingests (fun _ => id) s w₄
  rw [hprepare] at hingests₁
  rw [hregister] at hingests₃
  rw [hfollow] at hingests₅
  refine ⟨hingests₁, ?_⟩
  rw [hingests₅, ← hingests₃, hstored]
  simp [World.ingests, World.record, Event.ingest?]

/-- An update deletes exactly what it was asked to: the named records, and with all that refers to
them the files of those that are not released. -/
theorem update_deletes_exactly {s : Surroundings} {w v : World} {r : UpdateRequest}
    {o : UpdateOutcome} (hcoherent : r.dataset.Coherent) (hdistinct : r.dataset.DistinctIds)
    (hids : ∀ u, r.dataset.latest? = some u → Fresh w.ids u.fileMetadata.length)
    (h : (update r).run s w = (.ok o, v)) :
    ∃ old new, (r.dataset.openDraft w.ids).1.draft? = some old ∧ o.dataset.draft? = some new ∧
      Deleted w v r.dataset (r.dataset.openDraft w.ids).1 old new
        (r.targets (r.dataset.openDraft w.ids).1) o.dataset := by
  obtain ⟨p, work, d, registration, w₁, w₂, w₃, w₄, hprepare, hstage, hregister, hcommit, hfollow,
    rfl⟩ := of_run_update_ok h
  have hopened := hdistinct.openDraft hids
  have hfiles := files_openDraft r.dataset w.ids
  have hthumbnail := thumbnailFile_openDraft r.dataset w.ids
  obtain ⟨older, old, hbversions, hold⟩ := hasDraft_openDraft r.dataset w.ids
  obtain ⟨hprepared, hrecords⟩ := of_run_prepare_draft hprepare
  generalize (r.dataset.openDraft w.ids).1 = b at *
  let e := stampUpdate p.time d
  -- What was stored tells that there was one draft only, and that was so from the start.
  have hsaved := stagedWork_of_saved hprepare hstage hregister
  obtain ⟨hnumbered, hadmits, hstored, hvisited⟩ :=
    store_of_run_stages hprepare hstage hregister hcommit hfollow
  obtain ⟨hingests₁, hingests⟩ := ingests_of_stages hprepare hregister (by rw [hstored]) hfollow
  have hpreparedFrom := returns_prepare r s w p w₁ hprepare
  have hregistered := returns_registerIfDue work.dataset s w₂ (d, registration) w₃ hregister
  have hfinal : e.holdings = work.dataset.holdings :=
    (holdings_stampUpdate p.time d).trans (holdings_of_unidentified hregistered)
  have hsingle : p.dataset.SingleDraft := by
    refine (hsaved.staged.hasDraft.singleDraft hadmits.oneDraft).of_drafts ?_
    show e.holdings.drafts = _
    rw [hfinal, drafts_of_run_stage hpreparedFrom.hasDraft hstage]
  obtain ⟨hdoomed, hheld, hasked⟩ := of_run_stage_targets hfiles hopened hprepared hrecords
    (hpreparedFrom.revision hcoherent).coherent hsingle hstage
  have he := hfinal.trans hheld
  obtain ⟨older', new, heversions, hnew⟩ := hsaved.staged.hasDraft
  have holdRecords := records_of_versions hbversions hold
  have hnewRecords : e.holdings.records = new.fileMetadata := records_of_versions heversions hnew
  refine ⟨old, new, ?_, ?_, ?_, ?_, ?_, nodup_doomed _ _, ?_, ?_, ?_, ?_, ?_⟩
  · rw [draft?_of_versions hbversions, if_pos hold]
  · exact (draft?_of_versions heversions).trans (if_pos hnew)
  · rw [← hsaved.staged.id_eq, hvisited, hstored]
    exact (Store.findDataset?_applyWork _ _ _).trans (if_pos rfl)
  · show e.files.map (·.id) = _
    rw [← fileIds_holdings e, he, ← hfiles, ← fileIds_holdings b, List.filter_map]
    rfl
  · rw [hvisited, hstored, ← hdoomed]
    show w₃.store.hardDeletedFiles ++ _ = _
    rw [hnumbered]
  · rw [← hnewRecords, ← holdRecords, he]
    rfl
  · exact (hsaved.staged.revision hcoherent).kept.version
  · rw [← holdRecords]
    exact congrArg Holdings.categories he
  · rw [← hthumbnail]
    exact congrArg Holdings.thumbnailFile he
  · rw [hingests, hasked, hingests₁, ← hfinal, hnewRecords, ← length_files]

/-! ### A released and an unreleased file -/

/-- A dataset of which one version with one file was released. -/
def releasedOnce : Dataset :=
  ((titledDraft.addFile (emptyWorld.ids.drop 1) (DataFile.new ⟨⟨3⟩⟩ "text/csv" 9 "b021")
    "gauge.csv").2.1.releaseDraft .epoch false).2

/-- The dataset with a draft that has another file, a tabular one. -/
def surveyed : Dataset :=
  (releasedOnce.addFile (emptyWorld.ids.drop 20)
    { DataFile.new ⟨⟨7⟩⟩ "text/tab" 5 "c3d4" with unf := some "UNF:6:x" } "survey.tab").2.1

/-- A request to delete both files, that names the new one twice. -/
def clearingRequest : UpdateRequest :=
  ⟨.authenticated (.new ⟨⟨2⟩⟩ "curator" "curator@example.org" true), surveyed,
    [⟨⟨20⟩⟩, ⟨⟨20⟩⟩], some ⟨⟨3⟩⟩, false⟩

private theorem coherent_surveyed : surveyed.Coherent := by
  have htitled : titledDraft.Coherent := by
    refine ⟨fun v hv r hr => ?_, fun v hv _ r hr => ?_⟩ <;>
    · obtain rfl := List.mem_singleton.mp hv
      cases hr
  have hadded := (revision_addFile htitled (emptyWorld.ids.drop 1)
    (DataFile.new ⟨⟨3⟩⟩ "text/csv" 9 "b021") "gauge.csv").coherent
  have hreleased := (revision_releaseDraft hadded .epoch false).coherent
  exact (revision_addFile hreleased _ _ _).coherent

theorem update_deletes_when_named_twice :
    ∃ o v, (update clearingRequest).run plainSurroundings emptyWorld = (.ok o, v) ∧
      doomed surveyed (clearingRequest.targets surveyed) = [⟨⟨7⟩⟩] ∧
      ∃ old new, (surveyed.openDraft emptyWorld.ids).1.draft? = some old ∧
        o.dataset.draft? = some new ∧
        Deleted emptyWorld v surveyed (surveyed.openDraft emptyWorld.ids).1 old new
          (clearingRequest.targets (surveyed.openDraft emptyWorld.ids).1) o.dataset := by
  have hok : ((update clearingRequest).run plainSurroundings emptyWorld).1.toOption.isSome = true :=
    by decide +kernel
  have hdistinct : surveyed.DistinctIds := ⟨by decide +kernel, by decide +kernel⟩
  have hids (u : Version) (hu : surveyed.latest? = some u) :
      Fresh emptyWorld.ids u.fileMetadata.length := by
    obtain rfl : surveyed.versions[1] = u := Option.some.inj hu
    unfold Fresh
    decide +kernel
  cases hrun : (update clearingRequest).run plainSurroundings emptyWorld with
  | mk result v =>
    rw [hrun] at hok
    cases result with
    | error e => cases hok
    | ok o =>
      refine ⟨o, v, rfl, by decide +kernel, ?_⟩
      exact update_deletes_exactly coherent_surveyed hdistinct hids hrun

end Repository

end Depository
