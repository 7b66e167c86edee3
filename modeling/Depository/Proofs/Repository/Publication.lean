import Depository.Proofs.Repository.Update
import Depository.Proofs.Store.Soundness
import Depository.Repository.FileIdentifiers
import Depository.Repository.Run
import Depository.Repository.Thumbnail
import Mathlib.Logic.Relation

/-!
# Published content over whole runs

The workflows take a stored dataset or a new one, edit it, and store it again. Each step keeps a
sound store sound and what its datasets have published, however the services behave and whichever
calls of the store fail. A store that began empty therefore never loses published content.
-/

namespace Depository

open Dataset

/-! ### What is saved -/

/-- No stored dataset owns a file of the given identity, and none was deleted for good. -/
structure Store.Unused (s : Store) (x : DataFileId) : Prop where
  unowned : ∀ id d, s.findDataset? id = some d → ¬ d.Owns x
  present : x ∉ s.hardDeletedFiles

/-- A dataset made by any number of edits from one that is stored, or from a new one. -/
inductive Edited (s : Store) : Dataset → Prop where
  | stored {id : DatasetId} {d : Dataset} : s.findDataset? id = some d → Edited s d
  | new {parts : DatasetParts} {ids : Supply Uuid} {now : Time.Instant} {d : Dataset} :
      parts.build? ids now = some d → s.findDataset? d.id = none → Edited s d
  | edit {d : Dataset} (e : Edit) :
      Edited s d → (∀ f ∈ e.added, s.Unused f.id) → Edited s (e.apply d)

private theorem continues_of_new {s : Store} {parts : DatasetParts} {ids : Supply Uuid}
    {now : Time.Instant} {d : Dataset} (hd : parts.build? ids now = some d)
    (hnew : s.findDataset? d.id = none) : s.Continues d := by
  obtain ⟨owner, -, hbuild⟩ := Option.map_eq_some_iff.mp hd
  have hfiles : d.files = [] := by rw [← hbuild]
  have hrecords : ∀ v ∈ d.versions, v.fileMetadata = [] := by
    rw [← hbuild]
    intro v hv
    rw [List.mem_singleton.mp hv]
    rfl
  refine ⟨⟨fun v hv r hr => ?_, fun v hv _ r hr => ?_⟩, fun stored hstored => ?_, ?_⟩
  · rw [hrecords v hv] at hr
    cases hr
  · rw [hrecords v hv] at hr
    cases hr
  · rw [hnew] at hstored
    cases hstored
  · rintro x ⟨f, hf, -⟩
    rw [hfiles] at hf
    cases hf

theorem Edited.continues {s : Store} (hs : s.Sound) {d : Dataset} (h : Edited s d) :
    s.Continues d := by
  induction h with
  | stored hd => exact hs.continues hd
  | new hd hnew => exact continues_of_new hd hnew
  | edit e _ hadded ih =>
    have happend := ih.append fun f hf =>
      ⟨fun id d hd hx => absurd hx ((hadded f hf).unowned id d hd), (hadded f hf).present⟩
    exact happend.revision (revision_edit ih.coherent e)

namespace Repository

open Depository.Action

/-! ### The steps -/

/-- One workflow, with any settings and services and any failures of the store. -/
inductive WorkflowStep : World → World → Prop where
  | save (s : Surroundings) {w : World} {d : Dataset} :
      Edited w.store d → WorkflowStep w ((commit (.merge d)).run s w).2
  | update (s : Surroundings) {w : World} {r : UpdateRequest} :
      Edited w.store r.dataset → WorkflowStep w ((update r).run s w).2
  | setThumbnail (s : Surroundings) (w : World) (id : DatasetId) (file : DataFileId) :
      WorkflowStep w ((setThumbnail id file).run s w).2
  | removeThumbnail (s : Surroundings) (w : World) (id : DatasetId) :
      WorkflowStep w ((removeThumbnail id).run s w).2
  | assignFileIdentifiers (s : Surroundings) (w : World) (id : DatasetId) :
      WorkflowStep w ((assignFileIdentifiers id).run s w).2
  | exportAll (s : Surroundings) (w : World) (force : Bool) :
      WorkflowStep w ((exportAll force).run s w).2

private theorem keeping_commit {work : UnitOfWork} {w : World}
    (hwork : w.store.Continues work.dataset)
    (hdeleted : ∀ x ∈ work.deletedFiles, w.store.Reserves work.dataset.id x) (s : Surroundings) :
    StoreEffect.keeping.allows w.store ((commit work).run s w).2.store := by
  rcases run_commit work s w with ⟨e, failed, hrun⟩ | ⟨hadmits, hrun⟩
  · rw [hrun]
    exact StoreEffect.refl _ _
  · rw [hrun]
    refine StoreEffect.keeping_applyWork hwork fun x hx => ⟨hdeleted x hx, fun howns => ?_⟩
    exact hadmits.notMem_of_owns howns hx

private theorem keeping_of_numbering {s t : Store} (h : StoreEffect.numbering.allows s t) :
    StoreEffect.keeping.allows s t := by
  rw [h.1]
  exact StoreEffect.keeping_of_eq rfl rfl

private theorem continues_of_numbering {s t : Store} (h : StoreEffect.numbering.allows s t)
    {d : Dataset} (hd : s.Continues d) : t.Continues d := by
  rw [h.1]
  exact hd.of_eq rfl rfl

private theorem keeping_of_visiting {noted : VersionId × UserId → Prop} {s t : Store}
    (h : (StoreEffect.visiting noted).allows s t) : StoreEffect.keeping.allows s t := by
  rw [h.1]
  exact StoreEffect.keeping_of_eq rfl rfl

/-! ### Updates -/

private theorem keeping_update (s : Surroundings) {w : World} {r : UpdateRequest}
    (hr : w.store.Continues r.dataset) :
    StoreEffect.keeping.allows w.store ((update r).run s w).2.store := by
  have h := updateRun s w r
  generalize ((update r).run s w).1 = result at h
  generalize ((update r).run s w).2 = v at h ⊢
  cases h with
  | refused e _ calls hstore =>
    rw [hstore]
    exact StoreEffect.refl _ _
  | uncommitted e _ calls hstore => exact keeping_of_numbering hstore
  | saved p work d registration w₁ w₂ w₃ w₄ hprepare hstage hregister hnumbered hadmits hstore =>
    have hwork := stagedWork_of_saved hprepare hstage hregister
    have hid := hwork.staged.id_eq
    -- The update commits to the store that its dataset was taken from, but for the numbers.
    have hr₃ := continues_of_numbering hnumbered hr
    have hcommitted : StoreEffect.keeping.allows w₃.store w₄.store := by
      rw [hstore]
      refine StoreEffect.keeping_applyWork (hr₃.revision (hwork.staged.revision hr.coherent)) ?_
      intro x hx
      refine ⟨?_, fun howns => hadmits.notMem_of_owns howns hx⟩
      rw [hid]
      exact hr₃.reserved x (hwork.owned hr.coherent x hx)
    obtain ⟨w₅, hfollow, hvisited, -⟩ := run_follow p.user p.time (stampUpdate p.time d) s w₄
    rw [hfollow, (run_reindex (stampUpdate p.time d) true s w₅).1]
    have hstored := StoreEffect.keeping.trans hcommitted (keeping_of_visiting hvisited)
    exact StoreEffect.keeping.trans (keeping_of_numbering hnumbered) hstored

/-! ### The other workflows -/

/-- A workflow that begins with finding a dataset. -/
private theorem keeping_findDataset {α : Type} {id : DatasetId} {f : Dataset → Action α}
    {s : Surroundings} {w : World}
    (hf : ∀ d v, w.store.findDataset? id = some d → v.store = w.store →
      StoreEffect.keeping.allows v.store ((f d).run s v).2.store) :
    StoreEffect.keeping.allows w.store ((findDataset id >>= f).run s w).2.store := by
  cases hrun : (findDataset id).run s w with
  | mk found v =>
    cases found with
    | error e =>
      have hstore := (confined_findDataset id).allows hrun
      rw [run_bind_of_error hrun, show v.store = w.store from hstore.symm]
      exact StoreEffect.refl _ _
    | ok d =>
      obtain ⟨hd, hstore⟩ := of_run_findDataset_ok hrun
      rw [run_bind_of_ok hrun, ← hstore]
      exact hf d v hd hstore

private theorem keeping_setThumbnail (id : DatasetId) (file : DataFileId) (s : Surroundings)
    {w : World} (hs : w.store.Sound) :
    StoreEffect.keeping.allows w.store ((setThumbnail id file).run s w).2.store := by
  refine keeping_findDataset fun d v hd hstore => ?_
  have hset : v.store.Continues (d.setThumbnail file).2 := by
    rw [hstore]
    exact Edited.continues hs (.edit (.setThumbnail file) (.stored hd) (by simp [Edit.added]))
  split
  · next e he =>
    rw [he] at hset
    exact keeping_commit hset (by simp [UnitOfWork.merge]) s
  · exact StoreEffect.refl _ _

private theorem keeping_removeThumbnail (id : DatasetId) (s : Surroundings) {w : World}
    (hs : w.store.Sound) :
    StoreEffect.keeping.allows w.store ((removeThumbnail id).run s w).2.store := by
  refine keeping_findDataset fun d v hd hstore => ?_
  have hremoved : v.store.Continues d.removeThumbnail.2 := by
    rw [hstore]
    exact Edited.continues hs (.edit .removeThumbnail (.stored hd) (by simp [Edit.added]))
  split
  · next e he =>
    rw [he] at hremoved
    exact keeping_commit hremoved (by simp [UnitOfWork.merge]) s
  · exact StoreEffect.refl _ _

/-! ### Identifiers of files -/

private theorem keeping_assignFileIdentifiers (id : DatasetId) (s : Surroundings) {w : World}
    (hs : w.store.Sound) :
    StoreEffect.keeping.allows w.store ((assignFileIdentifiers id).run s w).2.store := by
  unfold assignFileIdentifiers
  rw [run_bind_of_ok (x := surroundings) (a := s) (v := w) rfl]
  split
  · exact StoreEffect.refl _ _
  · refine keeping_findDataset fun d v hd hstore => ?_
    split
    · exact StoreEffect.refl _ _
    · next pending _ =>
      have hassigned := (confined_assignAll (pendingFiles d) d .empty s v).1
      cases hrun : (assignAll (pendingFiles d) d .empty).run s v with
      | mk result u =>
        rw [hrun] at hassigned
        cases result with
        | error e =>
          rw [run_bind_of_error hrun]
          exact keeping_of_numbering hassigned
        | ok x =>
          have hcontinues : u.store.Continues x.1 := by
            refine continues_of_numbering hassigned ?_
            rw [hstore]
            have hidentified := returns_assignAll (pendingFiles d) d .empty s v x u hrun
            exact (hs.continues hd).revision ((hs.continues hd).coherent.identify hidentified)
          rw [run_bind_of_ok hrun]
          dsimp only
          rw [run_bind_pure]
          have hcommitted : StoreEffect.keeping.allows u.store
              ((commit (.merge x.1)).run s u).2.store :=
            keeping_commit hcontinues (by simp [UnitOfWork.merge]) s
          exact StoreEffect.keeping.trans (keeping_of_numbering hassigned) hcommitted

/-! ### Exports -/

private theorem keeping_setLastExportTime {s t : Store} {id : DatasetId} {time : Time.Instant}
    (h : s.setLastExportTime id time = .ok t) : StoreEffect.keeping.allows s t := by
  unfold Store.setLastExportTime at h
  split at h
  · cases h
  · next d hd =>
    cases h
    intro hs
    have hcontinues := hs.continues hd
    have hstamped : s.Continues { d with lastExportTime := some time } :=
      hcontinues.revision (hcontinues.coherent.keep rfl rfl rfl)
    have hwork := StoreEffect.keeping_applyWork (w := .merge { d with lastExportTime := some time })
      hstamped (by simp [UnitOfWork.merge])
    have hid : d.id = id := hs.keyed id d hd
    refine StoreEffect.keeping.trans hwork (StoreEffect.keeping_of_eq ?_ ?_) hs
    · show s.datasets.insert id _ = s.datasets.insert d.id _
      rw [hid]
      rfl
    · exact (List.append_nil _).symm

theorem confined_exportFormats (d : Dataset) :
    Confined .keeping (fun _ => True) (exportFormats d) := by
  intro s w
  obtain ⟨exports, hwritten⟩ := foldl_putExport
    (s.exporter (w.count Event.isExporting) d).written (w.record (.exporting d.id))
  change StoreEffect.keeping.allows w.store ((exportFormats d) s w).2.store ∧
    ∃ calls, ((exportFormats d) s w).2.log = w.log ++ calls ∧ ∀ c ∈ calls, True
  simp only [exportFormats, hwritten]
  split <;> exact ⟨StoreEffect.refl _ _, [.exporting d.id], rfl, by simp⟩

theorem confined_visitForExport (force : Bool) (id : DatasetId) :
    Confined .keeping (fun _ => True) (visitForExport force id) := by
  refine (confined_findDataset? id).of_none.outcome.bind fun found => ?_
  have hexport (d : Dataset) : Confined .keeping (fun _ => True) (exportOne d) := by
    refine (confined_exportFormats d).bind fun _ => confined_now.bind fun time => ?_
    refine confined_changeStore (fun s a t ht => ?_) fun _ => trivial
    cases hstamp : s.setLastExportTime d.id time with
    | error e =>
      rw [hstamp] at ht
      cases ht
    | ok u =>
      rw [hstamp] at ht
      cases ht
      exact keeping_setLastExportTime hstamp
  rcases found with _ | _ | d
  · exact confined_pure _
  · exact confined_pure _
  · dsimp only
    split
    · refine (hexport d).outcome.bind fun result => ?_
      cases result with
      | error _ => exact confined_pure _
      | ok _ => exact confined_pure _
    · exact confined_pure _

theorem confined_exportAll (force : Bool) :
    Confined .keeping (fun _ => True) (exportAll force) := by
  have hvisits (ids : List DatasetId) (summary : RunSummary) :
      Confined .keeping (fun _ => True) (visitAll (visitForExport force) ids summary) := by
    induction ids generalizing summary with
    | nil => exact confined_pure _
    | cons id rest ih => exact (confined_visitForExport force id).bind fun _ => ih _
  exact (confined_askStore _ fun _ => trivial).bind fun ids => hvisits ids _

/-! ### Runs -/

private theorem keeping_step {w v : World} (h : WorkflowStep w v) :
    StoreEffect.keeping.allows w.store v.store := by
  intro hs
  cases h with
  | save s hd => exact keeping_commit (hd.continues hs) (by simp [UnitOfWork.merge]) s hs
  | update s hr => exact keeping_update s (hr.continues hs) hs
  | setThumbnail s _ id file => exact keeping_setThumbnail id file s hs hs
  | removeThumbnail s _ id => exact keeping_removeThumbnail id s hs hs
  | assignFileIdentifiers s _ id => exact keeping_assignFileIdentifiers id s hs hs
  | exportAll s _ force => exact (confined_exportAll force s w).1 hs

private theorem keeping_run {w v : World} (h : Relation.ReflTransGen WorkflowStep w v) :
    StoreEffect.keeping.allows w.store v.store := by
  induction h with
  | refl => exact StoreEffect.refl _ _
  | tail _ hstep ih => exact StoreEffect.keeping.trans ih (keeping_step hstep)

/-- Published content does not change. In whatever order the workflows run on a store that began
empty, a version that is not a draft stays where it is and as it is, and every file that it refers
to is still released, with the same content, and was not deleted for good. -/
theorem published_content_immutable {hasSequence : Bool} {w₀ w v : World}
    (hempty : w₀.store = .empty hasSequence) (hw : Relation.ReflTransGen WorkflowStep w₀ w)
    (hv : Relation.ReflTransGen WorkflowStep w v) {id : DatasetId} {d : Dataset} {i : Nat}
    {u : Version} (hd : w.store.findDataset? id = some d) (hu : d.versions[i]? = some u)
    (hpub : u.isDraft = false) :
    ∃ e, v.store.findDataset? id = some e ∧ e.versions[i]? = some u ∧
      ∀ r ∈ u.fileMetadata, ∃ f g, d.file? r.dataFile = some f ∧ e.file? r.dataFile = some g ∧
        f.isReleased = true ∧ g.content = f.content ∧
        r.dataFile ∉ v.store.hardDeletedFiles := by
  have hstart : w₀.store.Sound := by
    rw [hempty]
    exact Store.sound_empty hasSequence
  have hsound := (keeping_run hw hstart).1
  obtain ⟨hsound', hkept⟩ := keeping_run hv hsound
  obtain ⟨e, he, hde⟩ := hkept id d hd
  refine ⟨e, he, hde.version i u hu hpub, fun r hr => ?_⟩
  obtain ⟨f, hf, hrel⟩ := (hsound.coherent id d hd).released u (List.mem_of_getElem? hu) hpub r hr
  obtain ⟨g, hg, hgf⟩ := hde.file r.dataFile f hf hrel
  exact ⟨f, g, hf, hg, hrel, hgf, (hsound'.reserved id e he _ (owns_of_file? hg)).present⟩

/-! ### A published dataset that is edited -/

/-- The draft released with one file. -/
def publishedDataset : Dataset :=
  (Edit.release .epoch false).apply
    ((Edit.addFile (emptyWorld.ids.drop 1) (DataFile.new ⟨⟨3⟩⟩ "text/csv" 9 "b021")
      "gauge.csv").apply titledDraft)

def publishedWorld : World := ((commit (.merge publishedDataset)).run calmSurroundings emptyWorld).2

/-- The published dataset with a draft of other fields. -/
def editedWorld : World :=
  ((commit (.merge ((Edit.editDraft (emptyWorld.ids.drop 9) (.ofFields fun _ => [])).apply
    publishedDataset))).run calmSurroundings publishedWorld).2

private theorem step_publish : WorkflowStep emptyWorld publishedWorld := by
  have hbuild : titledParts.build? emptyWorld.ids .epoch = some titledDraft := rfl
  refine .save calmSurroundings (.edit _ (.edit _ (.new hbuild rfl) fun f _ => ?_) fun f hf => ?_)
  · exact ⟨fun id d hd => (by cases hd), List.not_mem_nil⟩
  · cases hf

private theorem step_edit : WorkflowStep publishedWorld editedWorld := by
  have hstored : publishedWorld.store.findDataset? ⟨⟨1⟩⟩ = some publishedDataset := rfl
  refine .save calmSurroundings (.edit _ (.stored hstored) fun f hf => ?_)
  cases hf

theorem published_content_kept_when_edited :
    editedWorld.store.commits = 2 ∧ ∃ u, publishedDataset.versions[0]? = some u ∧
      ∃ e, editedWorld.store.findDataset? ⟨⟨1⟩⟩ = some e ∧ e.versions[0]? = some u ∧
        ∀ r ∈ u.fileMetadata, ∃ f g, publishedDataset.file? r.dataFile = some f ∧
          e.file? r.dataFile = some g ∧ f.isReleased = true ∧ g.content = f.content ∧
          r.dataFile ∉ editedWorld.store.hardDeletedFiles := by
  have hu : publishedDataset.versions[0]? = some publishedDataset.versions[0] := rfl
  exact ⟨rfl, _, hu, published_content_immutable rfl (.single step_publish) (.single step_edit)
    rfl hu rfl⟩

end Repository

end Depository
