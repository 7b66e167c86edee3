import Mathlib.Data.List.Nodup
import Depository.Proofs.Dataset.Revision

/-!
# Holdings of a dataset

What the deletion of files is about: the files of a dataset, the records of its draft, the
categories, the thumbnail, and which of the versions are drafts. Stamps and fields do not matter
to it. On holdings, deleting is taking out a set of records and a list of files at once.
-/

namespace Depository

/-- What of a dataset the deletion of files is about. -/
@[ext]
structure Holdings where
  files : List DataFile
  records : List FileMetadata
  categories : List Category
  thumbnailFile : Option DataFileId
  drafts : List Bool

namespace Holdings

/-- No two files and no two records share an identity. -/
structure Distinct (h : Holdings) : Prop where
  files : (h.files.map (·.id)).Nodup
  records : (h.records.map (·.id)).Nodup

def file? (h : Holdings) (x : DataFileId) : Option DataFile := h.files.find? fun f => f.id == x

def isReleased (h : Holdings) (x : DataFileId) : Bool := (h.file? x).any (·.isReleased)

def isTabular (h : Holdings) (x : DataFileId) : Bool := (h.file? x).any (·.isTabular)

/-- The categories without the links to some records. -/
def unlink (records : List FileMetadata) (categories : List Category) : List Category :=
  categories.map fun c =>
    { c with members := c.members.filter fun id => !(records.map (·.id)).contains id }

/-- The holdings without some of the records, with all links to them, and without some files. -/
def strip (gone : FileMetadata → Bool) (files : List DataFileId) (h : Holdings) : Holdings :=
  { h with
    files := h.files.filter fun f => !files.contains f.id
    records := h.records.filter fun r => !gone r
    categories := unlink (h.records.filter gone) h.categories }

variable {h : Holdings} {gone gone' : FileMetadata → Bool} {files files' : List DataFileId}

/-- A record is found by its identity. -/
theorem Distinct.find?_id (hd : h.Distinct) {r : FileMetadata} (hr : r ∈ h.records) :
    (h.records.find? fun q => q.id == r.id) = some r := by
  cases hfound : h.records.find? fun q => q.id == r.id with
  | none => simpa using List.find?_eq_none.mp hfound r hr
  | some q =>
    have hid : q.id = r.id := by simpa using List.find?_some hfound
    rw [List.inj_on_of_nodup_map hd.records (List.mem_of_find?_eq_some hfound) hr hid]

theorem Distinct.strip (hd : h.Distinct) : (h.strip gone files).Distinct :=
  ⟨hd.files.sublist (List.filter_sublist.map _), hd.records.sublist (List.filter_sublist.map _)⟩

private theorem unlink_nil (categories : List Category) : unlink [] categories = categories := by
  simp [unlink]

private theorem unlink_unlink (records records' : List FileMetadata) (categories : List Category) :
    unlink records' (unlink records categories) = unlink (records ++ records') categories := by
  simp only [unlink, List.map_map, List.map_append]
  refine List.map_congr_left fun c _ => ?_
  simp [List.filter_filter, Bool.and_comm]

/-- Only the identities of the records matter. -/
private theorem unlink_congr {records records' : List FileMetadata}
    (hsame : ∀ id, (∃ r ∈ records, r.id = id) ↔ ∃ r ∈ records', r.id = id)
    (categories : List Category) : unlink records categories = unlink records' categories := by
  refine List.map_congr_left fun c _ => ?_
  congr 1
  refine List.filter_congr fun id _ => congrArg (! ·) ?_
  rw [Bool.eq_iff_iff, List.contains_iff_mem, List.contains_iff_mem, List.mem_map, List.mem_map,
    hsame]

theorem strip_congr (hgone : ∀ r ∈ h.records, gone r = gone' r)
    (hfiles : ∀ x, x ∈ files ↔ x ∈ files') : h.strip gone files = h.strip gone' files' := by
  have hrecords : h.records.filter gone = h.records.filter gone' := List.filter_congr hgone
  have hkept : (h.records.filter fun r => !gone r) = h.records.filter fun r => !gone' r :=
    List.filter_congr fun r hr => by rw [hgone r hr]
  have hsame : (h.files.filter fun f => !files.contains f.id) =
      h.files.filter fun f => !files'.contains f.id := by
    refine List.filter_congr fun f _ => congrArg (! ·) ?_
    rw [Bool.eq_iff_iff, List.contains_iff_mem, List.contains_iff_mem, hfiles]
  simp only [strip, hrecords, hkept, hsame]

theorem strip_eq_self (hgone : ∀ r ∈ h.records, gone r = false)
    (hfiles : ∀ f ∈ h.files, f.id ∉ files) : h.strip gone files = h := by
  have hrecords : h.records.filter gone = [] := by
    rw [List.filter_eq_nil_iff]
    intro r hr
    simp [hgone r hr]
  have hkept : (h.records.filter fun r => !gone r) = h.records := by
    rw [List.filter_eq_self]
    intro r hr
    simp [hgone r hr]
  have hsame : (h.files.filter fun f => !files.contains f.id) = h.files := by
    rw [List.filter_eq_self]
    intro f hf
    simp [hfiles f hf]
  simp only [strip, hrecords, hkept, hsame, unlink_nil]

/-- What is taken out in two steps can be taken out in one. -/
theorem strip_strip (h : Holdings) (gone gone' : FileMetadata → Bool)
    (files files' : List DataFileId) :
    (h.strip gone files).strip gone' files' =
      h.strip (fun r => gone r || gone' r) (files ++ files') := by
  have hlinks : unlink ((h.records.filter fun r => !gone r).filter gone')
      (unlink (h.records.filter gone) h.categories) =
      unlink (h.records.filter fun r => gone r || gone' r) h.categories := by
    rw [unlink_unlink]
    -- The two lists hold the same records in different orders.
    refine unlink_congr (fun id => ?_) h.categories
    simp only [List.mem_append, List.mem_filter, Bool.or_eq_true, Bool.not_eq_true']
    constructor
    · rintro ⟨r, ⟨hr, hgone⟩ | ⟨⟨hr, -⟩, hgone⟩, hid⟩
      · exact ⟨r, ⟨hr, Or.inl hgone⟩, hid⟩
      · exact ⟨r, ⟨hr, Or.inr hgone⟩, hid⟩
    · rintro ⟨r, ⟨hr, hgone⟩, hid⟩
      cases hfirst : gone r with
      | true => exact ⟨r, Or.inl ⟨hr, hfirst⟩, hid⟩
      | false => exact ⟨r, Or.inr ⟨⟨hr, hfirst⟩, by simpa [hfirst] using hgone⟩, hid⟩
  ext1
  · simp only [strip, List.filter_filter]
    refine List.filter_congr fun f _ => ?_
    simp [List.contains_eq_mem, Bool.and_comm]
  · simp only [strip, List.filter_filter]
    refine List.filter_congr fun r _ => ?_
    rw [Bool.not_or, Bool.and_comm]
  · exact hlinks
  · rfl
  · rfl

/-- Files that are not released do not change which are when they go. -/
theorem isReleased_strip (hfiles : ∀ x ∈ files, h.isReleased x = false) (x : DataFileId) :
    (h.strip gone files).isReleased x = h.isReleased x := by
  have hfind : (h.strip gone files).file? x = if x ∈ files then none else h.file? x := by
    unfold file? strip
    rw [List.find?_filter]
    split
    · next hx =>
      rw [List.find?_eq_none]
      rintro f - hf
      obtain ⟨hkept, rfl⟩ : f.id ∉ files ∧ f.id = x := by simpa using hf
      exact hkept hx
    · next hx =>
      congr 1
      funext f
      by_cases hf : f.id = x
      · simp [hf, hx]
      · simp [hf]
  unfold isReleased
  rw [hfind]
  split
  · next hx => exact (hfiles x hx).symm
  · rfl

end Holdings

namespace Dataset

theorem getLast?_mapLast {α : Type} (change : α → α) (l : List α) :
    (mapLast change l).getLast? = l.getLast?.map change := by
  rcases List.eq_nil_or_concat l with rfl | ⟨l, a, rfl⟩
  · rfl
  · rw [List.concat_eq_append, mapLast_append, List.getLast?_concat, List.getLast?_concat]
    rfl

private theorem map_mapLast {α β : Type} {change : α → α} {f : α → β} {l : List α}
    (h : ∀ a, l.getLast? = some a → f (change a) = f a) : (mapLast change l).map f = l.map f := by
  rcases List.eq_nil_or_concat l with rfl | ⟨l, a, rfl⟩
  · rfl
  · rw [List.concat_eq_append] at h ⊢
    rw [mapLast_append, List.map_append, List.map_append, List.map_singleton, List.map_singleton,
      h a (List.getLast?_concat)]

/-- What the deletion of files is about. -/
def holdings (d : Dataset) : Holdings where
  files := d.files.map DataFile.content
  records := (d.draft?.map (·.fileMetadata)).getD []
  categories := d.categories
  thumbnailFile := d.thumbnailFile
  drafts := d.versions.map (·.isDraft)

theorem records_of_versions {d : Dataset} {older : List Version} {v : Version}
    (h : d.versions = older ++ [v]) (hv : v.isDraft = true) :
    d.holdings.records = v.fileMetadata := by
  unfold holdings
  rw [draft?_of_versions h, if_pos hv]
  rfl

theorem draftRecord?_eq (d : Dataset) (id : FileMetadataId) :
    d.draftRecord? id = d.holdings.records.find? fun r => r.id == id := by
  unfold draftRecord? holdings
  cases d.draft? <;> rfl

theorem draftRecordFor?_eq (d : Dataset) (x : DataFileId) :
    d.draft?.bind (·.recordFor? x) = d.holdings.records.find? fun r => r.dataFile == x := by
  unfold holdings
  cases d.draft? <;> rfl

theorem file?_holdings (d : Dataset) (x : DataFileId) :
    d.holdings.file? x = (d.file? x).map DataFile.content := by
  unfold Holdings.file? holdings file?
  rw [List.find?_map]
  rfl

theorem isReleased_holdings (d : Dataset) (x : DataFileId) :
    d.holdings.isReleased x = (d.file? x).any (·.isReleased) := by
  rw [Holdings.isReleased, file?_holdings, Option.any_map]
  rfl

theorem isTabular_holdings (d : Dataset) (x : DataFileId) :
    d.holdings.isTabular x = (d.file? x).any (·.isTabular) := by
  rw [Holdings.isTabular, file?_holdings, Option.any_map]
  rfl

theorem fileIds_holdings (d : Dataset) : d.holdings.files.map (·.id) = d.files.map (·.id) := by
  unfold holdings
  rw [List.map_map]
  rfl

theorem length_files (d : Dataset) : d.files.length = d.holdings.files.length :=
  (List.length_map _).symm

/-! ### Changes that leave the holdings -/

theorem holdings_of_same {d e : Dataset} (hversions : e.versions = d.versions)
    (hfiles : SameFiles d e) (hcategories : e.categories = d.categories)
    (hthumbnail : e.thumbnailFile = d.thumbnailFile) : e.holdings = d.holdings := by
  have hdraft : e.draft? = d.draft? := by rw [draft?, latest?, hversions, draft?, latest?]
  unfold holdings
  rw [hdraft, hversions, show e.files.map DataFile.content = _ from hfiles, hcategories, hthumbnail]

theorem holdings_mapLatest {d : Dataset} {change : Version → Version}
    (h : ∀ v, d.latest? = some v →
      (change v).isDraft = v.isDraft ∧ (change v).fileMetadata = v.fileMetadata) :
    (d.mapLatest change).holdings = d.holdings := by
  have hdrafts : (d.mapLatest change).versions.map (·.isDraft) = d.versions.map (·.isDraft) :=
    map_mapLast fun v hv => (h v hv).1
  have hlatest : (d.mapLatest change).latest? = d.latest?.map change :=
    getLast?_mapLast change d.versions
  have hrecords : ((d.mapLatest change).draft?.map (·.fileMetadata)).getD [] =
      (d.draft?.map (·.fileMetadata)).getD [] := by
    unfold draft?
    rw [hlatest]
    cases hv : d.latest? with
    | none => rfl
    | some v =>
      obtain ⟨hdraft, hsame⟩ := h v hv
      by_cases hd : v.isDraft = true
      · simp [Option.filter, hdraft, hd, hsame]
      · simp [Option.filter, hdraft, hd]
  unfold holdings
  rw [hdrafts, hrecords]
  rfl

theorem holdings_mapDraft {d : Dataset} {change : Version → Version}
    (hdraft : ∀ v, (change v).isDraft = v.isDraft)
    (hrecords : ∀ v, (change v).fileMetadata = v.fileMetadata) :
    (d.mapDraft change).holdings = d.holdings := by
  unfold mapDraft
  split
  · exact holdings_mapLatest fun v _ => ⟨hdraft v, hrecords v⟩
  · rfl

theorem holdings_of_unidentified {d e : Dataset} (h : e.unidentified = d.unidentified) :
    e.holdings = d.holdings := by
  have hversions := congrArg Dataset.versions h
  have hcategories := congrArg Dataset.categories h
  have hthumbnail := congrArg Dataset.thumbnailFile h
  exact holdings_of_same hversions (.of_unidentified h) hcategories hthumbnail

/-! ### Removing a record and removing a file -/

/-- At most one element has a given key, so that erasing it is filtering. -/
private theorem eraseP_eq_filter {α β : Type} [BEq β] [LawfulBEq β] {key : α → β} {l : List α}
    (h : (l.map key).Nodup) (b : β) :
    l.eraseP (fun a => key a == b) = l.filter fun a => !(key a == b) := by
  induction l with
  | nil => rfl
  | cons a rest ih =>
    rw [List.map_cons, List.nodup_cons] at h
    by_cases ha : key a = b
    · have hrest : (rest.filter fun c => !(key c == b)) = rest := by
        rw [List.filter_eq_self]
        intro c hc
        have hne : key c ≠ b := fun hcb => h.1 (ha.trans hcb.symm ▸ List.mem_map_of_mem hc)
        simp [hne]
      simp [ha, hrest]
    · simp [ha, ih h.2]

/-- The last version is a draft, and no other is. -/
def SingleDraft (d : Dataset) : Prop :=
  ∃ older v, d.versions = older ++ [v] ∧ v.isDraft = true ∧ ∀ u ∈ older, u.isDraft = false

theorem SingleDraft.hasDraft {d : Dataset} (h : d.SingleDraft) : d.HasDraft := by
  obtain ⟨older, v, hversions, hv, -⟩ := h
  exact ⟨older, v, hversions, hv⟩

theorem HasDraft.singleDraft {d : Dataset} (h : d.HasDraft)
    (hone : (d.versions.filter (·.isDraft)).length ≤ 1) : d.SingleDraft := by
  obtain ⟨older, v, hversions, hv⟩ := h
  refine ⟨older, v, hversions, hv, fun u hu => ?_⟩
  rw [hversions, List.filter_append, List.length_append, List.filter_singleton, hv] at hone
  have hnone : older.filter (·.isDraft) = [] := List.eq_nil_of_length_eq_zero (by simpa using hone)
  simpa using List.filter_eq_nil_iff.mp hnone u hu

/-- Which versions are drafts tells whether only the last one is. -/
theorem SingleDraft.of_drafts {d e : Dataset} (h : e.SingleDraft)
    (hdrafts : e.holdings.drafts = d.holdings.drafts) : d.SingleDraft := by
  obtain ⟨older, v, hversions, hv, holder⟩ := h
  have hflags : d.versions.map (·.isDraft) = older.map (·.isDraft) ++ [v.isDraft] := by
    show d.holdings.drafts = _
    rw [← hdrafts]
    show e.versions.map (·.isDraft) = _
    rw [hversions, List.map_append, List.map_singleton]
  obtain ⟨older', last, hd, hsame, hlast⟩ := List.map_eq_append_iff.mp hflags
  obtain ⟨u, rest, rfl, hu, hrest⟩ := List.map_eq_cons_iff.mp hlast
  obtain rfl := List.map_eq_nil_iff.mp hrest
  refine ⟨older', u, hd, hu.trans hv, fun t ht => ?_⟩
  have hmem : t.isDraft ∈ older.map (·.isDraft) := hsame ▸ List.mem_map_of_mem ht
  obtain ⟨t', ht', heq⟩ := List.mem_map.mp hmem
  rw [← heq, holder t' ht']

theorem drafts_removeDraftRecord (d : Dataset) (id : FileMetadataId) :
    (d.removeDraftRecord id).2.holdings.drafts = d.holdings.drafts := by
  unfold removeDraftRecord
  split
  · rfl
  · exact map_mapLast fun _ _ => rfl

theorem drafts_removeFile (d : Dataset) (x : DataFileId) :
    (d.removeFile x).2.holdings.drafts = d.holdings.drafts := by
  unfold removeFile
  split
  · rfl
  · show List.map _ (List.map _ d.versions) = _
    rw [List.map_map]
    rfl

theorem holdings_removeDraftRecord {d : Dataset} (hdraft : d.HasDraft)
    (hdistinct : d.holdings.Distinct) (id : FileMetadataId) :
    (d.removeDraftRecord id).2.holdings = d.holdings.strip (fun r => r.id == id) [] := by
  have hdrafts := d.drafts_removeDraftRecord id
  obtain ⟨older, v, hversions, hv⟩ := hdraft
  have hrecords : d.holdings.records = v.fileMetadata := records_of_versions hversions hv
  cases hfound : d.draftRecord? id with
  | none =>
    have hsame : (d.removeDraftRecord id).2 = d := by simp only [removeDraftRecord, hfound]
    rw [draftRecord?_eq, List.find?_eq_none] at hfound
    rw [hsame, Holdings.strip_eq_self (fun r hr => by simpa using hfound r hr) (by simp)]
  | some record =>
    have hrecord := hfound
    rw [draftRecord?_eq] at hrecord
    obtain rfl : record.id = id := by simpa using List.find?_some hrecord
    have hmem := List.mem_of_find?_eq_some hrecord
    have hrun : (d.removeDraftRecord record.id).2 = (d.mapLatest fun v =>
        { v with fileMetadata := v.fileMetadata.eraseP fun r => r.id == record.id }).unlink
          [record.id] := by
      simp only [removeDraftRecord, hfound]
    rw [hrun] at hdrafts ⊢
    ext1
    · show d.holdings.files = d.holdings.files.filter _
      simp
    · rw [records_of_versions (v := { v with
        fileMetadata := v.fileMetadata.eraseP fun r => r.id == record.id })
        (versions_mapLatest hversions _) hv]
      show _ = d.holdings.records.filter _
      rw [← eraseP_eq_filter hdistinct.records, hrecords]
    · show Holdings.unlink [record] d.categories = Holdings.unlink _ d.categories
      refine Holdings.unlink_congr (fun x => ?_) d.categories
      simp only [List.mem_singleton, exists_eq_left, List.mem_filter, beq_iff_eq]
      constructor
      · rintro rfl
        exact ⟨record, ⟨hmem, rfl⟩, rfl⟩
      · rintro ⟨r, ⟨-, hr⟩, rfl⟩
        exact hr.symm
    · rfl
    · exact hdrafts

/-- The records about a file that is not released are those of the draft. -/
theorem Coherent.recordsOf {d : Dataset} (h : d.Coherent) (hdraft : d.SingleDraft)
    {x : DataFileId} (hx : (d.file? x).any (·.isReleased) = false) :
    d.recordsOf x = d.holdings.records.filter fun r => r.dataFile == x := by
  obtain ⟨older, v, hversions, hv, holder⟩ := hdraft
  have hnone : (older.flatMap fun u => u.fileMetadata.filter fun r => r.dataFile == x) = [] := by
    rw [List.flatMap_eq_nil_iff]
    intro u hu
    rw [List.filter_eq_nil_iff]
    intro r hr
    have hmem : u ∈ d.versions := hversions ▸ List.mem_append_left _ hu
    simpa using h.ne_of_published hx hmem (holder u hu) hr
  rw [records_of_versions hversions hv, Dataset.recordsOf, hversions, List.flatMap_append, hnone]
  simp

/-- A dataset that does not own a file holds nothing of it. -/
private theorem Coherent.strip_of_not_owns {d : Dataset} (h : d.Coherent) (hdraft : d.HasDraft)
    {x : DataFileId} (hx : ¬ d.Owns x) :
    d.holdings.strip (fun r => r.dataFile == x) [x] = d.holdings := by
  obtain ⟨older, v, hversions, hv⟩ := hdraft
  refine Holdings.strip_eq_self (fun r hr => ?_) fun f hf => ?_
  · rw [records_of_versions hversions hv] at hr
    have howned := h.owned v (by simp [hversions]) r hr
    have hne : r.dataFile ≠ x := fun hrx => hx (hrx ▸ howned)
    simpa using hne
  · obtain ⟨g, hg, rfl⟩ := List.mem_map.mp hf
    have hne : g.id ≠ x := fun hgx => hx ⟨g, hg, hgx⟩
    rw [List.mem_singleton]
    exact hne

theorem holdings_removeFile {d : Dataset} (h : d.Coherent) (hdraft : d.SingleDraft)
    (hdistinct : d.holdings.Distinct) {x : DataFileId}
    (hx : (d.file? x).any (·.isReleased) = false) (hthumbnail : d.thumbnailFile ≠ some x) :
    (d.removeFile x).2.holdings = d.holdings.strip (fun r => r.dataFile == x) [x] := by
  have hdrafts := d.drafts_removeFile x
  have hrecordsOf := h.recordsOf hdraft hx
  cases hfound : d.file? x with
  | none =>
    have hsame : (d.removeFile x).2 = d := by simp only [removeFile, hfound]
    have hnone : ¬ d.Owns x := by simp [owns_iff_file?_isSome, hfound]
    rw [hsame, h.strip_of_not_owns hdraft.hasDraft hnone]
  | some file =>
    obtain ⟨older, v, hversions, hv, -⟩ := hdraft
    let strip (u : Version) : Version :=
      { u with fileMetadata := u.fileMetadata.filter fun r => r.dataFile != x }
    have hrun : (d.removeFile x).2 = ({ d with
        files := d.files.eraseP (fun f => f.id == x)
        versions := d.versions.map strip
        thumbnailFile := if d.thumbnailFile = some x then none else d.thumbnailFile } :
          Dataset).unlink ((d.recordsOf x).map (·.id)) := by
      simp only [removeFile, hfound]
      rfl
    have hstripped : d.versions.map strip = older.map strip ++ [strip v] := by
      rw [hversions, List.map_append, List.map_singleton]
    have hfiles := hdistinct.files
    rw [fileIds_holdings] at hfiles
    rw [hrun] at hdrafts ⊢
    ext1
    · show (d.files.eraseP fun f => f.id == x).map _ = (d.files.map _).filter _
      rw [eraseP_eq_filter hfiles, List.filter_map]
      congr 1
      refine List.filter_congr fun f _ => ?_
      show (!(f.id == x)) = !([x].contains f.id)
      rw [List.contains_cons, List.contains_nil, Bool.or_false]
    · rw [records_of_versions (v := strip v) hstripped hv]
      show _ = d.holdings.records.filter _
      rw [records_of_versions hversions hv]
      rfl
    · show Holdings.unlink (d.recordsOf x) d.categories = Holdings.unlink (List.filter _ _) _
      rw [hrecordsOf]
      rfl
    · exact if_neg hthumbnail
    · exact hdrafts

/-! ### The draft that is opened -/

/-- Identities are not repeated: not among the files, and not among the records of a version. -/
structure DistinctIds (d : Dataset) : Prop where
  files : (d.files.map (·.id)).Nodup
  records : ∀ v ∈ d.versions, (v.fileMetadata.map (·.id)).Nodup

/-- The identities that will be taken up to the `n`-th after the next are pairwise different. -/
def Fresh (ids : Supply Uuid) (n : Nat) : Prop :=
  ∀ i ≤ n, ∀ j ≤ n, ids.ahead i = ids.ahead j → i = j

theorem nodup_copiedRecords {ids : Supply Uuid} {v : Version}
    (hids : Fresh ids v.fileMetadata.length) : ((v.copiedRecords ids).map (·.id)).Nodup := by
  unfold Version.copiedRecords
  rw [List.Nodup, List.pairwise_iff_getElem]
  intro i j hi hj hij
  simp only [List.length_map, List.length_mapIdx] at hi hj
  simp only [List.getElem_map, List.getElem_mapIdx, ne_eq, EntityId.mk.injEq]
  intro hsame
  have hindex := hids (i + 1) hi (j + 1) hj hsame
  omega

theorem files_openDraft (d : Dataset) (ids : Supply Uuid) :
    (d.openDraft ids).1.files = d.files := by
  unfold openDraft
  split
  · rfl
  · split <;> rfl

theorem thumbnailFile_openDraft (d : Dataset) (ids : Supply Uuid) :
    (d.openDraft ids).1.thumbnailFile = d.thumbnailFile := by
  unfold openDraft
  split
  · rfl
  · split <;> rfl

/-- The draft of a dataset without repeated identities has none, if it is a copy because those that
are given to it are fresh. -/
theorem DistinctIds.openDraft {d : Dataset} (h : d.DistinctIds) {ids : Supply Uuid}
    (hids : ∀ v, d.latest? = some v → Fresh ids v.fileMetadata.length) :
    (d.openDraft ids).1.holdings.Distinct := by
  refine ⟨?_, ?_⟩
  · rw [fileIds_holdings, files_openDraft]
    exact h.files
  · unfold Dataset.openDraft
    split
    · next hdraft =>
      obtain ⟨older, v, hversions, hv⟩ := hasDraft_of_draft? hdraft
      rw [records_of_versions hversions hv]
      exact h.records v (by simp [hversions])
    · split
      · next v hlatest =>
        have hversions : (d.appendDerived ids v).versions = d.versions ++ [v.derive ids] := rfl
        rw [records_of_versions hversions rfl]
        exact nodup_copiedRecords (hids v hlatest)
      · have hversions : ({ d with versions := [.draft ⟨ids.next⟩] } : Dataset).versions =
            [] ++ [.draft ⟨ids.next⟩] := rfl
        rw [records_of_versions hversions rfl]
        exact List.nodup_nil

end Dataset

end Depository
