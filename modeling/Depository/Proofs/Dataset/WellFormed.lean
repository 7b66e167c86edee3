import Depository.Proofs.Dataset.Editing
import Depository.Proofs.Dataset.Holdings
import Depository.Proofs.Repository.Calls
import Mathlib.Logic.Relation

/-!
# Well-formed datasets

The versions, files, records and categories of a dataset name each other by identity only. In a
well-formed dataset every name finds what it means, and finds it once. Each operation keeps a
dataset well-formed, so a dataset that was built stays so under any number of operations.
-/

namespace Depository

/-- What of a version others refer to: its identity, whether it is a draft, and which record is
about which file. -/
def Version.outline (v : Version) : VersionId × Bool × List (FileMetadataId × DataFileId) :=
  (v.id, v.isDraft, v.fileMetadata.map fun r => (r.id, r.dataFile))

namespace Dataset

def records (d : Dataset) : List FileMetadata := d.versions.flatMap (·.fileMetadata)

def recordIds (d : Dataset) : List FileMetadataId := d.records.map (·.id)

/-- Only the last version may be a draft; identities and names of categories are not repeated; a
version has one record at most for a file; and what refers to a file, a record or a released file
finds one. -/
structure WellFormed (d : Dataset) : Prop extends Coherent d where
  onlyLastDraft : ∀ v ∈ d.versions.dropLast, v.isDraft = false
  uniqueVersions : (d.versions.map (·.id)).Nodup
  uniqueFiles : (d.files.map (·.id)).Nodup
  uniqueRecords : d.recordIds.Nodup
  oneRecordPerFile : ∀ v ∈ d.versions, (v.fileMetadata.map (·.dataFile)).Nodup
  uniqueCategories : (d.categories.map (·.name)).Nodup
  membersOnce : ∀ c ∈ d.categories, c.members.Nodup
  membersKnown : ∀ c ∈ d.categories, ∀ id ∈ c.members, id ∈ d.recordIds
  thumbnailOwned : ∀ x, d.thumbnailFile = some x → d.Owns x

/-! ### Fresh identities -/

/-- How many identities the opening of a draft takes: one for the draft and one for each record
that is copied. -/
def openingCost (d : Dataset) : Nat :=
  if d.draft?.isSome then 0
  else match d.latest? with
    | some v => v.fileMetadata.length + 1
    | none => 1

/-- The next identities are different from each other and from those of the versions and records
of the dataset. -/
structure FreshFor (d : Dataset) (ids : Supply Uuid) (n : Nat) : Prop where
  apart : ∀ i < n, ∀ j < n, ids.ahead i = ids.ahead j → i = j
  versions : ∀ i < n, (⟨ids.ahead i⟩ : VersionId) ∉ d.versions.map (·.id)
  records : ∀ i < n, (⟨ids.ahead i⟩ : FileMetadataId) ∉ d.recordIds

/-- An operation on a dataset. A draft that is opened may be rewritten as long as its outline
stays; the identities that are given are fresh, and so is that of a file that is added. -/
inductive Change : Dataset → Dataset → Prop where
  | edit {d : Dataset} {ids : Supply Uuid} {change : Version → Version} :
      d.FreshFor ids d.openingCost → (∀ v, (change v).outline = v.outline) →
      Change d ((d.openDraft ids).1.mapLatest change)
  | addFile {d : Dataset} {ids : Supply Uuid} {file : DataFile} (label : String) :
      d.FreshFor ids (d.openingCost + 1) → ¬ d.Owns file.id →
      Change d (d.addFile ids file label).2.1
  | addToCategory {d : Dataset} {id : FileMetadataId} (name : String) :
      id ∈ d.recordIds → Change d (d.addToCategory id name)
  | removeDraftRecord (d : Dataset) (id : FileMetadataId) : Change d (d.removeDraftRecord id).2
  | removeFile (d : Dataset) (x : DataFileId) : Change d (d.removeFile x).2
  | setThumbnail (d : Dataset) (x : DataFileId) : Change d (d.setThumbnail x).2
  | removeThumbnail (d : Dataset) : Change d d.removeThumbnail.2
  | release (d : Dataset) (time : Time.Instant) (minor : Bool) :
      Change d (d.releaseDraft time minor).2

variable {d e : Dataset}

/-! ### Records and files -/

private theorem mem_recordIds {id : FileMetadataId} :
    id ∈ d.recordIds ↔ ∃ v ∈ d.versions, ∃ r ∈ v.fileMetadata, r.id = id := by
  simp only [recordIds, records, List.mem_map, List.mem_flatMap]
  constructor
  · rintro ⟨r, ⟨v, hv, hr⟩, hid⟩
    exact ⟨v, hv, r, hr, hid⟩
  · rintro ⟨v, hv, r, hr, hid⟩
    exact ⟨r, ⟨v, hv, hr⟩, hid⟩

private theorem recordIds_of_versions {older : List Version} {v : Version}
    (h : d.versions = older ++ [v]) :
    d.recordIds = older.flatMap (fun u => u.fileMetadata.map (·.id)) ++
      v.fileMetadata.map (·.id) := by
  simp [recordIds, records, h, List.map_flatMap]

private theorem owns_iff_mem {x : DataFileId} : d.Owns x ↔ x ∈ d.files.map (·.id) := by
  simp [Owns]

private theorem owns_iff_of_fileIds (h : e.files.map (·.id) = d.files.map (·.id)) (x : DataFileId) :
    e.Owns x ↔ d.Owns x := by
  rw [owns_iff_mem, owns_iff_mem, h]

/-- All versions are published if there is no draft. -/
theorem WellFormed.published (h : d.WellFormed) (hdraft : d.draft?.isSome = false) :
    ∀ v ∈ d.versions, v.isDraft = false := by
  intro v hv
  rcases List.eq_nil_or_concat d.versions with hnone | ⟨older, last, hversions⟩
  · simp [hnone] at hv
  · rw [List.concat_eq_append] at hversions
    have holder := h.onlyLastDraft
    rw [hversions, List.dropLast_concat] at holder
    rw [draft?_of_versions hversions] at hdraft
    rw [hversions] at hv
    rcases List.mem_append.mp hv with hv | hv
    · exact holder v hv
    · rw [List.mem_singleton.mp hv]
      by_contra hlast
      simp [hlast] at hdraft

/-! ### Changing the last version -/

/-- The last version is exchanged for another one of its identity. -/
theorem WellFormed.exchange (h : d.WellFormed) {older : List Version} {v u : Version}
    (hd : d.versions = older ++ [v]) (he : e.versions = older ++ [u]) (hcoherent : e.Coherent)
    (hid : u.id = v.id) (hrecords : e.recordIds.Nodup)
    (hone : (u.fileMetadata.map (·.dataFile)).Nodup)
    (hfiles : e.files.map (·.id) = d.files.map (·.id))
    (hthumbnail : e.thumbnailFile = d.thumbnailFile)
    (hnames : e.categories.map (·.name) = d.categories.map (·.name))
    (hmembers : ∀ c ∈ e.categories, c.members.Nodup ∧ ∀ id ∈ c.members, id ∈ e.recordIds) :
    e.WellFormed where
  toCoherent := hcoherent
  onlyLastDraft := by
    have holder := h.onlyLastDraft
    rw [hd, List.dropLast_concat] at holder
    rw [he, List.dropLast_concat]
    exact holder
  uniqueVersions := by
    have hversions := h.uniqueVersions
    rw [hd, List.map_append, List.map_singleton, ← hid] at hversions
    rw [he, List.map_append, List.map_singleton]
    exact hversions
  uniqueFiles := hfiles ▸ h.uniqueFiles
  uniqueRecords := hrecords
  oneRecordPerFile := by
    intro w hw
    rw [he] at hw
    rcases List.mem_append.mp hw with hw | hw
    · apply h.oneRecordPerFile
      rw [hd]
      exact List.mem_append_left _ hw
    · rw [List.mem_singleton.mp hw]
      exact hone
  uniqueCategories := hnames ▸ h.uniqueCategories
  membersOnce := fun c hc => (hmembers c hc).1
  membersKnown := fun c hc => (hmembers c hc).2
  thumbnailOwned := by
    intro x hx
    rw [owns_iff_of_fileIds hfiles]
    exact h.thumbnailOwned x (hthumbnail ▸ hx)

/-- The same with the same records, files, categories and thumbnail. -/
private theorem WellFormed.retouch (h : d.WellFormed) {older : List Version} {v u : Version}
    (hd : d.versions = older ++ [v]) (he : e.versions = older ++ [u]) (hcoherent : e.Coherent)
    (hid : u.id = v.id) (hrecords : u.fileMetadata.map (·.id) = v.fileMetadata.map (·.id))
    (hfiles : u.fileMetadata.map (·.dataFile) = v.fileMetadata.map (·.dataFile))
    (hfileIds : e.files.map (·.id) = d.files.map (·.id))
    (hthumbnail : e.thumbnailFile = d.thumbnailFile) (hcategories : e.categories = d.categories) :
    e.WellFormed := by
  have hsame : e.recordIds = d.recordIds := by
    rw [recordIds_of_versions he, recordIds_of_versions hd, hrecords]
  have hv : v ∈ d.versions := by simp [hd]
  apply h.exchange hd he hcoherent hid
  · rw [hsame]
    exact h.uniqueRecords
  · rw [hfiles]
    exact h.oneRecordPerFile v hv
  · exact hfileIds
  · exact hthumbnail
  · rw [hcategories]
  · intro c hc
    rw [hcategories] at hc
    rw [hsame]
    exact ⟨h.membersOnce c hc, h.membersKnown c hc⟩

/-! ### Opening a draft -/

theorem FreshFor.fresh {ids : Supply Uuid} {n m : Nat} (h : d.FreshFor ids m) (hn : n < m) :
    Fresh ids n := by
  intro i hi j hj
  exact h.apart i (by omega) j (by omega)

theorem FreshFor.drop {ids : Supply Uuid} {n : Nat} (h : d.FreshFor ids (n + 1)) :
    d.FreshFor (ids.drop 1) n where
  apart i hi j hj hij := by
    rw [Supply.ahead_drop, Supply.ahead_drop] at hij
    have := h.apart (1 + i) (by omega) (1 + j) (by omega) hij
    omega
  versions i hi := by
    rw [Supply.ahead_drop]
    exact h.versions (1 + i) (by omega)
  records i hi := by
    rw [Supply.ahead_drop]
    exact h.records (1 + i) (by omega)

theorem mem_copiedRecords {ids : Supply Uuid} {v : Version} {r : FileMetadata}
    (h : r ∈ v.copiedRecords ids) :
    ∃ i < v.fileMetadata.length, r.id = ⟨ids.ahead (i + 1)⟩ := by
  obtain ⟨i, hi, rfl⟩ := List.mem_mapIdx.mp h
  exact ⟨i, hi, rfl⟩

theorem dataFile_copiedRecords (ids : Supply Uuid) (v : Version) :
    (v.copiedRecords ids).map (·.dataFile) = v.fileMetadata.map (·.dataFile) := by
  apply List.ext_getElem
  · simp [Version.copiedRecords]
  · intro i hi hi'
    simp [Version.copiedRecords]

theorem mem_extendCategory {copies : List (FileMetadataId × FileMetadataId)} {c : Category}
    {id : FileMetadataId} (h : id ∈ (extendCategory copies c).members) :
    id ∈ c.members ∨ id ∈ copies.map (·.2) := by
  rcases List.mem_append.mp h with h | h
  · exact Or.inl h
  · obtain ⟨p, hp, rfl⟩ := List.mem_map.mp h
    exact Or.inr (List.mem_map_of_mem (List.mem_of_mem_filter hp))

private theorem nodup_extendCategory {copies : List (FileMetadataId × FileMetadataId)}
    {c : Category} (hc : c.members.Nodup) (hcopies : (copies.map (·.2)).Nodup)
    (hnew : ∀ id ∈ copies.map (·.2), id ∉ c.members) : (extendCategory copies c).members.Nodup := by
  have hsub : ((copies.filter fun p => c.members.contains p.1).map (·.2)).Sublist
      (copies.map (·.2)) := List.filter_sublist.map _
  apply List.Nodup.append hc (hcopies.sublist hsub)
  intro id hid hid'
  exact hnew id (hsub.subset hid') hid

/-- The identities of the records of a version, each with that of its copy. -/
def copiesOf (ids : Supply Uuid) (v : Version) : List (FileMetadataId × FileMetadataId) :=
  (v.fileMetadata.map (·.id)).zip ((v.copiedRecords ids).map (·.id))

theorem map_snd_copiesOf (ids : Supply Uuid) (v : Version) :
    (copiesOf ids v).map (·.2) = (v.copiedRecords ids).map (·.id) := by
  rw [copiesOf, List.map_snd_zip]
  simp [Version.copiedRecords]

/-- A copy of the last version as a draft, where there was none. -/
theorem WellFormed.appendDerived (h : d.WellFormed) {ids : Supply Uuid} {v : Version}
    (hv : d.latest? = some v) (hdraft : d.draft?.isSome = false)
    (hids : d.FreshFor ids (v.fileMetadata.length + 1))
    (hcoherent : (d.appendDerived ids v).Coherent) : (d.appendDerived ids v).WellFormed := by
  have hversions : (d.appendDerived ids v).versions = d.versions ++ [v.derive ids] := rfl
  have hcopied : (v.copiedRecords ids).map (·.id) |>.Nodup :=
    nodup_copiedRecords (hids.fresh (Nat.lt_succ_self _))
  have hnew : ∀ id ∈ (v.copiedRecords ids).map (·.id), id ∉ d.recordIds := by
    intro id hid
    obtain ⟨r, hr, rfl⟩ := List.mem_map.mp hid
    obtain ⟨i, hi, hri⟩ := mem_copiedRecords hr
    rw [hri]
    exact hids.records (i + 1) (by omega)
  have hrecordIds : (d.appendDerived ids v).recordIds =
      d.recordIds ++ (v.copiedRecords ids).map (·.id) := by
    simp [recordIds, records, hversions, Version.derive]
  have hcopies : ((v.fileMetadata.map (·.id)).zip ((v.derive ids).fileMetadata.map (·.id))).map
      (·.2) = (v.copiedRecords ids).map (·.id) := map_snd_copiesOf ids v
  have hcategories : ∀ c ∈ (d.appendDerived ids v).categories, c.members.Nodup ∧
      ∀ id ∈ c.members, id ∈ (d.appendDerived ids v).recordIds := by
    intro c hc
    obtain ⟨b, hb, rfl⟩ := List.mem_map.mp hc
    constructor
    · apply nodup_extendCategory (h.membersOnce b hb)
      · rw [hcopies]
        exact hcopied
      · intro id hid hmem
        rw [hcopies] at hid
        exact hnew id hid (h.membersKnown b hb id hmem)
    · intro id hid
      rw [hrecordIds, List.mem_append]
      rcases mem_extendCategory hid with hid | hid
      · exact Or.inl (h.membersKnown b hb id hid)
      · rw [hcopies] at hid
        exact Or.inr hid
  constructor
  · exact hcoherent
  · rw [hversions, List.dropLast_concat]
    exact h.published hdraft
  · rw [hversions, List.map_append, List.map_singleton]
    have hnew : (v.derive ids).id ∉ d.versions.map (·.id) := hids.versions 0 (by omega)
    exact h.uniqueVersions.append (List.nodup_singleton _) (List.disjoint_singleton.mpr hnew)
  · exact h.uniqueFiles
  · rw [hrecordIds]
    apply List.Nodup.append h.uniqueRecords hcopied
    intro id hid hid'
    exact hnew id hid' hid
  · intro u hu
    rw [hversions] at hu
    rcases List.mem_append.mp hu with hu | hu
    · exact h.oneRecordPerFile u hu
    · rw [List.mem_singleton.mp hu]
      show ((v.copiedRecords ids).map (·.dataFile)).Nodup
      rw [dataFile_copiedRecords]
      exact h.oneRecordPerFile v (List.mem_of_getLast? hv)
  · have hnames : (d.appendDerived ids v).categories.map (·.name) = d.categories.map (·.name) := by
      simp [Dataset.appendDerived, extendCategory, Function.comp_def]
    rw [hnames]
    exact h.uniqueCategories
  · intro c hc
    exact (hcategories c hc).1
  · intro c hc
    exact (hcategories c hc).2
  · exact h.thumbnailOwned

theorem WellFormed.openDraft (h : d.WellFormed) {ids : Supply Uuid}
    (hids : d.FreshFor ids d.openingCost) : (d.openDraft ids).1.WellFormed := by
  have hcoherent := (revision_openDraft h.toCoherent ids).coherent
  unfold openingCost at hids
  unfold Dataset.openDraft at hcoherent ⊢
  cases hdraft : d.draft?.isSome with
  | true => simpa [hdraft] using h
  | false =>
    cases hlatest : d.latest? with
    | some v =>
      simp only [hdraft, hlatest, Bool.false_eq_true, if_false] at hcoherent hids ⊢
      exact h.appendDerived hlatest hdraft hids hcoherent
    | none =>
      simp only [hdraft, hlatest, Bool.false_eq_true, if_false] at hcoherent hids ⊢
      have hnone : d.versions = [] := List.getLast?_eq_none_iff.mp hlatest
      have hempty : d.recordIds = [] := by simp [recordIds, records, hnone]
      constructor
      · exact hcoherent
      · simp
      · simp
      · exact h.uniqueFiles
      · simp [recordIds, records, Version.draft]
      · simp [Version.draft]
      · exact h.uniqueCategories
      · exact h.membersOnce
      · intro c hc id hid
        have hknown := h.membersKnown c hc id hid
        simp [hempty] at hknown
      · exact h.thumbnailOwned

/-- What the versions refer to after a draft was opened, they referred to before. -/
private theorem references_openDraft {ids : Supply Uuid} {v : Version} {r : FileMetadata}
    (hv : v ∈ (d.openDraft ids).1.versions) (hr : r ∈ v.fileMetadata) :
    ∃ u ∈ d.versions, ∃ q ∈ u.fileMetadata, q.dataFile = r.dataFile := by
  unfold openDraft at hv
  split at hv
  · exact ⟨v, hv, r, hr, rfl⟩
  · split at hv
    · next u hu =>
      rcases List.mem_append.mp hv with hv | hv
      · exact ⟨v, hv, r, hr, rfl⟩
      · rw [List.mem_singleton.mp hv] at hr
        obtain ⟨q, hq, hqr⟩ := references_derive hr
        exact ⟨u, List.mem_of_getLast? hu, q, hq, hqr⟩
    · rw [List.mem_singleton.mp hv] at hr
      cases hr

private theorem recordIds_openDraft {ids : Supply Uuid} {id : FileMetadataId}
    (h : id ∈ (d.openDraft ids).1.recordIds) :
    id ∈ d.recordIds ∨ ∃ i < d.openingCost, id = ⟨ids.ahead i⟩ := by
  unfold openDraft openingCost at *
  cases hdraft : d.draft?.isSome with
  | true =>
    simp only [hdraft, if_true] at h
    exact Or.inl h
  | false =>
    cases hlatest : d.latest? with
    | some v =>
      simp only [hdraft, hlatest, Bool.false_eq_true, if_false] at h ⊢
      obtain ⟨u, hu, r, hr, rfl⟩ := mem_recordIds.mp h
      rcases List.mem_append.mp hu with hu | hu
      · exact Or.inl (mem_recordIds.mpr ⟨u, hu, r, hr, rfl⟩)
      · rw [List.mem_singleton.mp hu] at hr
        obtain ⟨i, hi, hri⟩ := mem_copiedRecords hr
        exact Or.inr ⟨i + 1, by omega, hri⟩
    | none =>
      simp [hdraft, hlatest, recordIds, records, Version.draft] at h

/-! ### Editing and adding -/

theorem WellFormed.mapLatest (h : d.WellFormed) (hdraft : d.HasDraft) {change : Version → Version}
    (hchange : ∀ v, (change v).outline = v.outline) : (d.mapLatest change).WellFormed := by
  have hsame (v : Version) : (change v).id = v.id ∧ (change v).isDraft = v.isDraft ∧
      (change v).fileMetadata.map (·.id) = v.fileMetadata.map (·.id) ∧
      (change v).fileMetadata.map (·.dataFile) = v.fileMetadata.map (·.dataFile) := by
    obtain ⟨hid, hstate, hrecords⟩ : (change v).id = v.id ∧ (change v).isDraft = v.isDraft ∧
        (change v).fileMetadata.map (fun r => (r.id, r.dataFile)) =
          v.fileMetadata.map fun r => (r.id, r.dataFile) := by
      simpa [Version.outline] using hchange v
    have hids := congrArg (List.map Prod.fst) hrecords
    have hfiles := congrArg (List.map Prod.snd) hrecords
    simp only [List.map_map, Function.comp_def] at hids hfiles
    exact ⟨hid, hstate, hids, hfiles⟩
  have hcoherent : (d.mapLatest change).Coherent := by
    have hrevision : Revision d (d.mapLatest change) := by
      apply h.toCoherent.mapLatest hdraft
      intro v hv
      obtain ⟨-, hstate, -, hfiles⟩ := hsame v
      constructor
      · rw [hstate]
        exact (draft?_eq_some hv).1
      · intro r hr
        have hmem : r.dataFile ∈ v.fileMetadata.map (·.dataFile) := by
          rw [← hfiles]
          exact List.mem_map_of_mem hr
        exact Or.inl (List.mem_map.mp hmem)
    exact hrevision.coherent
  obtain ⟨older, v, hversions, hv⟩ := hdraft
  obtain ⟨hid, -, hrecords, hfiles⟩ := hsame v
  exact h.retouch hversions (versions_mapLatest hversions change) hcoherent hid hrecords hfiles
    rfl rfl rfl

/-- A record about an owned file that the draft has none about. -/
private theorem WellFormed.appendRecord (h : d.WellFormed) {r : FileMetadata} {older : List Version}
    {v : Version} (hversions : d.versions = older ++ [v])
    (hnew : r.id ∉ d.recordIds) (hfile : r.dataFile ∉ v.fileMetadata.map (·.dataFile))
    (hcoherent : (d.mapLatest fun v =>
      { v with fileMetadata := v.fileMetadata ++ [r] }).Coherent) :
    (d.mapLatest fun v => { v with fileMetadata := v.fileMetadata ++ [r] }).WellFormed := by
  let append (v : Version) : Version := { v with fileMetadata := v.fileMetadata ++ [r] }
  have happended : (d.mapLatest append).versions = older ++ [append v] :=
    versions_mapLatest hversions append
  have hrecordIds : (d.mapLatest append).recordIds = d.recordIds ++ [r.id] := by
    rw [recordIds_of_versions happended, recordIds_of_versions hversions]
    simp [append]
  have hv : v ∈ d.versions := by simp [hversions]
  apply h.exchange hversions happended hcoherent rfl
  · rw [hrecordIds]
    exact h.uniqueRecords.append (List.nodup_singleton _) (List.disjoint_singleton.mpr hnew)
  · show ((v.fileMetadata ++ [r]).map (·.dataFile)).Nodup
    rw [List.map_append, List.map_singleton]
    have hone := h.oneRecordPerFile v hv
    exact hone.append (List.nodup_singleton _) (List.disjoint_singleton.mpr hfile)
  · rfl
  · rfl
  · rfl
  · intro c hc
    refine ⟨h.membersOnce c hc, ?_⟩
    intro id hid
    rw [hrecordIds]
    exact List.mem_append_left _ (h.membersKnown c hc id hid)

private theorem WellFormed.appendFile (h : d.WellFormed) {file : DataFile}
    (hfile : ¬ d.Owns file.id) :
    WellFormed { d with files := d.files ++ [file] } := by
  have hcoherent := h.toCoherent.append [file]
  refine ⟨hcoherent, h.onlyLastDraft, h.uniqueVersions, ?_, h.uniqueRecords, h.oneRecordPerFile,
    h.uniqueCategories, h.membersOnce, h.membersKnown, ?_⟩
  · show ((d.files ++ [file]).map (·.id)).Nodup
    rw [List.map_append, List.map_singleton]
    rw [owns_iff_mem] at hfile
    exact h.uniqueFiles.append (List.nodup_singleton _) (List.disjoint_singleton.mpr hfile)
  · intro x hx
    obtain ⟨f, hf, hfx⟩ := h.thumbnailOwned x hx
    exact ⟨f, List.mem_append_left _ hf, hfx⟩

theorem WellFormed.addFile (h : d.WellFormed) {ids : Supply Uuid} {file : DataFile} (label : String)
    (hids : d.FreshFor ids (d.openingCost + 1)) (hfile : ¬ d.Owns file.id) :
    (d.addFile ids file label).2.1.WellFormed := by
  have hcoherent := (revision_addFile h.toCoherent ids file label).coherent
  have hdropped := hids.drop
  have hopened : (({ d with files := d.files ++ [file] } : Dataset).openDraft
      (ids.drop 1)).1.WellFormed :=
    (h.appendFile hfile).openDraft ⟨hdropped.apart, hdropped.versions, hdropped.records⟩
  obtain ⟨older, v, hversions, -⟩ :=
    hasDraft_openDraft ({ d with files := d.files ++ [file] } : Dataset) (ids.drop 1)
  apply hopened.appendRecord hversions
  · intro hmem
    rcases recordIds_openDraft hmem with hmem | ⟨i, hi, hsame⟩
    · exact hids.records 0 (by omega) hmem
    · -- The record got its identity before the draft and the copies got theirs.
      change i < d.openingCost at hi
      have hahead : ids.ahead 0 = ids.ahead (1 + i) := by
        rw [← Supply.ahead_drop]
        exact congrArg EntityId.uuid hsame
      have := hids.apart 0 (by omega) (1 + i) (by omega) hahead
      omega
  · intro hmem
    obtain ⟨r, hr, hrfile⟩ := List.mem_map.mp hmem
    have hv : v ∈ (({ d with files := d.files ++ [file] } : Dataset).openDraft
        (ids.drop 1)).1.versions := by simp [hversions]
    obtain ⟨u, hu, q, hq, hqr⟩ := references_openDraft hv hr
    have howns := h.owned u hu q hq
    rw [hqr, hrfile] at howns
    exact hfile howns
  · exact hcoherent

/-! ### Categories -/

private theorem mem_mapFirst {α : Type} {cond : α → Bool} {change : α → α} {l : List α} {b : α}
    (h : b ∈ mapFirst cond change l) : b ∈ l ∨ ∃ a ∈ l, b = change a := by
  induction l with
  | nil => simp [mapFirst] at h
  | cons a rest ih =>
    unfold mapFirst at h
    split at h
    · rcases List.mem_cons.mp h with rfl | h
      · exact Or.inr ⟨a, List.mem_cons_self, rfl⟩
      · exact Or.inl (List.mem_cons_of_mem _ h)
    · rcases List.mem_cons.mp h with rfl | h
      · exact Or.inl List.mem_cons_self
      · rcases ih h with h | ⟨c, hc, rfl⟩
        · exact Or.inl (List.mem_cons_of_mem _ h)
        · exact Or.inr ⟨c, List.mem_cons_of_mem _ hc, rfl⟩

private theorem WellFormed.recategorize (h : d.WellFormed) {categories : List Category}
    (hnames : (categories.map (·.name)).Nodup)
    (hmembers : ∀ c ∈ categories, c.members.Nodup ∧ ∀ id ∈ c.members, id ∈ d.recordIds) :
    WellFormed { d with categories } where
  toCoherent := ⟨h.owned, h.released⟩
  onlyLastDraft := h.onlyLastDraft
  uniqueVersions := h.uniqueVersions
  uniqueFiles := h.uniqueFiles
  uniqueRecords := h.uniqueRecords
  oneRecordPerFile := h.oneRecordPerFile
  uniqueCategories := hnames
  membersOnce c hc := (hmembers c hc).1
  membersKnown c hc := (hmembers c hc).2
  thumbnailOwned := h.thumbnailOwned

theorem WellFormed.addToCategory (h : d.WellFormed) {id : FileMetadataId} (name : String)
    (hid : id ∈ d.recordIds) : (d.addToCategory id name).WellFormed := by
  have hold (c : Category) (hc : c ∈ d.categories) :
      c.members.Nodup ∧ ∀ i ∈ c.members, i ∈ d.recordIds :=
    ⟨h.membersOnce c hc, h.membersKnown c hc⟩
  unfold Dataset.addToCategory
  dsimp only
  split
  · apply h.recategorize
    · rw [map_mapFirst]
      · exact h.uniqueCategories
      · intro c
        split <;> rfl
    · intro c hc
      rcases mem_mapFirst hc with hc | ⟨b, hb, rfl⟩
      · exact hold c hc
      · split
        · exact hold b hb
        · next hnew =>
          constructor
          · rw [List.contains_iff_mem] at hnew
            exact (h.membersOnce b hb).append (List.nodup_singleton _)
              (List.disjoint_singleton.mpr hnew)
          · intro i hi
            rcases List.mem_append.mp hi with hi | hi
            · exact h.membersKnown b hb i hi
            · rw [List.mem_singleton.mp hi]
              exact hid
  · next hnone =>
    apply h.recategorize
    · rw [List.map_append, List.map_singleton]
      have hnew : name ∉ d.categories.map (·.name) := by
        intro hn
        obtain ⟨c, hc, hcname⟩ := List.mem_map.mp hn
        apply hnone
        rw [List.any_eq_true]
        exact ⟨c, hc, beq_iff_eq.mpr hcname⟩
      exact h.uniqueCategories.append (List.nodup_singleton _) (List.disjoint_singleton.mpr hnew)
    · intro c hc
      rcases List.mem_append.mp hc with hc | hc
      · exact hold c hc
      · rw [List.mem_singleton.mp hc]
        simpa using hid

/-! ### Removing -/

/-- What stays in a category when records are taken out of it. -/
private theorem mem_members_unlink {gone : List FileMetadataId} {c : Category}
    (h : c ∈ (d.unlink gone).categories) :
    ∃ b ∈ d.categories, c.members.Sublist b.members ∧
      ∀ id ∈ c.members, id ∈ b.members ∧ id ∉ gone := by
  obtain ⟨b, hb, rfl⟩ := List.mem_map.mp h
  refine ⟨b, hb, List.filter_sublist, ?_⟩
  intro id hid
  simpa using hid

private theorem names_unlink (d : Dataset) (gone : List FileMetadataId) :
    (d.unlink gone).categories.map (·.name) = d.categories.map (·.name) := by
  simp [unlink, Function.comp_def]

theorem WellFormed.removeDraftRecord (h : d.WellFormed) (id : FileMetadataId) :
    (d.removeDraftRecord id).2.WellFormed := by
  have hcoherent := (revision_removeDraftRecord h.toCoherent id).coherent
  unfold Dataset.removeDraftRecord at hcoherent ⊢
  cases hfound : d.draftRecord? id with
  | none => exact h
  | some record =>
    simp only [hfound] at hcoherent ⊢
    obtain ⟨v, hdraft, hrecord⟩ := Option.bind_eq_some_iff.mp hfound
    obtain ⟨-, older, hversions⟩ := draft?_eq_some hdraft
    obtain rfl : record.id = id := by simpa using List.find?_some hrecord
    let remove (v : Version) : Version :=
      { v with fileMetadata := v.fileMetadata.eraseP fun r => r.id == record.id }
    have hremoved : ((d.mapLatest remove).unlink [record.id]).versions = older ++ [remove v] :=
      versions_mapLatest hversions remove
    have hsub : (remove v).fileMetadata.Sublist v.fileMetadata := List.eraseP_sublist
    have hv : v ∈ d.versions := by simp [hversions]
    apply h.exchange hversions hremoved hcoherent rfl
    · have hids : ((d.mapLatest remove).unlink [record.id]).recordIds.Sublist d.recordIds := by
        rw [recordIds_of_versions hremoved, recordIds_of_versions hversions]
        exact (List.Sublist.refl _).append (hsub.map _)
      exact h.uniqueRecords.sublist hids
    · exact (h.oneRecordPerFile v hv).sublist (hsub.map _)
    · rfl
    · rfl
    · exact names_unlink (d.mapLatest remove) [record.id]
    · intro c hc
      obtain ⟨b, hb, hcb, hkept⟩ := mem_members_unlink hc
      refine ⟨(h.membersOnce b hb).sublist hcb, ?_⟩
      intro i hi
      obtain ⟨hib, hine⟩ := hkept i hi
      have hne : i ≠ record.id := by simpa using hine
      have hknown := h.membersKnown b hb i hib
      rw [recordIds_of_versions hversions] at hknown
      rw [recordIds_of_versions hremoved]
      rcases List.mem_append.mp hknown with hold | hlast
      · exact List.mem_append_left _ hold
      · obtain ⟨r, hr, rfl⟩ := List.mem_map.mp hlast
        apply List.mem_append_right
        apply List.mem_map_of_mem
        exact (List.mem_eraseP_of_neg (by simpa using hne)).mpr hr

theorem WellFormed.removeFile (h : d.WellFormed) (x : DataFileId) :
    (d.removeFile x).2.WellFormed := by
  have hcoherent := h.toCoherent.removeFile x
  unfold Dataset.removeFile at hcoherent ⊢
  cases hfound : d.file? x with
  | none => exact h
  | some file =>
    simp only [hfound] at hcoherent ⊢
    let strip (v : Version) : Version :=
      { v with fileMetadata := v.fileMetadata.filter fun r => r.dataFile != x }
    have hrecords : (d.versions.map strip).flatMap (·.fileMetadata) =
        d.records.filter fun r => r.dataFile != x := by
      simp only [records, strip, List.flatMap_map, List.filter_flatMap]
    constructor
    · exact hcoherent
    · intro v hv
      change v ∈ (d.versions.map strip).dropLast at hv
      rw [← List.map_dropLast] at hv
      obtain ⟨u, hu, rfl⟩ := List.mem_map.mp hv
      exact h.onlyLastDraft u hu
    · show ((d.versions.map strip).map (·.id)).Nodup
      rw [List.map_map]
      exact h.uniqueVersions
    · exact h.uniqueFiles.sublist (List.eraseP_sublist.map _)
    · show (((d.versions.map strip).flatMap (·.fileMetadata)).map (·.id)).Nodup
      rw [hrecords]
      exact h.uniqueRecords.sublist (List.filter_sublist.map _)
    · intro v hv
      obtain ⟨u, hu, rfl⟩ := List.mem_map.mp hv
      exact (h.oneRecordPerFile u hu).sublist (List.filter_sublist.map _)
    · show ((d.unlink ((d.recordsOf x).map (·.id))).categories.map (·.name)).Nodup
      rw [names_unlink]
      exact h.uniqueCategories
    · intro c hc
      obtain ⟨b, hb, hcb, -⟩ := mem_members_unlink (d := d) hc
      exact (h.membersOnce b hb).sublist hcb
    · intro c hc i hi
      obtain ⟨b, hb, -, hkept⟩ := mem_members_unlink (d := d) hc
      obtain ⟨hib, horphan⟩ := hkept i hi
      show i ∈ ((d.versions.map strip).flatMap (·.fileMetadata)).map (·.id)
      rw [hrecords]
      obtain ⟨v, hv, r, hr, rfl⟩ := mem_recordIds.mp (h.membersKnown b hb i hib)
      apply List.mem_map_of_mem
      rw [List.mem_filter]
      refine ⟨List.mem_flatMap.mpr ⟨v, hv, hr⟩, ?_⟩
      rw [bne_iff_ne]
      intro hx
      apply horphan
      apply List.mem_map_of_mem
      exact List.mem_flatMap.mpr ⟨v, hv, List.mem_filter.mpr ⟨hr, beq_iff_eq.mpr hx⟩⟩
    · intro y hy
      change (if d.thumbnailFile = some x then none else d.thumbnailFile) = some y at hy
      split at hy
      · cases hy
      · next hthumbnail =>
        obtain ⟨f, hf, rfl⟩ := h.thumbnailOwned y hy
        have hne : f.id ≠ x := by
          rintro rfl
          exact hthumbnail hy
        exact ⟨f, (List.mem_eraseP_of_neg (by simpa using hne)).mpr hf, rfl⟩

/-! ### Thumbnails and releases -/

private theorem WellFormed.rethumb (h : d.WellFormed) {thumbnailFile : Option DataFileId}
    (howned : ∀ x, thumbnailFile = some x → d.Owns x) : WellFormed { d with thumbnailFile } :=
  ⟨⟨h.owned, h.released⟩, h.onlyLastDraft, h.uniqueVersions, h.uniqueFiles, h.uniqueRecords,
    h.oneRecordPerFile, h.uniqueCategories, h.membersOnce, h.membersKnown, howned⟩

theorem WellFormed.setThumbnail (h : d.WellFormed) (x : DataFileId) :
    (d.setThumbnail x).2.WellFormed := by
  unfold Dataset.setThumbnail
  split
  · next hfile =>
    apply h.rethumb
    rintro y ⟨⟩
    exact owns_iff_file?_isSome.mpr hfile
  · exact h

theorem WellFormed.releaseDraft (h : d.WellFormed) (time : Time.Instant) (minor : Bool) :
    (d.releaseDraft time minor).2.WellFormed := by
  have hcoherent := (revision_releaseDraft h.toCoherent time minor).coherent
  cases hdraft : d.draft? with
  | none =>
    rw [releaseDraft_of_none hdraft]
    exact h
  | some v =>
    obtain ⟨hv, older, hversions⟩ := draft?_eq_some hdraft
    rw [releaseDraft_of_draft hv hversions] at hcoherent ⊢
    apply h.retouch hversions rfl hcoherent
    · rfl
    · rfl
    · rfl
    · rw [List.map_map]
      apply List.map_congr_left
      intro f _
      exact publishIn_id _ time f
    · rfl
    · rfl

/-! ### Any number of operations -/

theorem WellFormed.change (h : d.WellFormed) (hchange : Change d e) : e.WellFormed := by
  cases hchange with
  | edit hids hsame => exact (h.openDraft hids).mapLatest (hasDraft_openDraft _ _) hsame
  | addFile label hids hfile => exact h.addFile label hids hfile
  | addToCategory name hid => exact h.addToCategory name hid
  | removeDraftRecord id => exact h.removeDraftRecord id
  | removeFile x => exact h.removeFile x
  | setThumbnail x => exact h.setThumbnail x
  | removeThumbnail => exact h.rethumb (by simp)
  | release time minor => exact h.releaseDraft time minor

private theorem wellFormed_build {parts : DatasetParts} {ids : Supply Uuid} {now : Time.Instant}
    (h : parts.build? ids now = some d) : d.WellFormed := by
  obtain ⟨owner, -, rfl⟩ := Option.map_eq_some_iff.mp h
  constructor <;> simp [Version.draft, recordIds, records]
  constructor <;> simp

/-- A dataset is well-formed that was built and then changed by any number of operations. -/
theorem wellFormed_of_changes {parts : DatasetParts} {ids : Supply Uuid} {now : Time.Instant}
    (hbuild : parts.build? ids now = some d) (hchanges : Relation.ReflTransGen Change d e) :
    e.WellFormed := by
  induction hchanges with
  | refl => exact wellFormed_build hbuild
  | tail _ hchange ih => exact ih.change hchange

/-! ### A file that is published, edited and removed -/

open Repository (emptyWorld titledParts titledDraft)

def charted : Dataset :=
  (titledDraft.addFile (emptyWorld.ids.drop 1) (DataFile.new ⟨⟨3⟩⟩ "text/csv" 9 "b021")
    "gauge.csv").2.1

def chartedRelease : Dataset := ((charted.addToCategory ⟨⟨1⟩⟩ "Gauges").releaseDraft .epoch false).2

/-- The dataset with a new draft, where the record of the file has a copy. -/
def chartedAgain : Dataset :=
  (chartedRelease.openDraft (emptyWorld.ids.drop 20)).1.mapLatest fun v =>
    { v with fields := [⟨"title", ["Waves"]⟩] }

theorem wellFormed_charted_again :
    titledParts.build? emptyWorld.ids .epoch = some titledDraft ∧
      Relation.ReflTransGen Change titledDraft (chartedAgain.removeFile ⟨⟨3⟩⟩).2 ∧
      chartedAgain.categories = [⟨"Gauges", [⟨⟨1⟩⟩, ⟨⟨21⟩⟩]⟩] ∧
      (chartedAgain.removeFile ⟨⟨3⟩⟩).2.WellFormed := by
  have hbuild : titledParts.build? emptyWorld.ids .epoch = some titledDraft := rfl
  have hadd : Change titledDraft charted :=
    .addFile _ ⟨by decide +kernel, by decide +kernel, by decide +kernel⟩ (by simp [Owns]; decide)
  have hsort : Change charted (charted.addToCategory ⟨⟨1⟩⟩ "Gauges") :=
    .addToCategory _ (by decide +kernel)
  have hrelease : Change (charted.addToCategory ⟨⟨1⟩⟩ "Gauges") chartedRelease := .release _ _ _
  have hedit : Change chartedRelease chartedAgain :=
    .edit ⟨by decide +kernel, by decide +kernel, by decide +kernel⟩ fun _ => rfl
  have hremove : Change chartedAgain (chartedAgain.removeFile ⟨⟨3⟩⟩).2 := .removeFile _ _
  have hchanges : Relation.ReflTransGen Change titledDraft (chartedAgain.removeFile ⟨⟨3⟩⟩).2 :=
    ((((Relation.ReflTransGen.single hadd).tail hsort).tail hrelease).tail hedit).tail hremove
  exact ⟨hbuild, hchanges, by decide +kernel, wellFormed_of_changes hbuild hchanges⟩

end Dataset

end Depository
