import Depository.Proofs.Dataset.Files

/-!
# Revisions of a dataset

A dataset is coherent when its versions refer to files that it owns, those that are published to
released files. A revision keeps the published versions in their places and the released files
with their content, and is coherent again. What a workflow does to a dataset is a revision, step
by step.
-/

namespace Depository

namespace Dataset

/-- Every reference finds a file, and that of a published version a released one. -/
structure Coherent (d : Dataset) : Prop where
  owned : ∀ v ∈ d.versions, ∀ r ∈ v.fileMetadata, d.Owns r.dataFile
  released : ∀ v ∈ d.versions, v.isDraft = false → ∀ r ∈ v.fileMetadata,
    ∃ f, d.file? r.dataFile = some f ∧ f.isReleased = true

/-- Published versions stay in their places and released files with their content. -/
structure Kept (d e : Dataset) : Prop where
  id_eq : e.id = d.id
  version : ∀ (i : Nat) (v : Version), d.versions[i]? = some v → v.isDraft = false →
    e.versions[i]? = some v
  file : ∀ x (f : DataFile), d.file? x = some f → f.isReleased = true →
    ∃ g, e.file? x = some g ∧ g.content = f.content

theorem Kept.refl (d : Dataset) : Kept d d :=
  ⟨rfl, fun _ _ hv _ => hv, fun _ f hf _ => ⟨f, hf, rfl⟩⟩

theorem Kept.trans {c d e : Dataset} (h : Kept c d) (k : Kept d e) : Kept c e where
  id_eq := k.id_eq.trans h.id_eq
  version i v hv hpub := k.version i v (h.version i v hv hpub) hpub
  file x f hf hrel := by
    obtain ⟨g, hg, hgf⟩ := h.file x f hf hrel
    obtain ⟨g', hg', hgg⟩ := k.file x g hg (by rw [DataFile.isReleased_of_content hgf, hrel])
    exact ⟨g', hg', hgg.trans hgf⟩

/-- What replaces a coherent dataset: it keeps what is published, is coherent, and owns no file
that was not there. -/
structure Revision (d e : Dataset) : Prop where
  kept : Kept d e
  coherent : e.Coherent
  owned : ∀ x, e.Owns x → d.Owns x

theorem Revision.refl {d : Dataset} (h : d.Coherent) : Revision d d :=
  ⟨.refl d, h, fun _ hx => hx⟩

theorem Revision.trans {c d e : Dataset} (h : Revision c d) (k : Revision d e) : Revision c e :=
  ⟨h.kept.trans k.kept, k.coherent, fun x hx => h.owned x (k.owned x hx)⟩

/-! ### The versions -/

theorem mapLast_append {α : Type} (change : α → α) (l : List α) (a : α) :
    mapLast change (l ++ [a]) = l ++ [change a] := by
  induction l with
  | nil => rfl
  | cons b rest ih =>
    cases rest with
    | nil => rfl
    | cons c rest =>
      show b :: mapLast change ((c :: rest) ++ [a]) = b :: ((c :: rest) ++ [change a])
      rw [ih]

/-- The draft is the last version. -/
theorem draft?_eq_some {d : Dataset} {v : Version} (h : d.draft? = some v) :
    v.isDraft = true ∧ ∃ older, d.versions = older ++ [v] := by
  obtain ⟨hlast, hdraft⟩ := Option.filter_eq_some_iff.mp h
  exact ⟨hdraft, List.getLast?_eq_some_iff.mp hlast⟩

theorem draft?_of_versions {d : Dataset} {older : List Version} {v : Version}
    (h : d.versions = older ++ [v]) : d.draft? = if v.isDraft then some v else none := by
  unfold draft? latest?
  rw [h, List.getLast?_concat]
  rfl

theorem versions_mapLatest {d : Dataset} {older : List Version} {v : Version}
    (h : d.versions = older ++ [v]) (change : Version → Version) :
    (d.mapLatest change).versions = older ++ [change v] := by
  show mapLast change d.versions = _
  rw [h, mapLast_append]

/-- The last version is a draft. -/
def HasDraft (d : Dataset) : Prop := ∃ older v, d.versions = older ++ [v] ∧ v.isDraft = true

theorem hasDraft_of_draft? {d : Dataset} (h : d.draft?.isSome = true) : d.HasDraft := by
  obtain ⟨v, hv⟩ := Option.isSome_iff_exists.mp h
  obtain ⟨hdraft, older, hversions⟩ := draft?_eq_some hv
  exact ⟨older, v, hversions, hdraft⟩

theorem HasDraft.draft? {d : Dataset} (h : d.HasDraft) : d.draft?.isSome = true := by
  obtain ⟨older, v, hversions, hdraft⟩ := h
  rw [draft?_of_versions hversions, hdraft]
  rfl

theorem HasDraft.mapLatest {d : Dataset} (h : d.HasDraft) {change : Version → Version}
    (hchange : ∀ v, d.draft? = some v → (change v).isDraft = true) :
    (d.mapLatest change).HasDraft := by
  obtain ⟨older, v, hversions, hdraft⟩ := h
  have hv : d.draft? = some v := by rw [draft?_of_versions hversions, if_pos hdraft]
  exact ⟨older, change v, versions_mapLatest hversions change, hchange v hv⟩

theorem HasDraft.mapDraft {d : Dataset} (h : d.HasDraft) {change : Version → Version}
    (hchange : ∀ v, (change v).isDraft = v.isDraft) : (d.mapDraft change).HasDraft := by
  unfold Dataset.mapDraft
  rw [if_pos h.draft?]
  exact h.mapLatest fun v hv => (hchange v).trans (draft?_eq_some hv).1

theorem HasDraft.of_map {d e : Dataset} (h : d.HasDraft) {change : Version → Version}
    (he : e.versions = d.versions.map change) (hchange : ∀ v, (change v).isDraft = v.isDraft) :
    e.HasDraft := by
  obtain ⟨older, v, hversions, hdraft⟩ := h
  refine ⟨older.map change, change v, ?_, (hchange v).trans hdraft⟩
  rw [he, hversions, List.map_append, List.map_singleton]

/-! ### Rewriting the draft -/

/-- Published versions keep their places when drafts at the end are replaced. -/
private theorem version_of_append {d e : Dataset} {older drafts rest : List Version}
    (hd : d.versions = older ++ drafts) (hdrafts : ∀ v ∈ drafts, v.isDraft = true)
    (he : e.versions = older ++ rest) {i : Nat} {v : Version} (hv : d.versions[i]? = some v)
    (hpub : v.isDraft = false) : e.versions[i]? = some v := by
  rw [hd] at hv
  rcases Nat.lt_or_ge i older.length with hi | hi
  · rw [List.getElem?_append_left hi] at hv
    rw [he, List.getElem?_append_left hi, hv]
  · rw [List.getElem?_append_right hi] at hv
    rw [hdrafts v (List.mem_of_getElem? hv)] at hpub
    cases hpub

/-- Replacing drafts at the end by drafts that refer to owned files, with files that differ in
stamps only. -/
private theorem Coherent.rewrite {d e : Dataset} (h : d.Coherent) {older drafts rest : List Version}
    (hd : d.versions = older ++ drafts) (hdrafts : ∀ v ∈ drafts, v.isDraft = true)
    (he : e.versions = older ++ rest) (hid : e.id = d.id) (hfiles : SameFiles d e)
    (hrest : ∀ v ∈ rest, v.isDraft = true ∧ ∀ r ∈ v.fileMetadata, d.Owns r.dataFile) :
    Revision d e := by
  have hkept : Kept d e :=
    ⟨hid, fun _ _ => version_of_append hd hdrafts he, fun _ _ hf _ => hfiles.file? hf⟩
  refine ⟨hkept, ⟨fun v hv r hr => ?_, fun v hv hpub r hr => ?_⟩, fun x => (hfiles.owns_iff x).mp⟩
  · rw [hfiles.owns_iff]
    rw [he] at hv
    rcases List.mem_append.mp hv with hv | hv
    · exact h.owned v (hd ▸ List.mem_append_left _ hv) r hr
    · exact (hrest v hv).2 r hr
  · rw [he] at hv
    rcases List.mem_append.mp hv with hv | hv
    · obtain ⟨f, hf, hrel⟩ := h.released v (hd ▸ List.mem_append_left _ hv) hpub r hr
      obtain ⟨g, hg, hgf⟩ := hfiles.file? hf
      exact ⟨g, hg, (DataFile.isReleased_of_content hgf).trans hrel⟩
    · rw [(hrest v hv).1] at hpub
      cases hpub

/-- Leaving the versions as they are. -/
theorem Coherent.keep {d e : Dataset} (h : d.Coherent) (hversions : e.versions = d.versions)
    (hid : e.id = d.id) (hfiles : SameFiles d e) : Revision d e :=
  h.rewrite (List.append_nil _).symm (by simp) (hversions.trans (List.append_nil _).symm) hid
    hfiles (by simp)

theorem Coherent.identify {d e : Dataset} (h : d.Coherent)
    (he : e.unidentified = d.unidentified) : Revision d e := by
  have hversions := congrArg Dataset.versions he
  have hid := congrArg Dataset.id he
  exact h.keep hversions hid (.of_unidentified he)

/-- Changing a draft without giving it references of its own. -/
theorem Coherent.mapLatest {d : Dataset} (h : d.Coherent) (hdraft : d.HasDraft)
    {change : Version → Version}
    (hchange : ∀ v, d.draft? = some v → (change v).isDraft = true ∧
      ∀ r ∈ (change v).fileMetadata,
        (∃ q ∈ v.fileMetadata, q.dataFile = r.dataFile) ∨ d.Owns r.dataFile) :
    Revision d (d.mapLatest change) := by
  obtain ⟨older, v, hversions, hv⟩ := hdraft
  have hv' : d.draft? = some v := by rw [draft?_of_versions hversions, if_pos hv]
  obtain ⟨hstate, hrefs⟩ := hchange v hv'
  refine h.rewrite hversions (by simpa using hv) (versions_mapLatest hversions change) rfl rfl ?_
  intro u hu
  rw [List.mem_singleton.mp hu]
  refine ⟨hstate, fun r hr => ?_⟩
  rcases hrefs r hr with ⟨q, hq, hqr⟩ | howns
  · rw [← hqr]
    exact h.owned v (by simp [hversions]) q hq
  · exact howns

theorem Coherent.mapDraft {d : Dataset} (h : d.Coherent) {change : Version → Version}
    (hstate : ∀ v, (change v).isDraft = v.isDraft)
    (hrefs : ∀ v, (change v).fileMetadata = v.fileMetadata) : Revision d (d.mapDraft change) := by
  unfold Dataset.mapDraft
  split
  · next hdraft =>
    refine h.mapLatest (hasDraft_of_draft? hdraft) fun v hv =>
      ⟨(hstate v).trans (draft?_eq_some hv).1, fun r hr => Or.inl ⟨r, ?_, rfl⟩⟩
    rwa [hrefs] at hr
  · exact .refl h

/-! ### The operations -/

theorem references_derive {ids : Supply Uuid} {v : Version} {r : FileMetadata}
    (h : r ∈ (v.derive ids).fileMetadata) : ∃ q ∈ v.fileMetadata, q.dataFile = r.dataFile := by
  obtain ⟨i, hi, rfl⟩ := List.mem_mapIdx.mp h
  exact ⟨v.fileMetadata[i], List.getElem_mem hi, rfl⟩

theorem revision_openDraft {d : Dataset} (h : d.Coherent) (ids : Supply Uuid) :
    Revision d (d.openDraft ids).1 := by
  unfold openDraft
  split
  · exact .refl h
  · split
    · next v hlatest =>
      refine h.rewrite (List.append_nil _).symm (by simp) rfl rfl rfl ?_
      intro u hu
      rw [List.mem_singleton.mp hu]
      refine ⟨rfl, fun r hr => ?_⟩
      obtain ⟨q, hq, hqr⟩ := references_derive hr
      rw [← hqr]
      exact h.owned v (List.mem_of_getLast? hlatest) q hq
    · next hlatest =>
      have hnone : d.versions = [] := List.getLast?_eq_none_iff.mp hlatest
      refine h.rewrite (hnone.trans (List.append_nil []).symm) (by simp) rfl rfl rfl ?_
      intro u hu
      rw [List.mem_singleton.mp hu]
      exact ⟨rfl, by simp [Version.draft]⟩

theorem hasDraft_openDraft (d : Dataset) (ids : Supply Uuid) : (d.openDraft ids).1.HasDraft := by
  unfold openDraft
  split
  · next h => exact hasDraft_of_draft? h
  · split
    · exact ⟨d.versions, _, rfl, rfl⟩
    · exact ⟨[], _, rfl, rfl⟩

theorem revision_removeDraftRecord {d : Dataset} (h : d.Coherent) (id : FileMetadataId) :
    Revision d (d.removeDraftRecord id).2 := by
  unfold removeDraftRecord
  split
  · exact .refl h
  · next record hrecord =>
    have hdraft : d.draft?.isSome = true := by
      unfold draftRecord? at hrecord
      cases hv : d.draft? with
      | none => simp [hv] at hrecord
      | some v => rfl
    have hmap : Revision d (d.mapLatest fun v =>
        { v with fileMetadata := v.fileMetadata.eraseP fun r => r.id == id }) :=
      h.mapLatest (hasDraft_of_draft? hdraft) fun v hv =>
        ⟨(draft?_eq_some hv).1, fun r hr => Or.inl ⟨r, List.mem_of_mem_eraseP hr, rfl⟩⟩
    exact hmap.trans (hmap.coherent.keep rfl rfl rfl)

/-! ### Removing a file -/

private theorem find?_eraseP_of_ne {x y : DataFileId} (h : y ≠ x) (l : List DataFile) :
    (l.eraseP fun f => f.id == x).find? (fun f => f.id == y) = l.find? fun f => f.id == y := by
  induction l with
  | nil => rfl
  | cons f rest ih =>
    by_cases hf : f.id = x
    · have hy : ¬ f.id = y := fun hfy => h (hfy.symm.trans hf)
      simp [hf, Ne.symm h]
    · simp only [List.eraseP_cons, List.find?_cons, beq_eq_false_iff_ne.mpr hf, cond_false, ih]

theorem file?_removeFile_of_ne {d : Dataset} {x y : DataFileId} (h : y ≠ x) :
    (d.removeFile x).2.file? y = d.file? y := by
  unfold removeFile
  split
  · rfl
  · exact find?_eraseP_of_ne h d.files

private theorem owns_of_owns_removeFile {d : Dataset} {x y : DataFileId}
    (h : (d.removeFile x).2.Owns y) : d.Owns y := by
  unfold removeFile at h
  split at h
  · exact h
  · obtain ⟨f, hf, hfy⟩ := h
    exact ⟨f, List.mem_of_mem_eraseP hf, hfy⟩

private theorem mem_versions_removeFile {d : Dataset} {x : DataFileId} {v : Version}
    (h : v ∈ (d.removeFile x).2.versions) :
    ∃ u ∈ d.versions, v.isDraft = u.isDraft ∧
      ∀ r ∈ v.fileMetadata, r ∈ u.fileMetadata ∧ ((d.file? x).isSome = true → r.dataFile ≠ x) := by
  unfold removeFile at h
  split at h
  · next hnone => exact ⟨v, h, rfl, fun r hr => ⟨hr, by simp [hnone]⟩⟩
  · obtain ⟨u, hu, rfl⟩ := List.mem_map.mp h
    refine ⟨u, hu, rfl, fun r hr => ?_⟩
    obtain ⟨hr, hrx⟩ := List.mem_filter.mp hr
    exact ⟨hr, fun _ => by simpa using hrx⟩

theorem Coherent.removeFile {d : Dataset} (h : d.Coherent) (x : DataFileId) :
    (d.removeFile x).2.Coherent := by
  constructor
  · intro v hv r hr
    obtain ⟨u, hu, -, hrefs⟩ := mem_versions_removeFile hv
    obtain ⟨hr, hne⟩ := hrefs r hr
    have howns := owns_iff_file?_isSome.mp (h.owned u hu r hr)
    rw [owns_iff_file?_isSome]
    by_cases hx : r.dataFile = x
    · exact absurd hx (hne (hx ▸ howns))
    · rwa [file?_removeFile_of_ne hx]
  · intro v hv hpub r hr
    obtain ⟨u, hu, hdraft, hrefs⟩ := mem_versions_removeFile hv
    obtain ⟨hr, hne⟩ := hrefs r hr
    obtain ⟨f, hf, hreleased⟩ := h.released u hu (hdraft ▸ hpub) r hr
    by_cases hx : r.dataFile = x
    · subst hx
      exact absurd rfl (hne (by simp [hf]))
    · exact ⟨f, by rwa [file?_removeFile_of_ne hx], hreleased⟩

/-- A file that is not released is referred to by drafts only. -/
theorem Coherent.ne_of_published {d : Dataset} (h : d.Coherent) {x : DataFileId}
    (hx : (d.file? x).any (·.isReleased) = false) {v : Version} (hv : v ∈ d.versions)
    (hpub : v.isDraft = false) {r : FileMetadata} (hr : r ∈ v.fileMetadata) : r.dataFile ≠ x := by
  intro hrx
  obtain ⟨f, hf, hrel⟩ := h.released v hv hpub r hr
  rw [← hrx, hf, Option.any_some, hrel] at hx
  cases hx

private theorem Coherent.version_removeFile {d : Dataset} (h : d.Coherent) {x : DataFileId}
    (hx : (d.file? x).any (·.isReleased) = false) {i : Nat} {v : Version}
    (hv : d.versions[i]? = some v) (hpub : v.isDraft = false) :
    (d.removeFile x).2.versions[i]? = some v := by
  have hstrip : v.fileMetadata.filter (fun r => r.dataFile != x) = v.fileMetadata := by
    rw [List.filter_eq_self]
    intro r hr
    simpa using h.ne_of_published hx (List.mem_of_getElem? hv) hpub hr
  unfold Dataset.removeFile
  split
  · exact hv
  · show (List.map _ d.versions)[i]? = some v
    rw [List.getElem?_map, hv, Option.map_some, hstrip]

theorem revision_removeFile {d : Dataset} (h : d.Coherent) {x : DataFileId}
    (hx : (d.file? x).any (·.isReleased) = false) : Revision d (d.removeFile x).2 := by
  -- The removed file is the first of its identity, so a released one is found under another.
  have hother {y : DataFileId} {f : DataFile} (hf : d.file? y = some f)
      (hrel : f.isReleased = true) : (d.removeFile x).2.file? y = some f := by
    have hy : y ≠ x := by
      rintro rfl
      rw [hf, Option.any_some, hrel] at hx
      cases hx
    rw [file?_removeFile_of_ne hy, hf]
  have hid : (d.removeFile x).2.id = d.id := by
    unfold removeFile
    split <;> rfl
  have hkept : Kept d (d.removeFile x).2 :=
    ⟨hid, fun i v => h.version_removeFile hx, fun y f hf hrel => ⟨f, hother hf hrel, rfl⟩⟩
  exact ⟨hkept, h.removeFile x, fun y => owns_of_owns_removeFile⟩

/-! ### Adding a file -/

private theorem file?_append {d : Dataset} {x : DataFileId} {f : DataFile} (h : d.file? x = some f)
    (added : List DataFile) : { d with files := d.files ++ added }.file? x = some f := by
  show (d.files ++ added).find? _ = _
  rw [List.find?_append, show d.files.find? _ = some f from h, Option.some_or]

theorem kept_append (d : Dataset) (added : List DataFile) :
    Kept d { d with files := d.files ++ added } :=
  ⟨rfl, fun _ _ hv _ => hv, fun _ f hf _ => ⟨f, file?_append hf added, rfl⟩⟩

theorem Coherent.append {d : Dataset} (h : d.Coherent) (added : List DataFile) :
    Coherent { d with files := d.files ++ added } := by
  refine ⟨fun v hv r hr => ?_, fun v hv hpub r hr => ?_⟩
  · obtain ⟨f, hf, hfx⟩ := h.owned v hv r hr
    exact ⟨f, List.mem_append_left _ hf, hfx⟩
  · obtain ⟨f, hf, hrel⟩ := h.released v hv hpub r hr
    exact ⟨f, file?_append hf added, hrel⟩

/-- A file is added, and then a draft that refers to it is opened and extended. -/
theorem revision_addFile {d : Dataset} (h : d.Coherent) (ids : Supply Uuid) (file : DataFile)
    (label : String) :
    Revision { d with files := d.files ++ [file] } (d.addFile ids file label).2.1 := by
  have hopen := revision_openDraft (h.append [file]) (ids.drop 1)
  have hfiles (e : Dataset) : (e.openDraft (ids.drop 1)).1.files = e.files := by
    unfold openDraft
    split
    · rfl
    · split <;> rfl
  refine hopen.trans (hopen.coherent.mapLatest (hasDraft_openDraft _ _) fun v hv => ?_)
  refine ⟨(draft?_eq_some hv).1, fun r hr => ?_⟩
  rcases List.mem_append.mp hr with hr | hr
  · exact Or.inl ⟨r, hr, rfl⟩
  · refine Or.inr ⟨file, ?_, ?_⟩
    · rw [hfiles]
      exact List.mem_append_right _ (List.mem_singleton.mpr rfl)
    · rw [List.mem_singleton.mp hr]
      rfl

/-! ### Releasing -/

/-- A file among those that a release refers to gets the time of the release, unless it has one. -/
def publishIn (ids : List DataFileId) (time : Time.Instant) (f : DataFile) : DataFile :=
  if ids.contains f.id ∧ f.publicationDate = none then { f with publicationDate := some time }
  else f

theorem publishIn_id (ids : List DataFileId) (time : Time.Instant) (f : DataFile) :
    (publishIn ids time f).id = f.id := by
  unfold publishIn
  split <;> rfl

private theorem publishIn_of_released {f : DataFile} (h : f.isReleased = true)
    (ids : List DataFileId) (time : Time.Instant) : publishIn ids time f = f := by
  unfold publishIn
  split
  · next hf =>
    rw [DataFile.isReleased, hf.2] at h
    cases h
  · rfl

private theorem isReleased_publishIn {ids : List DataFileId} {f : DataFile} (h : f.id ∈ ids)
    (time : Time.Instant) : (publishIn ids time f).isReleased = true := by
  unfold publishIn
  split
  · rfl
  · next hf =>
    have hdate : f.publicationDate ≠ none := fun hnone => hf ⟨List.contains_iff_mem.mpr h, hnone⟩
    exact Option.isSome_iff_ne_none.mpr hdate

/-- The draft as a release leaves it. -/
def releasedDraft (d : Dataset) (time : Time.Instant) (minor : Bool) (v : Version) : Version :=
  { v with
    state := .released
    versionNumber := some (d.nextNumber minor).1
    minorVersionNumber := some (d.nextNumber minor).2
    releaseTime := some time }

theorem releaseDraft_of_draft {d : Dataset} {older : List Version} {v : Version}
    (hv : v.isDraft = true) (hversions : d.versions = older ++ [v]) (time : Time.Instant)
    (minor : Bool) :
    d.releaseDraft time minor =
      (true, { d with
        versions := older ++ [d.releasedDraft time minor v]
        files := d.files.map (publishIn (v.fileMetadata.map (·.dataFile)) time) }) := by
  have hdraft : d.draft? = some v := by rw [draft?_of_versions hversions, if_pos hv]
  unfold releaseDraft mapLatest
  rw [hdraft, hversions]
  simp only [mapLast_append]
  rfl

theorem releaseDraft_of_none {d : Dataset} (h : d.draft? = none) (time : Time.Instant)
    (minor : Bool) : d.releaseDraft time minor = (false, d) := by
  unfold releaseDraft
  rw [h]

theorem revision_releaseDraft {d : Dataset} (h : d.Coherent) (time : Time.Instant) (minor : Bool) :
    Revision d (d.releaseDraft time minor).2 := by
  cases hdraft : d.draft? with
  | none =>
    rw [releaseDraft_of_none hdraft]
    exact .refl h
  | some v =>
    obtain ⟨hv, older, hversions⟩ := draft?_eq_some hdraft
    have hreleased := releaseDraft_of_draft hv hversions time minor
    have hversions' := congrArg (fun p => p.2.versions) hreleased
    have hfiles := congrArg (fun p => p.2.files) hreleased
    have hid := congrArg (fun p => p.2.id) hreleased
    have hrefs : (d.releasedDraft time minor v).fileMetadata = v.fileMetadata := rfl
    dsimp only at hversions' hfiles hid
    generalize d.releasedDraft time minor v = u at hversions' hrefs
    generalize (d.releaseDraft time minor).2 = e at hversions' hfiles hid ⊢
    have hfile (x : DataFileId) :
        e.file? x = (d.file? x).map (publishIn (v.fileMetadata.map (·.dataFile)) time) := by
      unfold Dataset.file?
      rw [hfiles, List.find?_map]
      congr 2
      funext f
      simp only [Function.comp_apply, publishIn_id]
    have howns (x : DataFileId) : e.Owns x ↔ d.Owns x := by
      rw [owns_iff_file?_isSome, owns_iff_file?_isSome, hfile, Option.isSome_map]
    have hkept {x : DataFileId} {f : DataFile} (hf : d.file? x = some f)
        (hrel : f.isReleased = true) : e.file? x = some f := by
      rw [hfile, hf, Option.map_some, publishIn_of_released hrel]
    have hcases {w : Version} (hw : w ∈ e.versions) : w ∈ older ∨ w = u := by
      rw [hversions'] at hw
      simpa using hw
    have holder {w : Version} (hw : w ∈ older) : w ∈ d.versions := by
      rw [hversions]
      exact List.mem_append_left _ hw
    have hlast : v ∈ d.versions := by simp [hversions]
    have hversion {i : Nat} {w : Version} (hw : d.versions[i]? = some w) (hpub : w.isDraft = false) :
        e.versions[i]? = some w :=
      version_of_append hversions (by simpa using hv) hversions' hw hpub
    refine ⟨⟨hid, fun _ _ => hversion, fun x f hf hrel => ⟨f, hkept hf hrel, rfl⟩⟩,
      ⟨fun w hw r hr => ?_, fun w hw hpub r hr => ?_⟩, fun x => (howns x).mp⟩
    · rw [howns]
      rcases hcases hw with hw | rfl
      · exact h.owned w (holder hw) r hr
      · exact h.owned v hlast r (hrefs ▸ hr)
    · rcases hcases hw with hw | rfl
      · obtain ⟨f, hf, hrel⟩ := h.released w (holder hw) hpub r hr
        exact ⟨f, hkept hf hrel, hrel⟩
      · rw [hrefs] at hr
        obtain ⟨f, hf⟩ := (h.owned v hlast r hr).file?
        refine ⟨_, by rw [hfile, hf, Option.map_some], isReleased_publishIn ?_ time⟩
        rw [(file?_eq_some hf).2]
        exact List.mem_map_of_mem hr

end Dataset

end Depository
