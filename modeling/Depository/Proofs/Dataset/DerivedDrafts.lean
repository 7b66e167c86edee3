import Depository.Proofs.Dataset.WellFormed
import Mathlib.Data.List.Forall2

/-!
# Derived drafts

A draft that is opened after a published version mirrors it: the same fields, the same fingerprint,
and record by record the same words about the same files under identities of their own. Each copy
is in the categories of the record that it was made from, and nothing else of the dataset changes.
-/

namespace Depository

namespace Dataset

variable {d : Dataset} {v : Version} {ids : Supply Uuid}

/-- For each category in order, its name and whether it holds a record. -/
def memberships (id : FileMetadataId) (d : Dataset) : List (String × Bool) :=
  d.categories.map fun c => (c.name, c.members.contains id)

private theorem categoriesOf_eq (id : FileMetadataId) (d : Dataset) :
    d.categoriesOf id = ((d.memberships id).filter (·.2)).map (·.1) := by
  simp only [categoriesOf, memberships, List.filter_map, List.map_map]
  rfl

/-- The dataset `e` is `d` with one version more, a draft that mirrors the version `v`. Its records
have new identities and stand in the categories of those that they copy; all other records stand
where they stood. -/
structure Mirrors (d : Dataset) (v : Version) (e : Dataset) (draft : Version) : Prop where
  rest_eq : e = { d with versions := d.versions ++ [draft], categories := e.categories }
  draft_eq : draft = { Version.draft draft.id with
    fields := v.fields, fileMetadata := draft.fileMetadata, unf := v.unf }
  records : List.Forall₂ (fun r q => q = { r with id := q.id }) v.fileMetadata draft.fileMetadata
  apart : (draft.fileMetadata.map (·.id)).Nodup
  fresh : ∀ q ∈ draft.fileMetadata, q.id ∉ d.recordIds
  grouped : List.Forall₂ (fun r q => e.memberships q.id = d.memberships r.id ∧
    e.categoriesOf q.id = d.categoriesOf r.id) v.fileMetadata draft.fileMetadata
  others : ∀ id ∉ draft.fileMetadata.map (·.id), e.memberships id = d.memberships id

/-! ### Categories that are extended -/

private theorem mem_extendCategory_copy {copies : List (FileMetadataId × FileMetadataId)}
    {c : Category}
    (hcopies : (copies.map (·.2)).Nodup) {p : FileMetadataId × FileMetadataId} (hp : p ∈ copies)
    (hnew : p.2 ∉ c.members) :
    p.2 ∈ (extendCategory copies c).members ↔ p.1 ∈ c.members := by
  simp only [extendCategory, List.mem_append, hnew, false_or, List.mem_map, List.mem_filter,
    List.contains_iff_mem]
  constructor
  · rintro ⟨q, ⟨hq, hold⟩, hsame⟩
    rwa [← List.inj_on_of_nodup_map hcopies hq hp hsame]
  · intro hold
    exact ⟨p, ⟨hp, hold⟩, rfl⟩

private theorem mem_extendCategory_of_notMem {copies : List (FileMetadataId × FileMetadataId)}
    {c : Category} {id : FileMetadataId} (hid : id ∉ copies.map (·.2)) :
    id ∈ (extendCategory copies c).members ↔ id ∈ c.members :=
  ⟨fun h => (mem_extendCategory h).resolve_right hid, List.mem_append_left _⟩

private theorem memberships_appendDerived {new old : FileMetadataId}
    (h : ∀ c ∈ d.categories,
      new ∈ (extendCategory (copiesOf ids v) c).members ↔ old ∈ c.members) :
    (d.appendDerived ids v).memberships new = d.memberships old := by
  show (d.categories.map (extendCategory (copiesOf ids v))).map _ = d.categories.map _
  rw [List.map_map]
  apply List.map_congr_left
  intro c hc
  have hcontains : (extendCategory (copiesOf ids v) c).members.contains new =
      c.members.contains old := by
    rw [Bool.eq_iff_iff, List.contains_iff_mem, List.contains_iff_mem, h c hc]
  simp only [Function.comp_apply, hcontains]
  rfl

/-! ### The draft -/

private theorem mirrors_appendDerived (hids : d.FreshFor ids (v.fileMetadata.length + 1))
    (hnew : ∀ i < v.fileMetadata.length + 1, ∀ c ∈ d.categories,
      (⟨ids.ahead i⟩ : FileMetadataId) ∉ c.members) :
    Mirrors d v (d.appendDerived ids v) (v.derive ids) := by
  have hapart : ((v.copiedRecords ids).map (·.id)).Nodup :=
    nodup_copiedRecords (hids.fresh (Nat.lt_succ_self _))
  have hlength : v.fileMetadata.length = (v.copiedRecords ids).length := by
    simp [Version.copiedRecords]
  constructor
  · rfl
  · rfl
  · rw [List.forall₂_iff_get]
    refine ⟨hlength, fun i hi hi' => ?_⟩
    simp [Version.derive, Version.copiedRecords]
  · exact hapart
  · intro q hq
    obtain ⟨i, hi, hqi⟩ := mem_copiedRecords hq
    rw [hqi]
    exact hids.records (i + 1) (by omega)
  · rw [List.forall₂_iff_zip]
    refine ⟨hlength, fun {r q} hrq => ?_⟩
    have hp : (r.id, q.id) ∈ copiesOf ids v := by
      rw [copiesOf, List.zip_map]
      exact List.mem_map.mpr ⟨(r, q), hrq, rfl⟩
    have hunused (c : Category) (hc : c ∈ d.categories) : q.id ∉ c.members := by
      obtain ⟨i, hi, hqi⟩ := mem_copiedRecords (List.of_mem_zip hrq).2
      rw [hqi]
      exact hnew (i + 1) (by omega) c hc
    have hcopies : ((copiesOf ids v).map (·.2)).Nodup := by
      rw [map_snd_copiesOf]
      exact hapart
    have hsame : (d.appendDerived ids v).memberships q.id = d.memberships r.id :=
      memberships_appendDerived fun c hc => mem_extendCategory_copy hcopies hp (hunused c hc)
    refine ⟨hsame, ?_⟩
    rw [categoriesOf_eq, categoriesOf_eq, hsame]
  · intro id hid
    apply memberships_appendDerived
    intro c _
    apply mem_extendCategory_of_notMem
    rw [map_snd_copiesOf]
    exact hid

private theorem openDraft_of_published (ids : Supply Uuid) (hv : d.latest? = some v)
    (hpublished : v.isDraft = false) :
    (d.openDraft ids).1 = d.appendDerived ids v ∧ d.openingCost = v.fileMetadata.length + 1 := by
  have hdraft : d.draft?.isSome = false := by simp [draft?, hv, hpublished]
  simp [openDraft, openingCost, hdraft, hv]

private theorem openDraft_of_hasDraft (h : d.HasDraft) (ids : Supply Uuid) :
    d.openDraft ids = (d, ids) := by
  unfold openDraft
  rw [if_pos h.draft?]

/-- A draft that is opened after a published version mirrors it, and opening it once more changes
nothing. -/
theorem openDraft_mirrors (hv : d.latest? = some v) (hpublished : v.isDraft = false)
    (hids : d.FreshFor ids d.openingCost)
    (hnew : ∀ i < d.openingCost, ∀ c ∈ d.categories,
      (⟨ids.ahead i⟩ : FileMetadataId) ∉ c.members) :
    (∃ draft, Mirrors d v (d.openDraft ids).1 draft) ∧
      ∀ more, (d.openDraft ids).1.openDraft more = ((d.openDraft ids).1, more) := by
  obtain ⟨hopened, hcost⟩ := openDraft_of_published ids hv hpublished
  rw [hcost] at hids hnew
  have hmirrors : Mirrors d v (d.openDraft ids).1 (v.derive ids) := by
    rw [hopened]
    exact mirrors_appendDerived hids hnew
  exact ⟨⟨v.derive ids, hmirrors⟩, openDraft_of_hasDraft (hasDraft_openDraft d ids)⟩

/-! ### A dataset with two categories -/

open Repository (emptyWorld)

/-- A gauge and a map, both among the gauges and the map also among the maps, released twice. -/
def mapped : Dataset :=
  let both := (charted.addFile (emptyWorld.ids.drop 5) (DataFile.new ⟨⟨4⟩⟩ "image/png" 7 "c1d2")
    "map.png").2.1
  let sorted := ((both.addToCategory ⟨⟨1⟩⟩ "Gauges").addToCategory ⟨⟨5⟩⟩ "Maps").addToCategory
    ⟨⟨5⟩⟩ "Gauges"
  let again := ((sorted.releaseDraft .epoch false).2.openDraft (emptyWorld.ids.drop 20)).1
  (again.releaseDraft .epoch true).2

theorem openDraft_mirrors_mapped :
    ∃ v, mapped.latest? = some v ∧ v.isDraft = false ∧
      mapped.FreshFor (emptyWorld.ids.drop 30) mapped.openingCost ∧
      mapped.categories = [⟨"Gauges", [⟨⟨1⟩⟩, ⟨⟨5⟩⟩, ⟨⟨21⟩⟩, ⟨⟨22⟩⟩]⟩, ⟨"Maps", [⟨⟨5⟩⟩, ⟨⟨22⟩⟩]⟩] ∧
      (∃ draft, Mirrors mapped v (mapped.openDraft (emptyWorld.ids.drop 30)).1 draft) ∧
      (mapped.openDraft (emptyWorld.ids.drop 30)).1.categoriesOf ⟨⟨32⟩⟩ = ["Gauges", "Maps"] ∧
      ∀ more, (mapped.openDraft (emptyWorld.ids.drop 30)).1.openDraft more =
        ((mapped.openDraft (emptyWorld.ids.drop 30)).1, more) := by
  have hids : mapped.FreshFor (emptyWorld.ids.drop 30) mapped.openingCost :=
    ⟨by decide +kernel, by decide +kernel, by decide +kernel⟩
  have hnew : ∀ i < mapped.openingCost, ∀ c ∈ mapped.categories,
      (⟨(emptyWorld.ids.drop 30).ahead i⟩ : FileMetadataId) ∉ c.members := by decide +kernel
  have hv : mapped.latest? = some mapped.versions[1] := rfl
  have hpublished : mapped.versions[1].isDraft = false := rfl
  obtain ⟨hmirrors, hagain⟩ := openDraft_mirrors hv hpublished hids hnew
  exact ⟨_, hv, hpublished, hids, by decide +kernel, hmirrors, by decide +kernel, hagain⟩

end Dataset

end Depository
