import Depository.Json.Record
import Depository.Proofs.Identifier.Uuids
import Depository.Service.Solr

/-!
# What a search core holds

A core keeps its documents by their identities. What is posted takes the place of what had the
same identity, and a deletion takes out what is under a dataset. A minor update of the index only
posts, so it leaves the documents about files that the dataset no longer has; any other update
takes them out first.
-/

namespace Depository

/-- Whether the last version of a dataset has a record about a file. -/
def Dataset.Describes (d : Dataset) (x : DataFileId) : Prop :=
  ∃ v r, d.latest? = some v ∧ r ∈ v.fileMetadata ∧ r.dataFile = x

namespace Search

open Json (asText?)

def key? (doc : Json) : Option String := asText? (doc.get "id")

def parent? (doc : Json) : Option String := asText? (doc.get "parentId")

/-- Whether a document is about a file of a dataset. The document about a dataset is under its
owner, whose name may be anything, so the parent does not tell. -/
def IsFileOf (id : DatasetId) (doc : Json) : Prop :=
  asText? (doc.get "dvObjectType") = some "files" ∧ parent? doc = some (datasetKey id)

/-- The last of the documents with an identity. -/
def lastWith? (key : String) (docs : List Json) : Option Json :=
  docs.reverse.find? fun doc => key? doc == some key

/-- The document about a file in the last version of a dataset: that of the last record about it,
if there are several. -/
def fileDocument? (d : Dataset) (x : DataFileId) : Option Json :=
  d.latest?.bind fun v =>
    (v.fileMetadata.reverse.find? fun r => r.dataFile == x).map (fileDocument d v)

private theorem datasetKey_injective : Function.Injective datasetKey := by
  intro a b h
  exact EntityId.text_injective ((String.append_right_inj "dataset_").mp h)

theorem fileKey_injective (state : VersionState) : Function.Injective fun x => fileKey x state := by
  intro x y h
  have hnamed : "datafile_" ++ x.text = "datafile_" ++ y.text :=
    (String.append_left_inj "_").mp ((String.append_left_inj _).mp h)
  exact EntityId.text_injective ((String.append_right_inj "datafile_").mp hnamed)

private theorem fileKey_ne_datasetKey (x : DataFileId) (state : VersionState) (id : DatasetId) :
    fileKey x state ≠ datasetKey id := by
  intro h
  have hletter : (fileKey x state).toList[4]? = (datasetKey id).toList[4]? :=
    congrArg (fun s : String => s.toList[4]?) h
  simp [fileKey, datasetKey] at hletter

private theorem key?_datasetDocument (d : Dataset) (v : Version) :
    key? (datasetDocument d v) = some (datasetKey d.id) := rfl

private theorem key?_fileDocument (d : Dataset) (v : Version) (r : FileMetadata) :
    key? (fileDocument d v r) = some (fileKey r.dataFile v.state) := rfl

theorem isFileOf_fileDocument (d : Dataset) (v : Version) (r : FileMetadata) (id : DatasetId) :
    IsFileOf id (fileDocument d v r) ↔ d.id = id := by
  have hparent : parent? (fileDocument d v r) = some (datasetKey d.id) := rfl
  unfold IsFileOf
  rw [hparent, Option.some_inj, datasetKey_injective.eq_iff]
  exact and_iff_right rfl

private theorem not_isFileOf_datasetDocument (d : Dataset) (v : Version) (id : DatasetId) :
    ¬ IsFileOf id (datasetDocument d v) := by
  rintro ⟨htype, -⟩
  have hdataset : some "datasets" = some "files" := htype
  simp at hdataset

theorem of_fileDocument?_eq_some {d : Dataset} {x : DataFileId} {doc : Json}
    (h : fileDocument? d x = some doc) : ∃ v r, d.latest? = some v ∧ r ∈ v.fileMetadata ∧
      r.dataFile = x ∧ doc = fileDocument d v r := by
  obtain ⟨v, hlatest, hdoc⟩ := Option.bind_eq_some_iff.mp h
  obtain ⟨r, hr, rfl⟩ := Option.map_eq_some_iff.mp hdoc
  refine ⟨v, r, hlatest, List.mem_reverse.mp (List.mem_of_find?_eq_some hr), ?_, rfl⟩
  simpa using List.find?_some hr

theorem fileDocument?_eq_none_iff {d : Dataset} {x : DataFileId} :
    fileDocument? d x = none ↔ ¬ d.Describes x := by
  constructor
  · rintro hnone ⟨v, r, hlatest, hr, hx⟩
    rw [fileDocument?, hlatest, Option.bind_some, Option.map_eq_none_iff,
      List.find?_eq_none] at hnone
    exact hnone r (List.mem_reverse.mpr hr) (by simp [hx])
  · intro hdescribes
    cases hdoc : fileDocument? d x with
    | none => rfl
    | some doc =>
      obtain ⟨v, r, hlatest, hr, hx, -⟩ := of_fileDocument?_eq_some hdoc
      exact absurd ⟨v, r, hlatest, hr, hx⟩ hdescribes

/-- The documents of a dataset that are about files are those of the records of its last version. -/
theorem mem_documents_of_file {d : Dataset} {doc : Json} {id : DatasetId} :
    doc ∈ documents d ∧ IsFileOf id doc ↔
      d.id = id ∧ ∃ v r, d.latest? = some v ∧ r ∈ v.fileMetadata ∧ doc = fileDocument d v r := by
  constructor
  · rintro ⟨hmem, hfile⟩
    unfold documents at hmem
    cases hlatest : d.latest? with
    | none =>
      rw [hlatest] at hmem
      cases hmem
    | some v =>
      rw [hlatest] at hmem
      rcases List.mem_cons.mp hmem with rfl | hmem
      · exact absurd hfile (not_isFileOf_datasetDocument d v id)
      · obtain ⟨r, hr, rfl⟩ := List.mem_map.mp hmem
        exact ⟨(isFileOf_fileDocument d v r id).mp hfile, v, r, rfl, hr, rfl⟩
  · rintro ⟨hid, v, r, hlatest, hr, rfl⟩
    refine ⟨?_, (isFileOf_fileDocument d v r id).mpr hid⟩
    unfold documents
    rw [hlatest]
    exact List.mem_cons_of_mem _ (List.mem_map_of_mem hr)

theorem lastWith?_documents {d : Dataset} {v : Version} (h : d.latest? = some v)
    (x : DataFileId) :
    lastWith? (fileKey x v.state) (documents d) = fileDocument? d x := by
  have hkey (r : FileMetadata) :
      (key? (fileDocument d v r) == some (fileKey x v.state)) = (r.dataFile == x) := by
    rw [key?_fileDocument, Bool.eq_iff_iff, beq_iff_eq, beq_iff_eq, Option.some_inj]
    exact (fileKey_injective v.state).eq_iff
  have hdataset : (key? (datasetDocument d v) == some (fileKey x v.state)) = false := by
    rw [key?_datasetDocument, beq_eq_false_iff_ne, ne_eq, Option.some_inj]
    exact (fileKey_ne_datasetKey x v.state d.id).symm
  unfold documents lastWith? fileDocument?
  rw [h]
  simp only [List.reverse_cons, List.find?_append, List.find?_singleton, hdataset,
    ← List.map_reverse, List.find?_map, Function.comp_def, hkey]
  simp

theorem of_lastWith?_documents {key : String} {d : Dataset} {doc : Json} {id : DatasetId}
    (h : lastWith? key (documents d) = some doc) (hfile : IsFileOf id doc) :
    ∃ v x, d.latest? = some v ∧ key = fileKey x v.state ∧ fileDocument? d x = some doc := by
  have hkey : key? doc = some key := by simpa using List.find?_some h
  have hmem : doc ∈ documents d := List.mem_reverse.mp (List.mem_of_find?_eq_some h)
  obtain ⟨-, v, r, hlatest, -, rfl⟩ := mem_documents_of_file.mp ⟨hmem, hfile⟩
  obtain rfl : fileKey r.dataFile v.state = key := Option.some.inj hkey
  exact ⟨v, r.dataFile, hlatest, rfl, lastWith?_documents hlatest r.dataFile ▸ h⟩

end Search

namespace Service.Solr

open Search (IsFileOf parent? datasetKey documents lastWith?)

variable {settings : IndexSettings} {bodies : List Json} {answers : List Response}

private theorem answered_postAll (h : (postAll settings bodies).result answers = .ok ()) :
    (postAll settings bodies).answered answers = bodies.map (post settings) := by
  induction bodies generalizing answers with
  | nil => cases answers <;> rfl
  | cons body rest ih =>
    cases answers with
    | nil => cases h
    | cons answer answers =>
      simp only [postAll, Conversation.result] at h
      simp only [postAll, Conversation.answered]
      split at h
      · next haccepted =>
        rw [if_pos haccepted, List.map_cons, ih h]
      · cases h

/-- A search core: the documents that it holds by their identities, and what it makes of a request
that it accepts. -/
structure Core (settings : IndexSettings) where
  State : Type
  doc? : State → String → Option Json
  execute : State → Request → State
  posted : ∀ t docs key, doc? (execute t (post settings (.arr docs))) key =
    (lastWith? key docs).or (doc? t key)
  deleted : ∀ t id key, doc? (execute t (post settings (deletion id))) key =
    (doc? t key).filter fun doc => parent? doc != some (datasetKey id)

namespace Core

variable (core : Core settings)

/-- Whether a core holds a document about a file of a dataset. -/
def HoldsFile (t : core.State) (id : DatasetId) (doc : Json) : Prop :=
  (∃ key, core.doc? t key = some doc) ∧ IsFileOf id doc

/-- What the requests of an update make of a core, as far as they were answered. -/
def afterUpdate (t : core.State) (d : Dataset) (minor : Bool) (answers : List Response) :
    core.State :=
  ((update settings d minor).answered answers).foldl core.execute t

variable {core} {t : core.State} {d : Dataset}

theorem doc?_afterUpdate (henabled : settings.enabled = true) {minor : Bool}
    (h : (update settings d minor).result answers = .ok ()) (key : String) :
    core.doc? (core.afterUpdate t d minor answers) key =
      (lastWith? key (documents d)).or (if minor then core.doc? t key
        else (core.doc? t key).filter fun doc => parent? doc != some (datasetKey d.id)) := by
  have hupdate : update settings d minor = postAll settings (commands d minor) := if_pos henabled
  rw [afterUpdate, hupdate, answered_postAll (hupdate ▸ h)]
  cases minor with
  | true => exact core.posted t (documents d) key
  | false =>
    show core.doc? (core.execute (core.execute t _) _) key = _
    rw [core.posted, core.deleted]
    rfl

/-! ### A table of documents -/

def parentQuery (parent : String) : String := "parentId:\"" ++ parent ++ "\""

private theorem parentQuery_injective : Function.Injective parentQuery := by
  intro p q h
  exact (String.append_right_inj "parentId:\"").mp ((String.append_left_inj "\"").mp h)

/-- A table of documents as a request leaves it that posts documents or deletes by parent. -/
def putOrDelete (table : String → Option Json) (q : Request) : String → Option Json :=
  match q.body with
  | .json (.arr docs) => fun key => (lastWith? key docs).or (table key)
  | .json (.obj [("delete", .obj [("query", .str query)])]) => fun key =>
    (table key).filter fun doc => !(parent? doc).any fun parent => parentQuery parent == query
  | _ => table

def table (settings : IndexSettings) : Core settings where
  State := String → Option Json
  doc? table key := table key
  execute := putOrDelete
  posted _ _ _ := rfl
  deleted t id key := by
    show (t key).filter (fun doc => !(parent? doc).any fun parent =>
      parentQuery parent == parentQuery (datasetKey id)) = _
    congr 1
    funext doc
    cases parent? doc with
    | none => rfl
    | some parent => simp [bne, parentQuery_injective.eq_iff]

end Core

end Service.Solr

end Depository
