import Depository.Proofs.Repository.Deletion
import Depository.Proofs.Service.SearchIndex

/-!
# What updates leave in the search index

Every update that is saved asks the index for a minor update. So the index holds, for each file
that a draft had a record about, the document that was posted last, also when the file has left
the dataset since.
-/

namespace Depository

open Search (IsFileOf lastWith? fileKey fileDocument fileDocument?)

/-- A call of the index and how it ended. -/
structure IndexCall where
  dataset : Dataset
  minor : Bool
  answer : Except Failure Unit

def Event.indexCall? : Event → Option IndexCall
  | .indexing dataset minor answer => some ⟨dataset, minor, answer⟩
  | _ => none

private theorem Event.indexCall?_eq_none {e : Event} (h : e.isIndexing = false) :
    e.indexCall? = none := by
  cases e <;> first | rfl | cases h

namespace World

/-- The calls of the index made so far. -/
def indexCalls (w : World) : List IndexCall := w.log.filterMap Event.indexCall?

private theorem indexCalls_of_log {w v : World} {calls : List Event} (hlog : v.log = w.log ++ calls)
    (hcalls : ∀ e ∈ calls, e.isIndexing = false) : v.indexCalls = w.indexCalls :=
  Action.filterMap_of_log hlog fun e he => Event.indexCall?_eq_none (hcalls e he)

end World

theorem Dataset.HasDraft.latest? {d : Dataset} (h : d.HasDraft) :
    ∃ v, d.latest? = some v ∧ v.state = .draft := by
  obtain ⟨older, v, hversions, hv⟩ := h
  refine ⟨v, ?_, by simpa [Version.isDraft] using hv⟩
  rw [Dataset.latest?, hversions, List.getLast?_concat]

namespace Repository

open Depository.Action Depository.Dataset Service Service.Solr

/-! ### The calls of an update -/

theorem run_reindex_of_index {s : Surroundings} {index : Nat → Dataset → Bool → Except Failure Unit}
    (h : s.index = some index) (d : Dataset) (minor : Bool) (w : World) :
    ((reindex d minor).run s w).2.log =
      w.log ++ [.indexing d minor (index (w.count Event.isIndexing) d minor)] := by
  show ((reindex d minor) s w).2.log = _
  unfold reindex
  rw [h]
  rfl

/-- An update that is saved calls the index once, for a minor update. -/
private theorem indexCalls_of_update {s : Surroundings}
    {index : Nat → Dataset → Bool → Except Failure Unit}
    (hindex : s.index = some index) {w v : World} {r : UpdateRequest} {o : UpdateOutcome}
    (h : (update r).run s w = (.ok o, v)) :
    o.dataset.HasDraft ∧ ∃ n, v.indexCalls =
      w.indexCalls ++ [⟨o.dataset, true, index n o.dataset true⟩] := by
  obtain ⟨p, work, d, registration, w₁, w₂, w₃, w₄, hprepare, hstage, hregister, hcommit, hfollow,
    rfl⟩ := of_run_update_ok h
  have hsaved := stagedWork_of_saved hprepare hstage hregister
  refine ⟨hsaved.staged.hasDraft, ?_⟩
  obtain ⟨-, calls₁, hlog₁, hcalls₁⟩ := confined_prepare r s w
  obtain ⟨-, calls₂, hlog₂, hcalls₂⟩ := confined_stage p s w₁
  obtain ⟨-, calls₃, hlog₃, hcalls₃⟩ := registering_confined.registerIfDue work.dataset s w₂
  obtain ⟨failed, hlog₄⟩ := log_of_run_commit hcommit
  obtain ⟨u, hrun, -, calls₅, hlog₅, hcalls₅⟩ :=
    run_follow p.user p.time (stampUpdate p.time d) s w₄
  rw [hprepare] at hlog₁
  rw [hstage] at hlog₂
  rw [hregister] at hlog₃
  have hv : v = ((reindex (stampUpdate p.time d) true).run s u).2 :=
    congrArg Prod.snd (hfollow.symm.trans hrun)
  -- Only what follows the commit calls the index.
  have hsame : u.indexCalls = w.indexCalls := by
    calc u.indexCalls
      _ = w₄.indexCalls := World.indexCalls_of_log hlog₅ hcalls₅
      _ = w₃.indexCalls := World.indexCalls_of_log hlog₄ (by simp [Event.isIndexing])
      _ = w₂.indexCalls := World.indexCalls_of_log hlog₃ fun e he => (hcalls₃ e he).isIndexing
      _ = w₁.indexCalls := World.indexCalls_of_log hlog₂ fun e he => (hcalls₂ e he).isIndexing
      _ = w.indexCalls :=
        World.indexCalls_of_log hlog₁ fun e he => (hcalls₁ e he).prepares.isIndexing
  let answer := index (u.count Event.isIndexing) (stampUpdate p.time d) true
  refine ⟨u.count Event.isIndexing, ?_⟩
  rw [hv, World.indexCalls, run_reindex_of_index hindex, List.filterMap_append]
  exact congrArg (· ++ [⟨stampUpdate p.time d, true, answer⟩]) hsame

/-! ### A core that takes in the calls -/

variable {settings : IndexSettings} {core : Core settings} {t u : core.State}
  {earlier saved : List Dataset} {d : Dataset}

/-- What calls of the index make of a core when all of them succeed. -/
inductive TakesIn (core : Core settings) : core.State → List IndexCall → core.State → Prop where
  | nil (t : core.State) : TakesIn core t [] t
  | cons {t u : core.State} {d : Dataset} {minor : Bool} {answers : List Response}
      {calls : List IndexCall} :
      (Solr.update settings d minor).result answers = .ok () →
      TakesIn core (core.afterUpdate t d minor answers) calls u →
      TakesIn core t (⟨d, minor, .ok ()⟩ :: calls) u

/-- Updates that are saved one after another, and a core that takes in their calls of the index.
Each has a world of its own: between two of them anything may happen but calls of the index. -/
inductive Updates (core : Core settings) : core.State → List Dataset → core.State → Prop where
  | nil (t : core.State) : Updates core t [] t
  | concat {t t' u : core.State} {saved : List Dataset} {s : Surroundings} {w v : World}
      {r : UpdateRequest} {o : UpdateOutcome} {calls : List IndexCall} :
      Updates core t saved t' → s.index.isSome = true → (update r).run s w = (.ok o, v) →
      v.indexCalls = w.indexCalls ++ calls → TakesIn core t' calls u →
      Updates core t (saved ++ [o.dataset]) u

/-- The document that the last of some datasets with a record about a file has of it. -/
def lastDocument? (saved : List Dataset) (x : DataFileId) : Option Json :=
  saved.reverse.findSome? fun d => fileDocument? d x

private theorem lastDocument?_concat (saved : List Dataset) (d : Dataset) (x : DataFileId) :
    lastDocument? (saved ++ [d]) x = (fileDocument? d x).or (lastDocument? saved x) := by
  rw [lastDocument?, List.reverse_append, List.findSome?_append]
  congr 1
  exact List.findSome?_singleton

/-- An update replaces the documents that it posts and leaves all others. -/
private theorem doc?_of_update (henabled : settings.enabled = true) {s : Surroundings} {w v : World}
    {r : UpdateRequest} {o : UpdateOutcome} {calls : List IndexCall}
    (hindex : s.index.isSome = true) (hrun : (update r).run s w = (.ok o, v))
    (hcalls : v.indexCalls = w.indexCalls ++ calls) (htakes : TakesIn core t calls u) :
    o.dataset.HasDraft ∧ ∀ key, core.doc? u key =
      (lastWith? key (Search.documents o.dataset)).or (core.doc? t key) := by
  obtain ⟨index, hindex⟩ := Option.isSome_iff_exists.mp hindex
  obtain ⟨hdraft, n, hcalled⟩ := indexCalls_of_update hindex hrun
  obtain rfl := List.append_cancel_left (hcalls.symm.trans hcalled)
  refine ⟨hdraft, fun key => ?_⟩
  generalize index n o.dataset true = answer at htakes
  cases htakes with
  | cons hresult hrest =>
    cases hrest
    exact Core.doc?_afterUpdate henabled hresult key

namespace Updates

theorem hasDraft (henabled : settings.enabled = true) (h : Updates core t saved u) :
    ∀ d ∈ saved, d.HasDraft := by
  induction h with
  | nil => simp
  | concat _ hindex hrun hcalls htakes ih =>
    intro d hd
    rcases List.mem_append.mp hd with hd | hd
    · exact ih d hd
    · rw [List.mem_singleton.mp hd]
      exact (doc?_of_update henabled hindex hrun hcalls htakes).1

private theorem doc?_fileKey (henabled : settings.enabled = true) (h : Updates core t saved u)
    (x : DataFileId) :
    core.doc? u (fileKey x .draft) =
      (lastDocument? saved x).or (core.doc? t (fileKey x .draft)) := by
  induction h with
  | nil => rfl
  | concat _ hindex hrun hcalls htakes ih =>
    obtain ⟨hdraft, hdoc⟩ := doc?_of_update henabled hindex hrun hcalls htakes
    obtain ⟨v, hlatest, hstate⟩ := hdraft.latest?
    rw [hdoc, ih, lastDocument?_concat, Option.or_assoc, ← Search.lastWith?_documents hlatest,
      hstate]

/-- What is held about a file was there before or is held as a document about a draft. -/
private theorem key_of_isFileOf (henabled : settings.enabled = true) (h : Updates core t saved u)
    {key : String} {doc : Json} {id : DatasetId} (hheld : core.doc? u key = some doc)
    (hfile : IsFileOf id doc) : core.doc? t key = some doc ∨ ∃ x, key = fileKey x .draft := by
  induction h with
  | nil => exact Or.inl hheld
  | concat _ hindex hrun hcalls htakes ih =>
    obtain ⟨hdraft, hdoc⟩ := doc?_of_update henabled hindex hrun hcalls htakes
    obtain ⟨v, hlatest, hstate⟩ := hdraft.latest?
    rcases Option.or_eq_some_iff.mp ((hdoc key).symm.trans hheld) with hnew | ⟨-, hold⟩
    · obtain ⟨v', x, hlatest', hkey, -⟩ := Search.of_lastWith?_documents hnew hfile
      obtain rfl : v = v' := Option.some.inj (hlatest.symm.trans hlatest')
      exact Or.inr ⟨x, hstate ▸ hkey⟩
    · exact ih hold

/-- About each file the document is held that was posted last. -/
private theorem holdsFile_iff (henabled : settings.enabled = true) {id : DatasetId}
    (hempty : ∀ doc, ¬ core.HoldsFile t id doc) (h : Updates core t saved u) (doc : Json) :
    core.HoldsFile u id doc ↔ ∃ x, lastDocument? saved x = some doc ∧ IsFileOf id doc := by
  constructor
  · rintro ⟨⟨key, hheld⟩, hfile⟩
    rcases h.key_of_isFileOf henabled hheld hfile with hold | ⟨x, rfl⟩
    · exact absurd ⟨⟨key, hold⟩, hfile⟩ (hempty doc)
    · rw [h.doc?_fileKey henabled] at hheld
      rcases Option.or_eq_some_iff.mp hheld with hlast | ⟨-, hold⟩
      · exact ⟨x, hlast, hfile⟩
      · exact absurd ⟨⟨_, hold⟩, hfile⟩ (hempty doc)
  · rintro ⟨x, hlast, hfile⟩
    refine ⟨⟨fileKey x .draft, ?_⟩, hfile⟩
    rw [h.doc?_fileKey henabled, hlast]
    rfl

end Updates

/-! ### Files that have left -/

/-- Whether a file has left a dataset without leaving the index: a draft of the dataset had a
record about it, and no draft that was saved later has. -/
def LeftBehind (earlier : List Dataset) (d : Dataset) (x : DataFileId) : Prop :=
  ∃ before e after, earlier = before ++ e :: after ∧ e.id = d.id ∧ e.Describes x ∧
    ∀ e' ∈ after ++ [d], ¬ e'.Describes x

/-- Whether all records about one file in the last version of a dataset have the same document. -/
def OneDocumentEach (d : Dataset) : Prop :=
  ∀ v, d.latest? = some v → ∀ r ∈ v.fileMetadata, ∀ r' ∈ v.fileMetadata,
    r.dataFile = r'.dataFile → fileDocument d v r = fileDocument d v r'

theorem OneDocumentEach.fileDocument? {d : Dataset} (h : OneDocumentEach d) {v : Version}
    (hlatest : d.latest? = some v) {r : FileMetadata} (hr : r ∈ v.fileMetadata) :
    Search.fileDocument? d r.dataFile = some (fileDocument d v r) := by
  cases hdoc : Search.fileDocument? d r.dataFile with
  | none => exact absurd ⟨v, r, hlatest, hr, rfl⟩ (Search.fileDocument?_eq_none_iff.mp hdoc)
  | some doc =>
    obtain ⟨u, r', hlatest', hr', hsame, rfl⟩ := Search.of_fileDocument?_eq_some hdoc
    obtain rfl : v = u := Option.some.inj (hlatest.symm.trans hlatest')
    rw [h v hlatest r' hr' r hr hsame]

private theorem lastDocument?_eq_some_iff {x : DataFileId} {doc : Json} :
    lastDocument? saved x = some doc ↔ ∃ before e after, saved = before ++ e :: after ∧
      fileDocument? e x = some doc ∧ ∀ e' ∈ after, ¬ e'.Describes x := by
  simp only [lastDocument?, List.findSome?_eq_some_iff, ← Search.fileDocument?_eq_none_iff]
  constructor
  · rintro ⟨after, e, before, hsaved, hdoc, hafter⟩
    refine ⟨before.reverse, e, after.reverse, ?_, hdoc, fun e' he' =>
      hafter e' (List.mem_reverse.mp he')⟩
    rw [List.reverse_eq_append_iff.mp hsaved]
    simp
  · rintro ⟨before, e, after, rfl, hdoc, hafter⟩
    refine ⟨after.reverse, e, before.reverse, by simp, hdoc, fun e' he' =>
      hafter e' (List.mem_reverse.mp he')⟩

private theorem isFileOf_of_fileDocument? {e : Dataset} {x : DataFileId} {doc : Json}
    (h : fileDocument? e x = some doc) (id : DatasetId) : IsFileOf id doc ↔ e.id = id := by
  obtain ⟨v, r, -, -, -, rfl⟩ := Search.of_fileDocument?_eq_some h
  exact Search.isFileOf_fileDocument e v r id

/-- What was left behind is held and belongs to no record of the dataset. -/
private theorem leftBehind_iff {x : DataFileId} : LeftBehind earlier d x ↔ ¬ d.Describes x ∧
    ∃ doc, lastDocument? (earlier ++ [d]) x = some doc ∧ IsFileOf d.id doc := by
  -- Without a record about the file the last update posts nothing about it.
  have hconcat (h : ¬ d.Describes x) :
      lastDocument? (earlier ++ [d]) x = lastDocument? earlier x := by
    rw [lastDocument?_concat, Search.fileDocument?_eq_none_iff.mpr h]
    rfl
  constructor
  · rintro ⟨before, e, after, hearlier, hid, hdescribes, hafter⟩
    have hd : ¬ d.Describes x := hafter d (by simp)
    cases hdoc : fileDocument? e x with
    | none => exact absurd hdescribes (Search.fileDocument?_eq_none_iff.mp hdoc)
    | some doc =>
      refine ⟨hd, doc, ?_, (isFileOf_of_fileDocument? hdoc d.id).mpr hid⟩
      rw [hconcat hd]
      exact lastDocument?_eq_some_iff.mpr ⟨before, e, after, hearlier, hdoc,
        fun e' he' => hafter e' (List.mem_append_left _ he')⟩
  · rintro ⟨hd, doc, hlast, hfile⟩
    rw [hconcat hd] at hlast
    obtain ⟨before, e, after, hearlier, hdoc, hafter⟩ := lastDocument?_eq_some_iff.mp hlast
    have hdescribes : e.Describes x := by
      obtain ⟨v, r, hlatest, hr, hx, -⟩ := Search.of_fileDocument?_eq_some hdoc
      exact ⟨v, r, hlatest, hr, hx⟩
    refine ⟨before, e, after, hearlier, (isFileOf_of_fileDocument? hdoc d.id).mp hfile,
      hdescribes, fun e' he' => ?_⟩
    rcases List.mem_append.mp he' with he' | he'
    · exact hafter e' he'
    · rwa [List.mem_singleton.mp he']

/-- A document about a draft tells which file it is about. -/
private theorem dataFile_of_lastDocument? (hdrafts : ∀ e ∈ saved, e.HasDraft) (hd : d.HasDraft)
    {v : Version} (hlatest : d.latest? = some v) {r : FileMetadata} {x : DataFileId}
    (h : lastDocument? saved x = some (fileDocument d v r)) : r.dataFile = x := by
  have hdraft {e : Dataset} (he : e.HasDraft) {u : Version} (hu : e.latest? = some u) :
      u.state = .draft := by
    obtain ⟨u', hu', hstate⟩ := he.latest?
    rwa [← Option.some.inj (hu.symm.trans hu')] at hstate
  obtain ⟨before, e, after, rfl, hdoc, -⟩ := lastDocument?_eq_some_iff.mp h
  obtain ⟨u, r', hlatest', -, rfl, hsame⟩ := Search.of_fileDocument?_eq_some hdoc
  have hkey : some (fileKey r.dataFile v.state) = some (fileKey r'.dataFile u.state) :=
    congrArg Search.key? hsame
  rw [hdraft hd hlatest, hdraft (hdrafts e (by simp)) hlatest', Option.some_inj] at hkey
  exact Search.fileKey_injective .draft hkey

private theorem notMem_documents (hdrafts : ∀ e ∈ saved, e.HasDraft) (hd : d.HasDraft)
    {x : DataFileId} (hx : ¬ d.Describes x) {doc : Json} (h : lastDocument? saved x = some doc)
    (hfile : IsFileOf d.id doc) : doc ∉ Search.documents d := by
  intro hmem
  obtain ⟨-, v, r, hlatest, hr, rfl⟩ := Search.mem_documents_of_file.mp ⟨hmem, hfile⟩
  exact hx ⟨v, r, hlatest, hr, dataFile_of_lastDocument? hdrafts hd hlatest h⟩

/-- The documents posted last are those of the last dataset exactly if no file of it was left
behind and it has one document for each file. -/
private theorem lastDocuments_exact_iff (hdrafts : ∀ e ∈ earlier ++ [d], e.HasDraft) :
    (∀ doc, (∃ x, lastDocument? (earlier ++ [d]) x = some doc ∧ IsFileOf d.id doc) ↔
      doc ∈ Search.documents d ∧ IsFileOf d.id doc) ↔
    (∀ x, ¬ LeftBehind earlier d x) ∧ OneDocumentEach d := by
  have hd : d.HasDraft := hdrafts d (by simp)
  constructor
  · intro hexact
    -- Each document of the dataset is the last about its own file, for its identity names the file.
    have hposted {v : Version} (hlatest : d.latest? = some v) {r : FileMetadata}
        (hr : r ∈ v.fileMetadata) :
        lastDocument? (earlier ++ [d]) r.dataFile = some (fileDocument d v r) := by
      obtain ⟨x, hx, -⟩ := (hexact _).mpr (Search.mem_documents_of_file.mpr
        ⟨rfl, v, r, hlatest, hr, rfl⟩)
      exact dataFile_of_lastDocument? hdrafts hd hlatest hx ▸ hx
    refine ⟨fun x hleft => ?_, fun v hlatest r hr r' hr' hsame => ?_⟩
    · obtain ⟨hx, doc, hlast, hfile⟩ := leftBehind_iff.mp hleft
      exact notMem_documents hdrafts hd hx hlast hfile ((hexact doc).mp ⟨x, hlast, hfile⟩).1
    · exact Option.some.inj ((hposted hlatest hr).symm.trans (hsame ▸ hposted hlatest hr'))
  · rintro ⟨hnone, hone⟩ doc
    rw [Search.mem_documents_of_file]
    constructor
    · rintro ⟨x, hlast, hfile⟩
      have hdescribes : d.Describes x := by
        by_contra hx
        exact hnone x (leftBehind_iff.mpr ⟨hx, doc, hlast, hfile⟩)
      rw [lastDocument?_concat] at hlast
      rcases Option.or_eq_some_iff.mp hlast with hdoc | ⟨hnothing, -⟩
      · obtain ⟨v, r, hlatest, hr, -, rfl⟩ := Search.of_fileDocument?_eq_some hdoc
        exact ⟨rfl, v, r, hlatest, hr, rfl⟩
      · exact absurd hdescribes (Search.fileDocument?_eq_none_iff.mp hnothing)
    · rintro ⟨-, v, r, hlatest, hr, rfl⟩
      refine ⟨r.dataFile, ?_, (Search.isFileOf_fileDocument d v r d.id).mpr rfl⟩
      rw [lastDocument?_concat, hone.fileDocument? hlatest hr]
      rfl

/-- After updates of a dataset of which the core held nothing, it holds about each file the
document that was posted last. These are the documents of the dataset as it was saved exactly if
no file was left behind. -/
theorem index_after_updates (henabled : settings.enabled = true)
    (hempty : ∀ doc, ¬ core.HoldsFile t d.id doc) (h : Updates core t (earlier ++ [d]) u) :
    (∀ doc, core.HoldsFile u d.id doc ↔
      ∃ x, lastDocument? (earlier ++ [d]) x = some doc ∧ IsFileOf d.id doc) ∧
    ((∀ doc, core.HoldsFile u d.id doc ↔ doc ∈ Search.documents d ∧ IsFileOf d.id doc) ↔
      (∀ x, ¬ LeftBehind earlier d x) ∧ OneDocumentEach d) := by
  have hheld := h.holdsFile_iff henabled hempty
  refine ⟨hheld, ?_⟩
  rw [← lastDocuments_exact_iff (h.hasDraft henabled)]
  exact forall_congr' fun doc => iff_congr (hheld doc) Iff.rfl

/-! ### A file that is withdrawn -/

def liveSurroundings : Surroundings :=
  { plainSurroundings with index := some fun _ _ _ => .ok () }

/-- Saves a dataset with a new file, and saves it again without the file. -/
def withdrawing : Action (Dataset × Dataset) := do
  let first ← update { clearingRequest with records := [], file := none }
  let second ← update
    { clearingRequest with dataset := first.dataset, records := [], file := some ⟨⟨7⟩⟩ }
  return (first.dataset, second.dataset)

def localIndex : IndexSettings := ⟨true, "http://localhost:8983/solr", 10⟩

private theorem Updates.accepted (henabled : settings.enabled = true) (h : Updates core t saved u)
    {w v : World} {r : UpdateRequest} {o : UpdateOutcome}
    (hrun : (update r).run liveSurroundings w = (.ok o, v)) :
    Updates core t (saved ++ [o.dataset]) (core.afterUpdate u o.dataset true [⟨200, ""⟩]) := by
  obtain ⟨-, n, hcalls⟩ := indexCalls_of_update rfl hrun
  refine .concat h rfl hrun hcalls (.cons ?_ (.nil _))
  unfold Solr.update
  rw [henabled]
  rfl

private theorem leftBehind_withdrawing : ∃ d₁ d₂ v u,
    withdrawing.run liveSurroundings emptyWorld = (.ok (d₁, d₂), v) ∧
      Updates (Core.table localIndex) (fun _ => none) [d₁, d₂] u ∧
      LeftBehind [d₁] d₂ ⟨⟨7⟩⟩ := by
  have hok : (withdrawing.run liveSurroundings emptyWorld).1.toOption.any (fun p =>
      (fileDocument? p.1 ⟨⟨7⟩⟩).isSome && (fileDocument? p.2 ⟨⟨7⟩⟩).isNone && p.1.id == p.2.id) =
      true := by decide +kernel
  cases hrun : withdrawing.run liveSurroundings emptyWorld with
  | mk result v =>
    rw [hrun] at hok
    cases result with
    | error e => cases hok
    | ok p =>
      obtain ⟨first, w, hfirst, hrest⟩ := of_run_bind_ok hrun
      obtain ⟨second, w', hsecond, hrest⟩ := of_run_bind_ok hrest
      cases hrest
      change ((fileDocument? first.dataset ⟨⟨7⟩⟩).isSome &&
        (fileDocument? second.dataset ⟨⟨7⟩⟩).isNone && first.dataset.id == second.dataset.id) =
        true at hok
      simp only [Bool.and_eq_true, beq_iff_eq] at hok
      obtain ⟨⟨hdescribed, hwithdrawn⟩, hid⟩ := hok
      have hupdates : Updates (Core.table localIndex) (fun _ => none) [] fun _ => none := .nil _
      refine ⟨first.dataset, second.dataset, v, _, rfl,
        (hupdates.accepted rfl hfirst).accepted rfl hsecond, [], first.dataset, [], rfl, hid,
        ?_, ?_⟩
      · by_contra hnone
        rw [Search.fileDocument?_eq_none_iff.mpr hnone] at hdescribed
        cases hdescribed
      · intro e he
        rw [List.mem_singleton.mp he]
        exact Search.fileDocument?_eq_none_iff.mp (Option.isNone_iff_eq_none.mp hwithdrawn)

private theorem not_holdsFile_empty (id : DatasetId) (doc : Json) :
    ¬ (Core.table localIndex).HoldsFile (fun _ => none) id doc := by
  rintro ⟨⟨key, hkey⟩, -⟩
  cases hkey

theorem index_after_updates_when_withdrawn : ∃ d₁ d₂ v u,
    withdrawing.run liveSurroundings emptyWorld = (.ok (d₁, d₂), v) ∧
      Updates (Core.table localIndex) (fun _ => none) [d₁, d₂] u ∧
      (∀ doc, (Core.table localIndex).HoldsFile u d₂.id doc ↔
        ∃ x, lastDocument? [d₁, d₂] x = some doc ∧ IsFileOf d₂.id doc) ∧
      ((∀ doc, (Core.table localIndex).HoldsFile u d₂.id doc ↔
          doc ∈ Search.documents d₂ ∧ IsFileOf d₂.id doc) ↔
        (∀ x, ¬ LeftBehind [d₁] d₂ x) ∧ OneDocumentEach d₂) := by
  obtain ⟨d₁, d₂, v, u, hrun, hupdates, -⟩ := leftBehind_withdrawing
  have hsplit : Updates (Core.table localIndex) (fun _ => none) ([d₁] ++ [d₂]) u := hupdates
  exact ⟨d₁, d₂, v, u, hrun, hupdates,
    index_after_updates rfl (not_holdsFile_empty d₂.id) hsplit⟩

/-- The document about the file is still held after the dataset was saved without it. -/
theorem document_left_in_index : ∃ d₁ d₂ v u doc,
    withdrawing.run liveSurroundings emptyWorld = (.ok (d₁, d₂), v) ∧
      Updates (Core.table localIndex) (fun _ => none) [d₁, d₂] u ∧
      (Core.table localIndex).HoldsFile u d₂.id doc ∧ doc ∉ Search.documents d₂ := by
  obtain ⟨d₁, d₂, v, u, hrun, hupdates, hleft⟩ := leftBehind_withdrawing
  obtain ⟨hx, doc, hlast, hfile⟩ := leftBehind_iff.mp hleft
  have hdrafts := hupdates.hasDraft rfl
  refine ⟨d₁, d₂, v, u, doc, hrun, hupdates, ?_, ?_⟩
  · exact (hupdates.holdsFile_iff rfl (not_holdsFile_empty d₂.id) doc).mpr ⟨_, hlast, hfile⟩
  · exact notMem_documents hdrafts (hdrafts d₂ (by simp)) hx hlast hfile

end Repository

end Depository
