import Depository.Dataset.Basic

/-!
# The files of a dataset

Which files a dataset owns and finds, and what of a file stays when it is saved and registered.
Of several files with one identity the first is the one that is found.
-/

namespace Depository

namespace DataFile

/-- A file but for its identifier and the stamps of its registration. -/
def unidentified (f : DataFile) : DataFile :=
  { f with globalId := none, globalIdCreateTime := none, identifierRegistered := false }

/-- A file but for its identifier and all stamps other than that of its publication. -/
def content (f : DataFile) : DataFile :=
  { f.unidentified with createDate := none, creator := none, modificationTime := none }

theorem isReleased_of_content {f g : DataFile} (h : f.content = g.content) :
    f.isReleased = g.isReleased :=
  show f.content.isReleased = g.content.isReleased by rw [h]

end DataFile

namespace Dataset

/-- A dataset but for the identifiers of it and its files and the stamps of their registration. -/
def unidentified (d : Dataset) : Dataset :=
  { d with
    globalId := none
    globalIdCreateTime := none
    identifierRegistered := false
    files := d.files.map DataFile.unidentified }

theorem map_mapFirst {α β : Type} {cond : α → Bool} {change : α → α} {f : α → β}
    (h : ∀ a, f (change a) = f a) (l : List α) : (mapFirst cond change l).map f = l.map f := by
  induction l with
  | nil => rfl
  | cons a rest ih =>
    unfold mapFirst
    split
    · rw [List.map_cons, List.map_cons, h]
    · rw [List.map_cons, List.map_cons, ih]

theorem unidentified_mapFile {change : DataFile → DataFile}
    (h : ∀ f, (change f).unidentified = f.unidentified) (id : DataFileId) (d : Dataset) :
    (d.mapFile id change).unidentified = d.unidentified := by
  simp only [mapFile, unidentified, map_mapFirst h]

theorem files_map_id_of_unidentified {d e : Dataset} (h : e.unidentified = d.unidentified) :
    e.files.map (·.id) = d.files.map (·.id) := by
  have hfiles : e.files.map DataFile.unidentified = d.files.map DataFile.unidentified :=
    congrArg Dataset.files h
  have hids := congrArg (List.map DataFile.id) hfiles
  rwa [List.map_map, List.map_map] at hids

/-! ### Owned files -/

/-- A file of the given identity is among those of the dataset. -/
def Owns (d : Dataset) (x : DataFileId) : Prop := ∃ f ∈ d.files, f.id = x

theorem file?_eq_some {d : Dataset} {x : DataFileId} {f : DataFile} (h : d.file? x = some f) :
    f ∈ d.files ∧ f.id = x :=
  ⟨List.mem_of_find?_eq_some h, by simpa using List.find?_some h⟩

theorem owns_iff_file?_isSome {d : Dataset} {x : DataFileId} :
    d.Owns x ↔ (d.file? x).isSome = true := by
  simp [Owns, file?]

theorem Owns.file? {d : Dataset} {x : DataFileId} (h : d.Owns x) : ∃ f, d.file? x = some f :=
  Option.isSome_iff_exists.mp (owns_iff_file?_isSome.mp h)

theorem owns_of_file? {d : Dataset} {x : DataFileId} {f : DataFile} (h : d.file? x = some f) :
    d.Owns x :=
  ⟨f, file?_eq_some h⟩

/-! ### Files with the same content -/

/-- The files are the same but for identifiers and stamps. -/
def SameFiles (d e : Dataset) : Prop :=
  e.files.map DataFile.content = d.files.map DataFile.content

namespace SameFiles

variable {d e : Dataset}

theorem of_map {change : DataFile → DataFile} (h : ∀ f, (change f).content = f.content)
    (he : e.files = d.files.map change) : SameFiles d e := by
  unfold SameFiles
  rw [he, List.map_map]
  exact List.map_congr_left fun f _ => h f

theorem of_unidentified (h : e.unidentified = d.unidentified) : SameFiles d e := by
  have hfiles : e.files.map DataFile.unidentified = d.files.map DataFile.unidentified :=
    congrArg Dataset.files h
  have hcontent (l : List DataFile) :
      l.map DataFile.content = (l.map DataFile.unidentified).map DataFile.content := by
    rw [List.map_map]
    rfl
  unfold SameFiles
  rw [hcontent, hfiles, ← hcontent]

theorem content_file? (h : SameFiles d e) (x : DataFileId) :
    (e.file? x).map DataFile.content = (d.file? x).map DataFile.content := by
  have hfind (d : Dataset) : (d.file? x).map DataFile.content =
      (d.files.map DataFile.content).find? fun f => f.id == x := by
    rw [List.find?_map]
    rfl
  rw [hfind, hfind, h]

theorem owns_iff (h : SameFiles d e) (x : DataFileId) : e.Owns x ↔ d.Owns x := by
  have hsome := congrArg Option.isSome (h.content_file? x)
  rw [Option.isSome_map, Option.isSome_map] at hsome
  rw [owns_iff_file?_isSome, owns_iff_file?_isSome, hsome]

theorem file? (h : SameFiles d e) {x : DataFileId} {f : DataFile} (hf : d.file? x = some f) :
    ∃ g, e.file? x = some g ∧ g.content = f.content := by
  have hsame := h.content_file? x
  rw [hf] at hsame
  exact Option.map_eq_some_iff.mp hsame

end SameFiles

end Dataset

end Depository
