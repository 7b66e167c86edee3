import Depository.Text.Split
import Mathlib.Data.List.Basic

/-!
# Parts of texts

A text is cut at the first occurrence of a separator, or at all of them. The parts are those texts
without the separator that give the text back when they are put together.
-/

namespace Depository.Text

variable {sep : Char}

/-! ### One cut -/

theorem cutAt_eq_some_iff {s before after : List Char} :
    cutAt sep s = some (before, after) ↔ s = before ++ sep :: after ∧ sep ∉ before := by
  constructor
  · intro h
    exact ⟨eq_of_cutAt h, not_mem_of_cutAt h⟩
  · rintro ⟨rfl, h⟩
    exact cutAt_append h

private theorem cutAt_of_mem {s : List Char} (h : sep ∈ s) :
    cutAt sep s = some (s.takeWhile (· != sep), (s.dropWhile (· != sep)).drop 1) := by
  induction s with
  | nil => cases h
  | cons c rest ih =>
    by_cases hc : c = sep
    · simp [cutAt, hc]
    · have hrest : sep ∈ rest := by simpa [Ne.symm hc] using h
      simp [cutAt, hc, ih hrest]

theorem cut?_eq_some_iff {s before after : String} :
    cut? sep s = some (before, after) ↔
      s.toList = before.toList ++ sep :: after.toList ∧ sep ∉ before.toList := by
  rw [← cutAt_eq_some_iff, cut?, Option.map_eq_some_iff]
  constructor
  · rintro ⟨⟨b, a⟩, hcut, hparts⟩
    cases hparts
    rwa [String.toList_ofList, String.toList_ofList]
  · intro hcut
    exact ⟨_, hcut, by simp only [String.ofList_toList]⟩

theorem cut?_of_mem {s : String} (h : sep ∈ s.toList) :
    cut? sep s = some (String.ofList (s.toList.takeWhile (· != sep)),
      String.ofList ((s.toList.dropWhile (· != sep)).drop 1)) := by
  rw [cut?, cutAt_of_mem h]
  rfl

theorem mem_of_cut? {s before after : String} (h : cut? sep s = some (before, after)) :
    sep ∈ s.toList := by
  rw [(cut?_eq_some_iff.mp h).1]
  exact List.mem_append_right _ List.mem_cons_self

/-! ### All cuts -/

theorem splitAt_eq_splitOn (sep : Char) (cs : List Char) : splitAt sep cs = cs.splitOn sep := by
  induction cs with
  | nil => simp [splitAt]
  | cons c rest ih =>
    rw [splitAt, List.splitOn_cons_eq_if_modifyHead, ih]
    by_cases hc : c = sep
    · simp [hc]
    · simp only [hc, if_false, beq_iff_eq]
      cases hparts : rest.splitOn sep with
      | nil => exact absurd hparts (List.splitOn_ne_nil _ _)
      | cons part parts => rfl

private theorem notMem_of_mem_splitAt {cs part : List Char} (h : part ∈ splitAt sep cs) :
    sep ∉ part := by
  induction cs generalizing part with
  | nil =>
    rw [splitAt, List.mem_singleton] at h
    simp [h]
  | cons c rest ih =>
    rw [splitAt] at h
    split at h
    · rcases List.mem_cons.mp h with rfl | h
      · exact List.not_mem_nil
      · exact ih h
    · next hc =>
      split at h
      · rw [List.mem_singleton.mp h, List.mem_singleton]
        exact Ne.symm hc
      · next first parts hparts =>
        rcases List.mem_cons.mp h with rfl | h
        · have hfirst := ih (hparts ▸ List.mem_cons_self)
          simp [Ne.symm hc, hfirst]
        · exact ih (hparts ▸ List.mem_cons_of_mem _ h)

/-- Some texts are the parts of another exactly if they give it with the separator between them, and
do not hold the separator themselves. -/
theorem splitAt_eq_iff {cs : List Char} {parts : List (List Char)} (hparts : parts ≠ []) :
    splitAt sep cs = parts ↔ [sep].intercalate parts = cs ∧ ∀ part ∈ parts, sep ∉ part := by
  constructor
  · rintro rfl
    refine ⟨?_, fun part => notMem_of_mem_splitAt⟩
    rw [splitAt_eq_splitOn, List.intercalate_splitOn]
  · rintro ⟨rfl, h⟩
    rw [splitAt_eq_splitOn, List.splitOn_intercalate sep h hparts]

theorem splitAt_join {parts : List String} (hparts : parts ≠ [])
    (h : ∀ part ∈ parts, sep ∉ part.toList) :
    splitAt sep (join (String.singleton sep) parts).toList = parts.map String.toList := by
  rw [splitAt_eq_iff (by simpa using hparts), join, String.toList_intercalate,
    String.toList_singleton]
  exact ⟨rfl, by simpa using h⟩

private theorem splitAt_ne_nil (sep : Char) (cs : List Char) : splitAt sep cs ≠ [] := by
  rw [splitAt_eq_splitOn]
  exact List.splitOn_ne_nil _ _

private theorem splitAt_append_cons (before after : List Char) :
    splitAt sep (before ++ sep :: after) = splitAt sep before ++ splitAt sep after := by
  induction before with
  | nil => simp [splitAt]
  | cons c rest ih =>
    rw [List.cons_append, splitAt, splitAt, ih]
    by_cases hc : c = sep
    · simp [hc]
    · cases hparts : splitAt sep rest with
      | nil => exact absurd hparts (splitAt_ne_nil sep rest)
      | cons part parts => simp [hc]

/-- Texts that are joined and cut again are cut one by one. -/
private theorem splitAt_intercalate {parts : List (List Char)} (hparts : parts ≠ []) :
    splitAt sep ([sep].intercalate parts) = parts.flatMap (splitAt sep) := by
  induction parts with
  | nil => exact absurd rfl hparts
  | cons part rest ih =>
    cases rest with
    | nil => simp
    | cons next rest =>
      rw [List.intercalate_cons_cons, List.append_assoc, List.singleton_append,
        splitAt_append_cons, ih (List.cons_ne_nil _ _)]
      rfl

theorem split_join {texts : List String} (htexts : texts ≠ []) :
    split sep (join (String.singleton sep) texts) = texts.flatMap (split sep) := by
  rw [split, join, String.toList_intercalate, String.toList_singleton,
    splitAt_intercalate (by simpa using htexts), List.flatMap_map, List.map_flatMap]
  rfl

end Depository.Text
