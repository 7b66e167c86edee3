import Depository.Store.Table
import Mathlib.Data.List.Nodup

/-!
# Reading tables in order

The entries of a table stand in the order of their keys. So a set of keys picks out values in that
order, and the entries from a key on, as long as they belong to a block of keys, are all of that
block.
-/

namespace Depository

open Ranked (rank rank_injective)

section Lists

variable {α : Type} {p : α → Bool} {l : List α}

/-- A condition that no element after a failing one satisfies selects a beginning. -/
private theorem takeWhile_eq_filter (h : l.Pairwise fun a b => p b = true → p a = true) :
    l.takeWhile p = l.filter p := by
  induction l with
  | nil => rfl
  | cons a rest ih =>
    obtain ⟨ha, hrest⟩ := List.pairwise_cons.mp h
    by_cases hp : p a = true
    · rw [List.takeWhile_cons_of_pos hp, List.filter_cons_of_pos hp, ih hrest]
    · rw [List.takeWhile_cons_of_neg hp, List.filter_cons_of_neg hp]
      have hnone : rest.filter p = [] := by
        rw [List.filter_eq_nil_iff]
        intro b hb hpb
        exact hp (ha b hb hpb)
      rw [hnone]

/-- What follows the beginning that such a condition selects. -/
private theorem dropWhile_eq_filter (h : l.Pairwise fun a b => p b = true → p a = true) :
    l.dropWhile p = l.filter fun a => !p a := by
  induction l with
  | nil => rfl
  | cons a rest ih =>
    obtain ⟨ha, hrest⟩ := List.pairwise_cons.mp h
    by_cases hp : p a = true
    · rw [List.dropWhile_cons_of_pos hp, ih hrest, List.filter_cons_of_neg (by simp [hp])]
    · rw [List.dropWhile_cons_of_neg hp, List.filter_cons_of_pos (by simp [hp])]
      have hall : (rest.filter fun b => !p b) = rest := by
        rw [List.filter_eq_self]
        intro b hb
        have hpb : ¬ p b = true := fun hpb => hp (ha b hb hpb)
        simpa using hpb
      rw [hall]

end Lists

namespace Table

variable {κ α β : Type} [Ranked κ]

private theorem mem_keys {t : Table κ α} {k : κ} : k ∈ t.keys ↔ ∃ a, t.get? k = some a := by
  simp only [keys, List.mem_map]
  constructor
  · rintro ⟨e, he, rfl⟩
    exact ⟨e.2, get?_of_mem he⟩
  · rintro ⟨a, ha⟩
    exact ⟨(k, a), mem_of_get? ha, rfl⟩

theorem mem_values {t : Table κ α} {a : α} : a ∈ t.values ↔ ∃ k, t.get? k = some a := by
  simp only [values, List.mem_map]
  constructor
  · rintro ⟨e, he, rfl⟩
    exact ⟨e.1, get?_of_mem he⟩
  · rintro ⟨k, hk⟩
    exact ⟨(k, a), mem_of_get? hk, rfl⟩

theorem isEmpty_iff {t : Table κ α} : t.isEmpty = true ↔ ∀ k, t.get? k = none := by
  rw [isEmpty, List.isEmpty_iff]
  constructor
  · intro h k
    rw [get?, h]
    rfl
  · intro h
    rw [List.eq_nil_iff_forall_not_mem]
    intro e he
    have hsome := get?_of_mem he
    rw [h] at hsome
    cases hsome

theorem keys_inOrder (t : Table κ α) : t.keys.Pairwise fun a b => rank a < rank b := by
  rw [keys, List.pairwise_map]
  exact t.inOrder

/-- A value under a new key takes one place among the values, and the others stay in order. -/
theorem values_insert_of_fresh {t : Table κ α} {k : κ} (h : t.get? k = none) (a : α) :
    ∃ before after, t.values = before ++ after ∧
      (t.insert k a).values = before ++ a :: after := by
  obtain ⟨entries, hord⟩ := t
  change ∃ before after, entries.map (·.2) = before ++ after ∧
    (insertEntry k a entries).map (·.2) = before ++ a :: after
  have hfresh : ∀ e ∈ entries, rank k ≠ rank e.1 := by
    intro e he heq
    have hsome : get? ⟨entries, hord⟩ e.1 = some e.2 := get?_of_mem he
    rw [← rank_injective heq, h] at hsome
    cases hsome
  clear hord h
  induction entries with
  | nil => exact ⟨[], [], rfl, rfl⟩
  | cons x rest ih =>
    by_cases hlt : rank k < rank x.1
    · refine ⟨[], (x :: rest).map (·.2), rfl, ?_⟩
      simp only [insertEntry, if_pos hlt]
      rfl
    · obtain ⟨before, after, hrest, hinsert⟩ := ih fun e he => hfresh e (List.mem_cons_of_mem x he)
      refine ⟨x.2 :: before, after, by rw [List.map_cons, hrest, List.cons_append], ?_⟩
      simp only [insertEntry, if_neg hlt, if_neg (hfresh x List.mem_cons_self)]
      rw [List.map_cons, hinsert, List.cons_append]

/-- Lists of keys in their order with the same members are the same. -/
theorem eq_of_inOrder {l m : List κ} (hl : l.Pairwise fun a b => rank a < rank b)
    (hm : m.Pairwise fun a b => rank a < rank b) (h : ∀ k, k ∈ l ↔ k ∈ m) : l = m := by
  have hnodup {l : List κ} (hl : l.Pairwise fun a b => rank a < rank b) : l.Nodup :=
    hl.imp fun hab hne => by
      rw [hne] at hab
      exact Nat.lt_irrefl _ hab
  have hperm : l.Perm m := (List.perm_ext_iff_of_nodup (hnodup hl) (hnodup hm)).mpr h
  refine hperm.eq_of_pairwise (fun a b _ _ hab hba => ?_) hl hm
  omega

/-- The values of some keys, looked up in the order of the keys, are all values that belong to
them, in the order of the table. -/
theorem filterMap_get?_keys {t : Table κ α} {ks : Table κ β} {p : α → Bool}
    (h : ∀ k, (∃ b, ks.get? k = some b) ↔ ∃ a, t.get? k = some a ∧ p a = true) :
    ks.keys.filterMap t.get? = t.values.filter p := by
  have hkeys : ks.keys = (t.entries.filter fun e => p e.2).map (·.1) := by
    refine eq_of_inOrder ks.keys_inOrder ?_ fun k => ?_
    · rw [List.pairwise_map]
      exact t.inOrder.filter _
    · rw [mem_keys, h]
      simp only [List.mem_map, List.mem_filter]
      constructor
      · rintro ⟨a, ha, hp⟩
        exact ⟨(k, a), ⟨mem_of_get? ha, hp⟩, rfl⟩
      · rintro ⟨e, ⟨he, hp⟩, rfl⟩
        exact ⟨e.2, get?_of_mem he, hp⟩
  have hlookup : ∀ e ∈ t.entries.filter (fun e => p e.2), (t.get? ∘ Prod.fst) e = some e.2 :=
    fun e he => get?_of_mem (List.mem_filter.mp he).1
  calc ks.keys.filterMap t.get?
      = (t.entries.filter fun e => p e.2).filterMap (t.get? ∘ Prod.fst) := by
        rw [hkeys, List.filterMap_map]
    _ = (t.entries.filter fun e => p e.2).map (·.2) := by
        rw [List.filterMap_congr hlookup]
        exact congrFun List.filterMap_eq_map _
    _ = t.values.filter p := by
        rw [values, List.filter_map]
        rfl

/-- The entries from a key on that belong to a block of keys are all of that block, if the block
starts at the key and has no gaps. -/
theorem takeWhile_startingAt {t : Table κ α} {k : κ} {p : κ → Bool}
    (hstart : ∀ l, p l = true → rank k ≤ rank l)
    (hblock : ∀ l m, rank k ≤ rank l → rank l < rank m → p m = true → p l = true) :
    (t.startingAt k).takeWhile (fun e => p e.1) = t.entries.filter fun e => p e.1 := by
  have hdrop : t.startingAt k = t.entries.filter fun e => !decide (rank e.1 < rank k) := by
    refine dropWhile_eq_filter (t.inOrder.imp fun hab hb => ?_)
    simp only [decide_eq_true_eq] at hb ⊢
    exact Nat.lt_trans hab hb
  have htake : (t.startingAt k).Pairwise fun a b => p b.1 = true → p a.1 = true := by
    rw [hdrop, List.pairwise_filter]
    refine t.inOrder.imp fun {a b} hab ha _ => hblock a.1 b.1 ?_ hab
    simpa using ha
  rw [takeWhile_eq_filter htake, hdrop, List.filter_filter]
  refine List.filter_congr fun e _ => ?_
  by_cases hp : p e.1 = true
  · have hle := hstart e.1 hp
    simpa [hp] using hle
  · simp [hp]

end Table

end Depository
