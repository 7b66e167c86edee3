/-!
# Tables

Finite maps whose entries stand in the order of their keys, each key once. Keys are ordered by
a number that is different for different keys.
-/

namespace Depository

/-- Keys that are ordered by a number of their own. -/
class Ranked (κ : Type) where
  rank : κ → Nat
  rank_injective : ∀ {a b : κ}, rank a = rank b → a = b

open Ranked (rank rank_injective)

/-- Whether the entries of a list stand in the order of their keys, each key once. -/
def InOrder {κ α : Type} [Ranked κ] (entries : List (κ × α)) : Prop :=
  entries.Pairwise fun a b => rank a.1 < rank b.1

/-- A finite map with its entries in the order of their keys. -/
structure Table (κ α : Type) [Ranked κ] where
  entries : List (κ × α)
  inOrder : InOrder entries

namespace Table

variable {κ α : Type} [Ranked κ]

/-- Puts an entry in its place, or in place of the one with its key. -/
def insertEntry (k : κ) (a : α) : List (κ × α) → List (κ × α)
  | [] => [(k, a)]
  | e :: rest =>
    if rank k < rank e.1 then (k, a) :: e :: rest
    else if rank k = rank e.1 then (k, a) :: rest
    else e :: insertEntry k a rest

def lookupEntry (k : κ) (entries : List (κ × α)) : Option α :=
  (entries.find? fun e => rank e.1 == rank k).map (·.2)

theorem mem_insertEntry {k : κ} {a : α} {entries : List (κ × α)} {e : κ × α}
    (h : e ∈ insertEntry k a entries) : e = (k, a) ∨ e ∈ entries := by
  induction entries with
  | nil => simpa [insertEntry] using h
  | cons x rest ih =>
    simp only [insertEntry] at h
    split at h
    · simpa using h
    · split at h
      · simp only [List.mem_cons] at h
        rcases h with h | h <;> simp [h]
      · simp only [List.mem_cons] at h
        rcases h with h | h
        · simp [h]
        · rcases ih h with h | h <;> simp [h]

theorem inOrder_insertEntry {k : κ} {a : α} {entries : List (κ × α)} (h : InOrder entries) :
    InOrder (insertEntry k a entries) := by
  induction entries with
  | nil => simp [insertEntry, InOrder]
  | cons x rest ih =>
    have hrest : InOrder rest := List.Pairwise.of_cons h
    have hx : ∀ e ∈ rest, rank x.1 < rank e.1 := fun _ he => List.rel_of_pairwise_cons h he
    simp only [insertEntry]
    split
    · next hlt =>
      refine List.pairwise_cons.2 ⟨fun e he => ?_, h⟩
      rcases List.mem_cons.1 he with rfl | he
      · exact hlt
      · exact Nat.lt_trans hlt (hx e he)
    · split
      · next heq =>
        refine List.pairwise_cons.2 ⟨fun e he => ?_, hrest⟩
        simpa [heq] using hx e he
      · refine List.pairwise_cons.2 ⟨fun e he => ?_, ih hrest⟩
        rcases mem_insertEntry he with rfl | he
        · show rank x.1 < rank k
          omega
        · exact hx e he

def empty : Table κ α := ⟨[], List.Pairwise.nil⟩

instance : Inhabited (Table κ α) := ⟨empty⟩

/-- The value under a key. -/
def get? (t : Table κ α) (k : κ) : Option α := lookupEntry k t.entries

/-- The table with a value under a key, in place of any other. -/
def insert (t : Table κ α) (k : κ) (a : α) : Table κ α :=
  ⟨insertEntry k a t.entries, inOrder_insertEntry t.inOrder⟩

/-- The table without a key. -/
def erase (t : Table κ α) (k : κ) : Table κ α :=
  ⟨t.entries.filter fun e => rank e.1 != rank k, t.inOrder.filter _⟩

/-- The values in the order of their keys. -/
def values (t : Table κ α) : List α := t.entries.map (·.2)

def keys (t : Table κ α) : List κ := t.entries.map (·.1)

/-- The entries from a key on. -/
def startingAt (t : Table κ α) (k : κ) : List (κ × α) :=
  t.entries.dropWhile fun e => rank e.1 < rank k

def contains (t : Table κ α) (k : κ) : Bool := (t.get? k).isSome

def isEmpty (t : Table κ α) : Bool := t.entries.isEmpty

theorem get?_empty (k : κ) : (empty : Table κ α).get? k = none := rfl

private theorem lookup_insertEntry {k l : κ} {a : α} {entries : List (κ × α)} :
    lookupEntry l (insertEntry k a entries) =
      if rank l = rank k then some a else lookupEntry l entries := by
  induction entries with
  | nil =>
    by_cases h : rank l = rank k
    · simp [insertEntry, lookupEntry, h]
    · have : ¬ rank k = rank l := fun e => h e.symm
      simp [insertEntry, lookupEntry, h, this]
  | cons x rest ih =>
    simp only [insertEntry]
    split
    · by_cases h : rank l = rank k
      · simp [lookupEntry, h]
      · have : ¬ rank k = rank l := fun e => h e.symm
        simp [lookupEntry, h, this]
    · split
      · next heq =>
        by_cases h : rank l = rank k
        · simp [lookupEntry, h]
        · have h1 : ¬ rank k = rank l := fun e => h e.symm
          have h2 : ¬ rank x.1 = rank l := fun e => h1 (heq.trans e)
          simp [lookupEntry, h, h1, h2]
      · next hne =>
        by_cases hx : rank x.1 = rank l
        · have h : ¬ rank l = rank k := fun e => hne (e.symm.trans hx.symm)
          simp [lookupEntry, hx, h]
        · have step (es : List (κ × α)) : lookupEntry l (x :: es) = lookupEntry l es := by
            simp [lookupEntry, hx]
          rw [step, step, ih]

/-- A lookup after an insertion. -/
theorem get?_insert [DecidableEq κ] (t : Table κ α) (k l : κ) (a : α) :
    (t.insert k a).get? l = if l = k then some a else t.get? l := by
  show lookupEntry l (insertEntry k a t.entries) = _
  rw [lookup_insertEntry]
  by_cases h : l = k
  · simp [h]
  · have : ¬ rank l = rank k := fun e => h (rank_injective e)
    simp [h, this, get?]

/-- A lookup after a removal. -/
theorem get?_erase [DecidableEq κ] (t : Table κ α) (k l : κ) :
    (t.erase k).get? l = if l = k then none else t.get? l := by
  simp only [get?, erase, lookupEntry, List.find?_filter]
  by_cases h : l = k
  · subst h
    simp
  · have hne : ¬ rank l = rank k := fun e => h (rank_injective e)
    simp only [h, if_false]
    congr 1
    congr 1
    funext e
    by_cases he : rank e.1 = rank l
    · simp [he, hne]
    · simp [he]

/-- An entry of a table is found under its key. -/
theorem get?_of_mem {t : Table κ α} {k : κ} {a : α} (h : (k, a) ∈ t.entries) :
    t.get? k = some a := by
  obtain ⟨entries, hord⟩ := t
  show lookupEntry k entries = some a
  induction entries with
  | nil => simp at h
  | cons x rest ih =>
    rcases List.mem_cons.1 h with rfl | h
    · simp [lookupEntry]
    · have hlt : rank x.1 < rank k := List.rel_of_pairwise_cons hord h
      have hne : ¬ rank x.1 = rank k := by omega
      have := ih (List.Pairwise.of_cons hord) h
      simpa [lookupEntry, hne] using this

theorem mem_of_get? {t : Table κ α} {k : κ} {a : α} (h : t.get? k = some a) :
    (k, a) ∈ t.entries := by
  obtain ⟨e, he, rfl⟩ := Option.map_eq_some_iff.1 h
  have hrank := List.find?_some he
  have hk : e.1 = k := rank_injective (by simpa using hrank)
  subst hk
  exact List.mem_of_find?_eq_some he

end Table

/-- A set of keys in their order. -/
abbrev KeySet (κ : Type) [Ranked κ] := Table κ Unit

end Depository
