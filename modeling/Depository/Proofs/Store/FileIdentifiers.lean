import Depository.Proofs.Store.Lookups

/-!
# Identifiers of files

A commit asks whether the identifier of its dataset is free, and does not ask this of the
identifiers of the files that come with it. So the identifiers of files stay apart exactly as long
as nothing is stored whose files break this.
-/

namespace Depository

namespace Store

/-- No file has the identifier of a dataset or of another file. -/
structure FilesApart (s : Store) : Prop where
  fromDatasets : ∀ id d id' e, s.findDataset? id = some d → s.findDataset? id' = some e →
    ∀ g ∈ d.fileIdentifiers, e.globalId ≠ some g
  within : ∀ id d, s.findDataset? id = some d → d.fileIdentifiers.Nodup
  across : ∀ id d id' e, s.findDataset? id = some d → s.findDataset? id' = some e → id ≠ id' →
    ∀ g ∈ d.fileIdentifiers, g ∉ e.fileIdentifiers

/-- The files of a unit of work have different identifiers, none of them that of their dataset or
one that is used outside of it. -/
structure GivesApart (s : Store) (w : UnitOfWork) : Prop where
  within : w.dataset.fileIdentifiers.Nodup
  own : ∀ g ∈ w.dataset.fileIdentifiers, w.dataset.globalId ≠ some g
  unused : ∀ g ∈ w.dataset.fileIdentifiers, s.identifierInUse g (some w.dataset.id) = false

private theorem filesApart_empty (hasSequence : Bool) : (Store.empty hasSequence).FilesApart := by
  refine ⟨fun id d id' e hd => ?_, fun id d hd => ?_, fun id d id' e hd => ?_⟩ <;> cases hd

private theorem givesApart_of_filesApart {s : Store} {w : UnitOfWork} (hs : s.Unambiguous)
    (h : (s.applyWork w).FilesApart) : s.GivesApart w := by
  have hstored : (s.applyWork w).findDataset? w.dataset.id = some w.dataset := by simp
  refine ⟨h.within _ _ hstored, ?_, ?_⟩
  · intro g hg
    exact h.fromDatasets _ _ _ _ hstored hstored g hg
  · intro g hg
    rw [identifierInUse_eq_false_iff]
    intro id e he hne
    -- Another dataset is still stored after the commit.
    have hid : id ≠ w.dataset.id := by
      rintro rfl
      rw [hs.keyed _ e he] at hne
      exact hne rfl
    have hkept : (s.applyWork w).findDataset? id = some e := by simp [hid, he]
    by_contra hused
    rw [Bool.not_eq_false, uses_eq_true_iff] at hused
    rcases hused with hdataset | hfile
    · exact h.fromDatasets _ _ _ _ hstored hkept g hg hdataset
    · exact h.across _ _ _ _ hstored hkept (Ne.symm hid) g hg hfile

theorem FilesApart.applyWork {s : Store} {w : UnitOfWork} (h : s.FilesApart) (hs : s.Unambiguous)
    (ha : s.Admits w) (hw : s.GivesApart w) : (s.applyWork w).FilesApart := by
  have ht : (s.applyWork w).datasets = s.datasets.insert w.dataset.id w.dataset := rfl
  refine ⟨?_, ?_, ?_⟩
  · intro id d id' e hd he g hg
    rcases of_findDataset?_insert ht hd with ⟨-, rfl⟩ | ⟨hid, hd⟩
    · rcases of_findDataset?_insert ht he with ⟨-, rfl⟩ | ⟨hid', he⟩
      · exact hw.own g hg
      · exact (hs.not_used (hw.unused g hg) he hid').1
    · rcases of_findDataset?_insert ht he with ⟨-, rfl⟩ | ⟨-, he⟩
      · -- This is what the commit itself asks.
        intro hown
        exact (hs.not_used (ha.unused g hown) hd hid).2 hg
      · exact h.fromDatasets id d id' e hd he g hg
  · intro id d hd
    rcases of_findDataset?_insert ht hd with ⟨-, rfl⟩ | ⟨-, hd⟩
    · exact hw.within
    · exact h.within id d hd
  · intro id d id' e hd he hne g hg
    rcases of_findDataset?_insert ht hd with ⟨hid, rfl⟩ | ⟨hid, hd⟩
    · rcases of_findDataset?_insert ht he with ⟨hid', -⟩ | ⟨hid', he⟩
      · exact absurd (hid.trans hid'.symm) hne
      · exact (hs.not_used (hw.unused g hg) he hid').2
    · rcases of_findDataset?_insert ht he with ⟨-, rfl⟩ | ⟨-, he⟩
      · intro hshared
        exact (hs.not_used (hw.unused g hshared) hd hid).2 hg
      · exact h.across id d id' e hd he hne g hg

theorem Unambiguous.offer {s : Store} (h : s.Unambiguous) (w : UnitOfWork) :
    (s.offer w).Unambiguous := by
  by_cases ha : s.Admits w
  · rw [offer_of_admits ha]
    exact h.insert_of_admits ha rfl
  · rw [offer_of_not_admits ha]
    exact h

theorem Unambiguous.offerAll {s : Store} (h : s.Unambiguous) (works : List UnitOfWork) :
    (s.offerAll works).Unambiguous := by
  induction works generalizing s with
  | nil => exact h
  | cons w rest ih => exact ih (h.offer w)

/-- In whatever order units of work reach a store that began empty, no file ever has the identifier
of a dataset or of another file exactly if every unit of work that is stored came with files whose
identifiers are different, not that of their dataset, and free in the rest of the store. -/
theorem file_identifiers_apart_iff (hasSequence : Bool) (works : List UnitOfWork) :
    (∀ n, ((Store.empty hasSequence).offerAll (works.take n)).FilesApart) ↔
      ∀ n w, works[n]? = some w →
        ((Store.empty hasSequence).offerAll (works.take n)).Admits w →
        ((Store.empty hasSequence).offerAll (works.take n)).GivesApart w := by
  have hs (n : Nat) := (unambiguous_empty hasSequence).offerAll (works.take n)
  constructor
  · intro happart n w hn ha
    have hnext := happart (n + 1)
    rw [offerAll_take_succ hn, offer_of_admits ha] at hnext
    exact givesApart_of_filesApart (hs n) hnext
  · intro hworks n
    induction n with
    | zero => exact filesApart_empty hasSequence
    | succ n ih =>
      cases hn : works[n]? with
      | none => rwa [offerAll_take_succ_of_none hn]
      | some w =>
        rw [offerAll_take_succ hn]
        by_cases ha : ((Store.empty hasSequence).offerAll (works.take n)).Admits w
        · rw [offer_of_admits ha]
          exact ih.applyWork (hs n) ha (hworks n w hn ha)
        · rwa [offer_of_not_admits ha]

/-! ### A file that takes an identifier -/

def identifiedChart : DataFile := { chart with globalId := some tideIdentifier }

/-- Two datasets are stored whose files have one identifier, and so is a dataset with a file that
has the identifier of another dataset, which in the other order is refused. -/
theorem file_identifier_shared :
    let tides := tidesWith [identifiedChart]
    let waves := { otherDataset with files := [{ identifiedChart with id := ⟨⟨5⟩⟩ }] }
    let named := { tidesWith [] with globalId := some tideIdentifier }
    ¬ ((Store.empty true).offerAll [.merge tides, .merge waves]).FilesApart ∧
      ¬ ((Store.empty true).offerAll [.merge named, .merge waves]).FilesApart ∧
      ((Store.empty true).offerAll [.merge waves, .merge named]).findDataset? named.id = none := by
  intro tides waves named
  refine ⟨?_, ?_, ?_⟩
  · intro h
    exact h.across ⟨⟨1⟩⟩ tides ⟨⟨4⟩⟩ waves (by decide +kernel) (by decide +kernel) (by decide)
      tideIdentifier (by decide) (by decide)
  · intro h
    exact h.fromDatasets ⟨⟨4⟩⟩ waves ⟨⟨1⟩⟩ named (by decide +kernel) (by decide +kernel)
      tideIdentifier (by decide) rfl
  · decide +kernel

end Store

end Depository
