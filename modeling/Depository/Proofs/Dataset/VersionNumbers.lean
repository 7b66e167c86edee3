import Depository.Proofs.Dataset.Revision
import Depository.Proofs.Repository.Calls
import Mathlib.Data.Prod.Lex

/-!
# Version numbers

The published versions of a dataset carry numbers that rise from each to the next. A release takes
its number from the last version that is still released, and looks at none that was deaccessioned
after it. The number is new exactly if those versions leave room for it and the numbers of 32 bits
have not come to their end.
-/

namespace Depository

/-- The number of a version, the major part before the minor one. -/
def Version.number? (v : Version) : Option (Nat ×ₗ Nat) :=
  match v.versionNumber, v.minorVersionNumber with
  | some major, some minor => some (toLex (major.toNat, minor.toNat))
  | _, _ => none

private theorem Version.number?_eq_some {v : Version} {n : Nat ×ₗ Nat} (h : v.number? = some n) :
    ∃ major minor, v.versionNumber = some major ∧ v.minorVersionNumber = some minor ∧
      n = toLex (major.toNat, minor.toNat) := by
  unfold number? at h
  split at h
  · next major minor hmajor hminor =>
    cases h
    exact ⟨major, minor, hmajor, hminor, rfl⟩
  · cases h

namespace Dataset

variable {d : Dataset} {v : Version}

/-- The versions that are no drafts, in their order. -/
def published (d : Dataset) : List Version := d.versions.filter fun v => !v.isDraft

/-- Each published version has a number, which is greater than those of all before it. -/
structure Ascending (d : Dataset) : Prop where
  numbered : ∀ v ∈ d.published, ∃ n, v.number? = some n
  increasing : d.published.Pairwise fun u v =>
    ∀ m n, u.number? = some m → v.number? = some n → m < n

/-- The part of the last released number that a release raises, zero if none is released. -/
def raisedPart (minor : Bool) (d : Dataset) : UInt32 :=
  (d.released?.bind fun v => if minor then v.minorVersionNumber else v.versionNumber).getD 0

/-- The part of a number after which counting starts again. -/
def lastPart : UInt32 := 4294967295

/-- The published versions leave the number free that the next release takes. The part that is
raised must not be the last of its range. A minor release after a released version needs the last
published version not to be deaccessioned. Any other release starts a new major number, the one
after that of the last released version or the first, and no published version may have got so
far. -/
def LeavesRoom (minor : Bool) (d : Dataset) : Prop :=
  d.raisedPart minor ≠ lastPart ∧
    if minor && d.isReleased then d.isDeaccessioned = false
    else ∀ v ∈ d.published, v.versionNumber.getD 0 ≤ d.raisedPart minor

/-! ### The last published version -/

private theorem isReleased_iff_of_published (h : v.isDraft = false) :
    v.isReleased = true ↔ v.state ≠ .deaccessioned := by
  unfold Version.isDraft at h
  unfold Version.isReleased
  cases hstate : v.state with
  | draft => simp [hstate] at h
  | released => simp
  | deaccessioned => simp

private theorem released?_eq (d : Dataset) :
    d.released? = d.published.reverse.find? (·.isReleased) := by
  unfold released? published
  rw [← List.filter_reverse, List.find?_filter]
  congr 1
  funext v
  unfold Version.isReleased Version.isDraft
  cases v.state <;> rfl

private theorem released?_eq_some {r : Version} (hr : d.released? = some r) :
    r ∈ d.published ∧ r.isReleased = true := by
  rw [released?_eq] at hr
  exact ⟨List.mem_reverse.mp (List.mem_of_find?_eq_some hr), by simpa using List.find?_some hr⟩

private theorem isDeaccessioned_of_published {older : List Version} {last : Version}
    (hd : d.published = older ++ [last]) :
    d.isDeaccessioned = (last.state == .deaccessioned) := by
  unfold published at hd
  unfold isDeaccessioned
  rw [← List.head?_filter, List.filter_reverse, hd, List.head?_reverse, List.getLast?_concat,
    Option.any_some]

private theorem isDraft_of_mem_published (hv : v ∈ d.published) : v.isDraft = false := by
  simpa using (List.mem_filter.mp hv).2

private theorem Ascending.lt_of_concat (h : d.Ascending) {older : List Version} {last : Version}
    (hd : d.published = older ++ [last]) (hv : v ∈ older) {m n : Nat ×ₗ Nat}
    (hm : v.number? = some m) (hn : last.number? = some n) : m < n := by
  have hincreasing := h.increasing
  rw [hd, List.pairwise_append] at hincreasing
  exact hincreasing.2.2 v hv last (List.mem_singleton.mpr rfl) m n hm hn

/-- The last released version has the greatest number exactly if none after it was deaccessioned. -/
private theorem Ascending.forall_le_released_iff (h : d.Ascending) {r : Version}
    (hr : d.released? = some r) {n : Nat ×ₗ Nat} (hn : r.number? = some n) :
    (∀ v ∈ d.published, ∀ m, v.number? = some m → m ≤ n) ↔ d.isDeaccessioned = false := by
  obtain ⟨hmem, hreleased⟩ := released?_eq_some hr
  obtain ⟨older, last, hd⟩ : ∃ older last, d.published = older ++ [last] := by
    rcases List.eq_nil_or_concat d.published with hnone | ⟨older, last, hd⟩
    · rw [hnone] at hmem
      cases hmem
    · exact ⟨older, last, hd.trans List.concat_eq_append⟩
  have hlast : last ∈ d.published := by simp [hd]
  rw [isDeaccessioned_of_published hd, beq_eq_false_iff_ne,
    ← isReleased_iff_of_published (isDraft_of_mem_published hlast)]
  constructor
  · intro hle
    obtain ⟨m, hm⟩ := h.numbered last hlast
    by_contra hdeaccessioned
    have hne : r ≠ last := fun hsame => hdeaccessioned (hsame ▸ hreleased)
    have holder : r ∈ older := by
      rw [hd] at hmem
      simpa [hne] using hmem
    exact absurd (hle last hlast m hm) (not_le_of_gt (h.lt_of_concat hd holder hn hm))
  · intro hlastReleased v hv m hm
    have hsame : r = last := by
      rw [released?_eq, hd, List.reverse_append, List.reverse_singleton, List.singleton_append,
        List.find?_cons, hlastReleased] at hr
      exact (Option.some.inj hr).symm
    rw [hd] at hv
    rcases List.mem_append.mp hv with hv | hv
    · exact le_of_lt (h.lt_of_concat hd hv hm (hsame ▸ hn))
    · rw [List.mem_singleton.mp hv, ← hsame, hn] at hm
      exact le_of_eq (Option.some.inj hm).symm

/-! ### The next number -/

private theorem toNat_succ_part {k : UInt32} (h : k ≠ lastPart) : (k + 1).toNat = k.toNat + 1 := by
  have hne : k.toNat ≠ lastPart.toNat := fun hsame => h (UInt32.toNat_inj.mp hsame)
  have hlast : lastPart.toNat = 4294967295 := rfl
  have hbound := k.toNat_lt
  rw [UInt32.toNat_add, UInt32.toNat_one]
  omega

private theorem Ascending.forall_lt_major_iff (h : d.Ascending) (k : Nat) :
    (∀ v ∈ d.published, ∀ n, v.number? = some n → n < toLex (k + 1, 0)) ↔
      ∀ v ∈ d.published, (v.versionNumber.getD 0).toNat ≤ k := by
  have hlt (a b : Nat) : toLex (a, b) < toLex (k + 1, 0) ↔ a ≤ k := by
    rw [Prod.Lex.toLex_lt_toLex]
    dsimp only
    omega
  constructor
  · intro hall v hv
    obtain ⟨n, hn⟩ := h.numbered v hv
    obtain ⟨major, minor, hmajor, -, rfl⟩ := Version.number?_eq_some hn
    rw [hmajor]
    exact (hlt _ _).mp (hall v hv _ hn)
  · intro hle v hv n hn
    obtain ⟨major, minor, hmajor, -, rfl⟩ := Version.number?_eq_some hn
    have hmajorLe := hle v hv
    rw [hmajor] at hmajorLe
    exact (hlt _ _).mpr hmajorLe

/-- The number of a release, the major part before the minor one. -/
def releaseNumber (minor : Bool) (d : Dataset) : Nat ×ₗ Nat :=
  toLex ((d.nextNumber minor).1.toNat, (d.nextNumber minor).2.toNat)

section

variable {r : Version} {k m : UInt32}

private theorem raisedPart_of_released (hr : d.released? = some r)
    (hmajor : r.versionNumber = some k) (hminor : r.minorVersionNumber = some m) (minor : Bool) :
    d.raisedPart minor = if minor then m else k := by
  cases minor <;> simp [raisedPart, hr, hmajor, hminor]

private theorem releaseNumber_of_released (hr : d.released? = some r)
    (hmajor : r.versionNumber = some k) (hminor : r.minorVersionNumber = some m) (minor : Bool) :
    d.releaseNumber minor =
      if minor then toLex (k.toNat, (m + 1).toNat) else toLex ((k + 1).toNat, 0) := by
  cases minor <;> simp [releaseNumber, nextNumber, hr, hmajor, hminor]

/-- After the last number counting starts again at zero, which is not greater. -/
private theorem releaseNumber_le_of_last (hr : d.released? = some r)
    (hmajor : r.versionNumber = some k) (hminor : r.minorVersionNumber = some m) {minor : Bool}
    (hlast : d.raisedPart minor = lastPart) :
    d.releaseNumber minor ≤ toLex (k.toNat, m.toNat) := by
  rw [raisedPart_of_released hr hmajor hminor] at hlast
  rw [releaseNumber_of_released hr hmajor hminor]
  cases minor with
  | false =>
    obtain rfl : k = lastPart := hlast
    have hless : (lastPart + 1).toNat < lastPart.toNat := by decide
    exact Prod.Lex.toLex_le_toLex.mpr (Or.inl hless)
  | true =>
    obtain rfl : m = lastPart := hlast
    have hless : (lastPart + 1).toNat ≤ lastPart.toNat := by decide
    exact Prod.Lex.toLex_le_toLex.mpr (Or.inr ⟨rfl, hless⟩)

end

private theorem Ascending.forall_lt_releaseNumber_iff (h : d.Ascending) (minor : Bool) :
    (∀ v ∈ d.published, ∀ n, v.number? = some n → n < d.releaseNumber minor) ↔
      d.LeavesRoom minor := by
  cases hr : d.released? with
  | none =>
    have hnext : d.releaseNumber minor = toLex (0 + 1, 0) := by
      simp [releaseNumber, nextNumber, hr]
    have hpart : d.raisedPart minor = 0 := by simp [raisedPart, hr]
    rw [hnext, h.forall_lt_major_iff, LeavesRoom, hpart]
    simp [isReleased, hr, lastPart, UInt32.le_iff_toNat_le]
  | some r =>
    have hmem := (released?_eq_some hr).1
    obtain ⟨n, hn⟩ := h.numbered r hmem
    obtain ⟨k, m, hmajor, hminor, rfl⟩ := Version.number?_eq_some hn
    have hnext := releaseNumber_of_released hr hmajor hminor minor
    have hpart := raisedPart_of_released hr hmajor hminor minor
    by_cases hlast : d.raisedPart minor = lastPart
    · have hle := releaseNumber_le_of_last hr hmajor hminor hlast
      exact iff_of_false (fun hall => not_lt_of_ge hle (hall r hmem _ hn)) fun hroom =>
        hroom.1 hlast
    · rw [LeavesRoom, and_iff_right hlast]
      rw [hpart] at hlast ⊢
      rw [hnext]
      cases minor with
      | false =>
        have hsucc : (k + 1).toNat = k.toNat + 1 := toNat_succ_part hlast
        simp only [hsucc, Bool.false_and, Bool.false_eq_true, if_false, h.forall_lt_major_iff,
          UInt32.le_iff_toNat_le]
      | true =>
        have hsucc : (m + 1).toNat = m.toNat + 1 := toNat_succ_part hlast
        have hreleased : d.isReleased = true := by simp [isReleased, hr]
        simp only [hsucc, hreleased, Bool.and_true, if_true, ← h.forall_le_released_iff hr hn]
        refine forall_congr' fun v => forall_congr' fun _ => forall_congr' fun n =>
          forall_congr' fun hv => ?_
        obtain ⟨a, b, -, -, rfl⟩ := Version.number?_eq_some hv
        rw [Prod.Lex.toLex_lt_toLex, Prod.Lex.toLex_le_toLex]
        dsimp only
        omega

/-! ### The release -/

/-- A release leaves the earlier versions as they are. The number that it gives is greater than
those of all earlier versions that are published exactly if they leave room for it. -/
theorem release_numbered_last_iff (hd : d.Ascending) {time : Time.Instant} {minor : Bool}
    (h : (d.releaseDraft time minor).1 = true) :
    ∃ older draft released number, d.versions = older ++ [draft] ∧
      (d.releaseDraft time minor).2.versions = older ++ [released] ∧
      released.number? = some number ∧
      ((∀ v ∈ older, v.isDraft = false → ∀ n, v.number? = some n → n < number) ↔
        d.LeavesRoom minor) := by
  obtain ⟨draft, hlast⟩ : ∃ draft, d.draft? = some draft := by
    rw [← Option.ne_none_iff_exists']
    intro hnone
    rw [releaseDraft_of_none hnone] at h
    cases h
  obtain ⟨hdraft, older, hversions⟩ := draft?_eq_some hlast
  rw [releaseDraft_of_draft hdraft hversions]
  refine ⟨older, draft, d.releasedDraft time minor draft, _, hversions, rfl, rfl, ?_⟩
  rw [← hd.forall_lt_releaseNumber_iff minor, releaseNumber]
  have hpublished (v : Version) : v ∈ d.published ↔ v ∈ older ∧ v.isDraft = false := by
    simp only [published, hversions, List.filter_append, List.mem_append, List.mem_filter,
      List.mem_singleton, Bool.not_eq_true']
    constructor
    · rintro (hv | ⟨rfl, hv⟩)
      · exact hv
      · rw [hdraft] at hv
        cases hv
    · exact Or.inl
  simp only [hpublished, and_imp]

/-! ### Deaccessioned versions -/

open Repository (emptyWorld titledDraft)

private theorem ascending_of_numbers (numbers : List (Nat ×ₗ Nat))
    (hnumbers : d.published.map (·.number?) = numbers.map some)
    (hincreasing : numbers.Pairwise (· < ·)) : d.Ascending := by
  constructor
  · intro v hv
    have hmem : v.number? ∈ numbers.map some := hnumbers ▸ List.mem_map_of_mem hv
    obtain ⟨n, -, hn⟩ := List.mem_map.mp hmem
    exact ⟨n, hn.symm⟩
  · have hpairs : (d.published.map (·.number?)).Pairwise fun a b =>
        ∀ m n, a = some m → b = some n → m < n := by
      rw [hnumbers, List.pairwise_map]
      exact hincreasing.imp fun hlt m n hm hn => Option.some.inj hm ▸ Option.some.inj hn ▸ hlt
    exact List.pairwise_map.mp hpairs

/-- The dataset with its last version deaccessioned, and a new draft. -/
def withdrawLast (d : Dataset) : Dataset :=
  ((d.mapLatest fun v => { v with state := .deaccessioned }).openDraft (emptyWorld.ids.drop 20)).1

def firstRelease : Dataset := (titledDraft.releaseDraft .epoch false).2

/-- Version 1.0 released and version 1.1 deaccessioned. -/
def withdrawnMinor : Dataset :=
  withdrawLast ((firstRelease.openDraft (emptyWorld.ids.drop 10)).1.releaseDraft .epoch true).2

/-- The next release is 2.0, although the last version is deaccessioned. -/
theorem release_numbered_last_of_withdrawn :
    withdrawnMinor.Ascending ∧ (withdrawnMinor.releaseDraft .epoch false).1 = true ∧
      withdrawnMinor.isDeaccessioned = true ∧
      ∃ older draft released number, withdrawnMinor.versions = older ++ [draft] ∧
        (withdrawnMinor.releaseDraft .epoch false).2.versions = older ++ [released] ∧
        older.map (·.number?) = [some (toLex (1, 0)), some (toLex (1, 1))] ∧
        released.number? = some number ∧
        ∀ v ∈ older, v.isDraft = false → ∀ n, v.number? = some n → n < number := by
  have hascending : withdrawnMinor.Ascending :=
    ascending_of_numbers [toLex (1, 0), toLex (1, 1)] rfl (by decide)
  have hroom : withdrawnMinor.LeavesRoom false := by
    unfold LeavesRoom
    decide
  have hdone : (withdrawnMinor.releaseDraft .epoch false).1 = true := rfl
  obtain ⟨older, draft, released, number, hversions, hreleased, hnumber, hgreater⟩ :=
    release_numbered_last_iff hascending hdone
  have holder : older = withdrawnMinor.versions.dropLast := by rw [hversions, List.dropLast_concat]
  exact ⟨hascending, rfl, rfl, older, draft, released, number, hversions, hreleased,
    by rw [holder]; rfl, hnumber, hgreater.mpr hroom⟩

def withdrawn : Dataset := withdrawLast firstRelease

/-- No version is released any more, so a release of either kind is 1.0 again. -/
theorem number_given_again :
    withdrawn.Ascending ∧
      (∀ minor, (withdrawn.releaseDraft .epoch minor).1 = true ∧
        (withdrawn.releaseDraft .epoch minor).2.versions.map (·.number?) =
          [some (toLex (1, 0)), some (toLex (1, 0))]) ∧
      ¬ ∀ (d : Dataset) (time : Time.Instant) (minor : Bool), d.Ascending →
        (d.releaseDraft time minor).1 = true →
          ∃ older draft released number, d.versions = older ++ [draft] ∧
            (d.releaseDraft time minor).2.versions = older ++ [released] ∧
            released.number? = some number ∧
            ∀ v ∈ older, v.isDraft = false → ∀ n, v.number? = some n → n < number := by
  have hascending : withdrawn.Ascending :=
    ascending_of_numbers [toLex (1, 0)] rfl (by decide)
  have hnumbers (minor : Bool) : (withdrawn.releaseDraft .epoch minor).2.versions.map
      (·.number?) = [some (toLex (1, 0)), some (toLex (1, 0))] := by cases minor <;> rfl
  refine ⟨hascending, fun minor => ⟨rfl, hnumbers minor⟩, ?_⟩
  intro h
  obtain ⟨older, draft, released, number, hversions, hreleased, hnumber, hgreater⟩ :=
    h withdrawn .epoch false hascending rfl
  have holder : older = withdrawn.versions.dropLast := by rw [hversions, List.dropLast_concat]
  have hfirst : older.map (·.number?) = [some (toLex (1, 0))] := by rw [holder]; rfl
  have hall := hnumbers false
  rw [hreleased, List.map_append, hfirst, List.map_singleton, hnumber] at hall
  obtain rfl : number = toLex (1, 0) := by simpa using hall
  have hmem : some (toLex (1, 0)) ∈ older.map (·.number?) := by simp [hfirst]
  obtain ⟨v, hv, hone⟩ := List.mem_map.mp hmem
  have hpublished : v.isDraft = false := by
    have hstates : ∀ u ∈ withdrawn.versions.dropLast, u.isDraft = false := by decide
    exact hstates v (holder ▸ hv)
  exact lt_irrefl _ (hgreater v hv hpublished _ hone)

end Dataset

end Depository
