import Depository.Dataset.Fingerprint
import Mathlib.Data.Multiset.Filter
import Mathlib.Data.Multiset.AddSub

/-!
# Canonical fingerprints

The fingerprint of a version is a function of a multiset: of the fingerprints carried by the files
that its records refer to. Nothing of that multiset is lost before the bytes are hashed. The texts
are put in order, and each is closed by a zero, which no character but the null character has among
its bytes.
-/

namespace Depository

/-! ## The bytes of a text -/

private theorem toList_loop (bytes : ByteArray) (i : Nat) (done : List UInt8) :
    ByteArray.toList.loop bytes i done = done.reverse ++ bytes.data.toList.drop i := by
  fun_induction ByteArray.toList.loop bytes i done with
  | case1 i done h ih =>
    have hi : i < bytes.data.toList.length := by simpa using h
    rw [ih, List.drop_eq_getElem_cons hi]
    simp [ByteArray.get!, h]
  | case2 i done h =>
    rw [List.drop_eq_nil_of_le (by simpa using Nat.le_of_not_lt h), List.append_nil]

private theorem toList_eq_data (bytes : ByteArray) : bytes.toList = bytes.data.toList := by
  rw [ByteArray.toList, toList_loop]
  rfl

private theorem toUTF8_toList (s : String) :
    s.toUTF8.toList = s.toList.flatMap String.utf8EncodeChar := by
  conv_lhs => rw [← String.ofList_toList (s := s)]
  rw [toList_eq_data, String.toUTF8_eq_toByteArray]
  exact List.toList_data_toByteArray

private theorem toUTF8_toList_injective : Function.Injective fun s : String => s.toUTF8.toList := by
  intro s t h
  simp only [toList_eq_data, String.toUTF8_eq_toByteArray] at h
  exact String.toByteArray_inj.mp (ByteArray.ext (Array.toList_inj.mp h))

private theorem ofNat_ne_zero {n : Nat} (hpos : 0 < n) (hlt : n < 256) :
    (0 : UInt8) ≠ UInt8.ofNat n := by
  intro h
  have htoNat := congrArg UInt8.toNat h
  rw [UInt8.toNat_ofNat', Nat.mod_eq_of_lt hlt] at htoNat
  exact hpos.ne htoNat

/-- Only the null character has a zero byte: where a character takes several bytes, each has its
highest bit set. -/
private theorem zero_mem_utf8EncodeChar {c : Char} (h : (0 : UInt8) ∈ String.utf8EncodeChar c) :
    c = '\x00' := by
  have hlead (n k offset : Nat) (hk : 0 < k) (hoffset : 0 < offset) (hfits : k + offset ≤ 256) :
      (0 : UInt8) ≠ UInt8.ofNat (n % k + offset) := by
    have hmod := Nat.mod_lt n hk
    exact ofNat_ne_zero (by omega) (by omega)
  rw [String.utf8EncodeChar] at h
  split at h
  · rename_i hascii
    by_cases hnull : c.val.toNat = 0
    · exact Char.ext (UInt32.toNat_inj.mp hnull)
    · exact absurd (List.mem_singleton.mp h) (ofNat_ne_zero (by omega) (by omega))
  · exfalso
    repeat' split at h
    all_goals
      simp (disch := decide) only [List.mem_cons, List.not_mem_nil, hlead, or_false] at h

/-- A text without null characters has no zero among its bytes. -/
private theorem zero_notMem_toUTF8 {s : String} (h : '\x00' ∉ s.toList) :
    (0 : UInt8) ∉ s.toUTF8.toList := by
  rw [toUTF8_toList, List.mem_flatMap]
  rintro ⟨c, hc, hzero⟩
  exact h (zero_mem_utf8EncodeChar hzero ▸ hc)

/-! ## Texts closed by zeros -/

/-- Where an element that neither list in front has comes first, both end there. -/
private theorem append_cons_inj {α : Type} {a : α} {xs ys xs' ys' : List α} (hxs : a ∉ xs)
    (hys : a ∉ ys) (h : xs ++ a :: xs' = ys ++ a :: ys') : xs = ys ∧ xs' = ys' := by
  obtain ⟨between, hbetween, hrest⟩ | ⟨between, hbetween, hrest⟩ := List.append_eq_append_iff.mp h
  · cases between with
    | nil => exact ⟨by simpa using hbetween.symm, by simpa using hrest⟩
    | cons b between =>
      rw [List.cons_append, List.cons.injEq] at hrest
      simp [hbetween, ← hrest.1] at hys
  · cases between with
    | nil => exact ⟨by simpa using hbetween, by simpa using hrest.symm⟩
    | cons b between =>
      rw [List.cons_append, List.cons.injEq] at hrest
      simp [hbetween, ← hrest.1] at hxs

/-- Texts without null characters can be told apart again once each is closed by a zero, be one of
them empty or the beginning of another. -/
private theorem closed_texts_inj {ss ts : List String} (hss : ∀ s ∈ ss, '\x00' ∉ s.toList)
    (hts : ∀ t ∈ ts, '\x00' ∉ t.toList)
    (h : (ss.flatMap fun s => s.toUTF8.toList ++ [0]) =
      ts.flatMap fun t => t.toUTF8.toList ++ [0]) : ss = ts := by
  induction ss generalizing ts with
  | nil =>
    cases ts with
    | nil => rfl
    | cons t ts => simp at h
  | cons s ss ih =>
    cases ts with
    | nil => simp at h
    | cons t ts =>
      obtain ⟨hs, hss⟩ := List.forall_mem_cons.mp hss
      obtain ⟨ht, hts⟩ := List.forall_mem_cons.mp hts
      simp only [List.flatMap_cons, List.append_assoc, List.singleton_append] at h
      obtain ⟨hfirst, hrest⟩ :=
        append_cons_inj (zero_notMem_toUTF8 hs) (zero_notMem_toUTF8 ht) h
      rw [toUTF8_toList_injective hfirst, ih hss hts hrest]

/-- In order, the same texts are the same list. -/
private theorem mergeSort_eq_iff_perm {ss ts : List String} :
    ss.mergeSort (· ≤ ·) = ts.mergeSort (· ≤ ·) ↔ ss.Perm ts := by
  constructor
  · intro h
    exact (List.mergeSort_perm ss _).symm.trans (h ▸ List.mergeSort_perm ts _)
  · intro h
    have htrans (r s t : String) (hrs : decide (r ≤ s) = true) (hst : decide (s ≤ t) = true) :
        decide (r ≤ t) = true :=
      decide_eq_true (String.le_trans (of_decide_eq_true hrs) (of_decide_eq_true hst))
    have htotal (s t : String) : (decide (s ≤ t) || decide (t ≤ s)) = true := by
      simpa using String.le_total s t
    have hsorted (us : List String) : (us.mergeSort (· ≤ ·)).Pairwise (· ≤ ·) :=
      (List.pairwise_mergeSort htrans htotal us).imp of_decide_eq_true
    refine List.Perm.eq_of_pairwise (fun s t _ _ => String.le_antisymm) (hsorted ss) (hsorted ts) ?_
    exact (List.mergeSort_perm ss _).trans (h.trans (List.mergeSort_perm ts _).symm)

private theorem fingerprintBytes_of_perm {ss ts : List String} (h : ss.Perm ts) :
    fingerprintBytes ss = fingerprintBytes ts := by
  rw [fingerprintBytes, mergeSort_eq_iff_perm.mpr h, fingerprintBytes]

/-- The bytes determine the texts up to their order. -/
private theorem perm_of_fingerprintBytes {ss ts : List String} (hss : ∀ s ∈ ss, '\x00' ∉ s.toList)
    (hts : ∀ t ∈ ts, '\x00' ∉ t.toList) (h : fingerprintBytes ss = fingerprintBytes ts) :
    ss.Perm ts := by
  refine mergeSort_eq_iff_perm.mp (closed_texts_inj ?_ ?_ h)
  · exact fun s hs => hss s ((List.mergeSort_perm ss _).mem_iff.mp hs)
  · exact fun t ht => hts t ((List.mergeSort_perm ts _).mem_iff.mp ht)

/-! ## Fingerprints of versions -/

namespace Version

variable {files files' : List DataFile} {u v : Version}

/-- The fingerprints of the files that the records of a version refer to, once for each record;
records of unknown files and files without a fingerprint do not count. -/
def carried (files : List DataFile) (v : Version) : Multiset String :=
  (v.fileMetadata : Multiset FileMetadata).filterMap fun r =>
    (files.find? fun f => f.id == r.dataFile).bind (·.unf)

private theorem coe_fileFingerprints (files : List DataFile) (v : Version) :
    (v.fileFingerprints files : Multiset String) = v.carried files := by
  rw [carried, Multiset.filterMap_coe, fileFingerprints, List.filterMap_filterMap]

private theorem mem_carried {s : String} : s ∈ v.carried files ↔ s ∈ v.fileFingerprints files := by
  rw [← coe_fileFingerprints, Multiset.mem_coe]

private theorem carried_eq_iff :
    u.carried files = v.carried files' ↔
      (u.fileFingerprints files).Perm (v.fileFingerprints files') := by
  rw [← coe_fileFingerprints, ← coe_fileFingerprints, Multiset.coe_eq_coe]

private theorem find?_id_of_perm (h : files.Perm files') (hids : (files.map (·.id)).Nodup)
    (x : DataFileId) : (files.find? fun f => f.id == x) = files'.find? fun f => f.id == x := by
  induction h with
  | nil => rfl
  | cons f _ ih => rw [List.find?_cons, List.find?_cons, ih (List.nodup_cons.mp hids).2]
  | swap f g rest =>
    have hne : g.id ≠ f.id := fun h => (List.nodup_cons.mp hids).1 (by simp [h])
    by_cases hf : f.id = x
    · simp [hf, hf ▸ hne]
    · simp [List.find?_cons, hf]
  | trans h _ ih ih' => exact (ih hids).trans (ih' ((h.map _).nodup_iff.mp hids))

/-- Neither the order of the records matters nor, where no two files have one identity, that of the
files. -/
private theorem carried_of_perm (hrecords : u.fileMetadata.Perm v.fileMetadata)
    (hfiles : files.Perm files')
    (hids : (files.map (·.id)).Nodup) : u.carried files = v.carried files' := by
  simp only [carried, Multiset.coe_eq_coe.mpr hrecords, find?_id_of_perm hfiles hids]

/-- The bytes of which the digest in the fingerprint of a version is taken. -/
def digested (files : List DataFile) (v : Version) : List UInt8 :=
  fingerprintBytes (v.fileFingerprints files)

private theorem fingerprint?_eq (files : List DataFile) (v : Version) :
    v.fingerprint? files = if v.carried files = 0 then none
      else some ("UNF:6:" ++ Digest.base64 (Digest.sha256 (v.digested files))) := by
  rw [← coe_fileFingerprints, fingerprint?, digested]
  cases v.fileFingerprints files with
  | nil => rfl
  | cons s rest => rw [if_neg (by simp)]

private theorem digested_of_carried (h : u.carried files = v.carried files') :
    u.digested files = v.digested files' :=
  fingerprintBytes_of_perm (carried_eq_iff.mp h)

private theorem carried_of_digested
    (hnull : ∀ s ∈ u.carried files + v.carried files', '\x00' ∉ s.toList)
    (h : u.digested files = v.digested files') : u.carried files = v.carried files' := by
  refine carried_eq_iff.mpr (perm_of_fingerprintBytes ?_ ?_ h)
  · exact fun s hs => hnull s (Multiset.mem_add.mpr (.inl (mem_carried.mpr hs)))
  · exact fun s hs => hnull s (Multiset.mem_add.mpr (.inr (mem_carried.mpr hs)))

/-- The fingerprint of a version is canonical: it depends on nothing but the multiset of the
fingerprints that its files carry, there is none exactly where that multiset is empty, and the bytes
of which the digest is taken determine the multiset, unless one of its texts has a null character.
The multiset in turn depends neither on the order of the records nor on that of the files. -/
theorem fingerprint_canonical (files files' : List DataFile) (u v : Version) :
    (u.fileMetadata.Perm v.fileMetadata → files.Perm files' → (files.map (·.id)).Nodup →
      u.carried files = v.carried files') ∧
    (u.carried files = v.carried files' → u.fingerprint? files = v.fingerprint? files') ∧
    (v.fingerprint? files = none ↔ v.carried files = 0) ∧
    (v.carried files ≠ 0 → v.fingerprint? files =
      some ("UNF:6:" ++ Digest.base64 (Digest.sha256 (v.digested files)))) ∧
    ((∀ s ∈ u.carried files + v.carried files', '\x00' ∉ s.toList) →
      u.digested files = v.digested files' → u.carried files = v.carried files') := by
  refine ⟨carried_of_perm, ?_, ?_, ?_, carried_of_digested⟩
  · intro h
    rw [fingerprint?_eq, fingerprint?_eq, h, digested_of_carried h]
  · rw [fingerprint?_eq]
    split <;> simp [*]
  · intro h
    rw [fingerprint?_eq, if_neg h]

/-- Four files, three of them tabular: one fingerprint is empty, one the beginning of another. -/
def gauges : List DataFile :=
  [{ DataFile.new ⟨⟨11⟩⟩ "text/csv" 1 "a" with unf := some "UNF:6" },
    { DataFile.new ⟨⟨12⟩⟩ "text/csv" 1 "b" with unf := some "UNF:6:a" },
    { DataFile.new ⟨⟨13⟩⟩ "text/csv" 1 "c" with unf := some "" },
    DataFile.new ⟨⟨14⟩⟩ "image/png" 1 "d"]

/-- A draft with one record of each of the given files. -/
def recording (files : List DataFileId) : Version :=
  { Version.draft ⟨⟨2⟩⟩ with
    fileMetadata := files.mapIdx fun i x => FileMetadata.new ⟨⟨.ofNat 128 (21 + i)⟩⟩ x "record" }

/-- Records and files in another order and an unknown file in the place of an untabular one; an
empty fingerprint more; and no fingerprint at all. -/
theorem fingerprint_canonical_when_reordered :
    (recording [⟨⟨11⟩⟩, ⟨⟨12⟩⟩, ⟨⟨13⟩⟩, ⟨⟨11⟩⟩, ⟨⟨14⟩⟩]).fingerprint? gauges =
      (recording [⟨⟨13⟩⟩, ⟨⟨99⟩⟩, ⟨⟨11⟩⟩, ⟨⟨11⟩⟩, ⟨⟨12⟩⟩]).fingerprint? gauges.reverse ∧
    (recording [⟨⟨11⟩⟩, ⟨⟨13⟩⟩]).digested gauges ≠ (recording [⟨⟨11⟩⟩]).digested gauges ∧
    (recording [⟨⟨14⟩⟩, ⟨⟨99⟩⟩]).fingerprint? gauges = none := by
  refine ⟨?_, ?_, ?_⟩
  · exact (fingerprint_canonical gauges gauges.reverse _ _).2.1 (by decide +kernel)
  · intro h
    have hcarried := (fingerprint_canonical gauges gauges _ _).2.2.2.2 (by decide +kernel) h
    exact absurd hcarried (by decide +kernel)
  · exact (fingerprint_canonical gauges gauges (recording []) _).2.2.1.mpr (by decide +kernel)

/-- With null characters, one text can look like two. -/
example : fingerprintBytes ["a\x00b"] = fingerprintBytes ["a", "b"] := by cbv

end Version

end Depository
