import Depository.Proofs.Repository.Interleaving
import Depository.Proofs.Repository.Refusal
import Depository.Proofs.Text.Numerals
import Mathlib.Algebra.Group.Nat.Defs
import Mathlib.Data.List.Nodup

/-!
# Numbers of files

Where the identifiers of files extend that of their dataset, each file that gets one gets a number
greater than all numbers of the files before, whatever the registry finds taken. The store does
not yet know what was given out earlier in the same run; the dataset at hand does.
-/

namespace Depository

/-- A call was made between two worlds. -/
def World.Made (w v : World) (e : Event) : Prop := ∃ calls, v.log = w.log ++ calls ∧ e ∈ calls

theorem World.Made.before {w u v : World} {e : Event} (h : w.Made u e) (hlog : u.log <+: v.log) :
    w.Made v e := by
  obtain ⟨calls, hcalls, he⟩ := h
  obtain ⟨later, hlater⟩ := hlog
  refine ⟨calls ++ later, ?_, List.mem_append_left _ he⟩
  rw [← hlater, hcalls, List.append_assoc]

theorem World.Made.after {w u v : World} {e : Event} (hlog : w.log <+: u.log) (h : u.Made v e) :
    w.Made v e := by
  obtain ⟨calls, hcalls, he⟩ := h
  obtain ⟨earlier, hearlier⟩ := hlog
  refine ⟨earlier ++ calls, ?_, List.mem_append_right _ he⟩
  rw [hcalls, ← hearlier, List.append_assoc]

namespace Repository

open Depository.Action

variable {s : Surroundings} {t : Store} {w v : World} {d e : Dataset} {parent : GlobalId}
  {file : DataFileId}

/-! ### Identifiers of single files -/

namespace Subject

private theorem identifier?_assign_of_ne {x : DataFileId} (h : x ≠ file) (g : GlobalId)
    (d : Dataset) :
    (Subject.file x).identifier? ((Subject.file file).assign g d) =
      (Subject.file x).identifier? d := by
  simp only [identifier?, assign]
  rw [Dataset.file?_mapFile_of_ne ?_ h]
  exact fun _ => rfl

private theorem identifier?_markRegistered_of_ne {x : DataFileId} (h : x ≠ file)
    (time : Time.Instant)
    (d : Dataset) : (Subject.file x).identifier? ((Subject.file file).markRegistered time d) =
      (Subject.file x).identifier? d := by
  simp only [identifier?, markRegistered]
  rw [Dataset.file?_mapFile_of_ne ?_ h]
  exact fun _ => rfl

theorem mem_fileIdentifiers {x : DataFileId} {g : GlobalId}
    (h : (Subject.file x).identifier? d = some g) : g ∈ d.fileIdentifiers := by
  obtain ⟨f, hf, hg⟩ := Option.bind_eq_some_iff.mp h
  exact List.mem_filterMap.mpr ⟨f, (Dataset.file?_eq_some hf).1, hg⟩

/-- Where files have different identities, each is found under its own. -/
theorem identifier?_of_mem (hids : (d.files.map (·.id)).Nodup) {f : DataFile} (hf : f ∈ d.files) :
    (Subject.file f.id).identifier? d = f.globalId := by
  have howns : d.Owns f.id := ⟨f, hf, rfl⟩
  obtain ⟨f', hf'⟩ := howns.file?
  obtain ⟨hmem, hid⟩ := Dataset.file?_eq_some hf'
  obtain rfl := List.inj_on_of_nodup_map hids hmem hf hid
  rw [identifier?, hf', Option.bind_some]

private theorem exists_of_mem_fileIdentifiers (hids : (d.files.map (·.id)).Nodup) {g : GlobalId}
    (h : g ∈ d.fileIdentifiers) : ∃ x, (Subject.file x).identifier? d = some g := by
  obtain ⟨f, hf, hg⟩ := List.mem_filterMap.mp h
  exact ⟨f.id, (identifier?_of_mem hids hf).trans hg⟩

end Subject

/-! ### Numbers below an identifier -/

private theorem numberBelow?_numbered {n : Nat} (h : n < 2 ^ 64) :
    numberBelow? (parent.identifier ++ "/") (numbered parent n) = some n := by
  have htext : (numbered parent n).identifier.toList =
      (parent.identifier ++ "/").toList ++ (toString n).toList := by
    simp only [numbered, GlobalId.withIdentifier, String.toList_append]
  rw [numberBelow?, htext, Text.after?_append]
  apply Text.unsigned?_toString
  exact decide_eq_true h

theorem numbered_injective {m n : Nat} (h : numbered parent m = numbered parent n) : m = n := by
  have htext := (String.append_right_inj (parent.identifier ++ "/")).mp
    (congrArg GlobalId.identifier h)
  exact Text.toString_injective htext

/-- The numbers that the files of a dataset have below an identifier. -/
def fileNumbers (parent : GlobalId) (d : Dataset) : List Nat :=
  d.fileIdentifiers.filterMap (numberBelow? (parent.identifier ++ "/"))

theorem mem_fileNumbers_of_numbered {n : Nat} (hn : n < 2 ^ 64)
    (h : numbered parent n ∈ d.fileIdentifiers) : n ∈ fileNumbers parent d :=
  List.mem_filterMap.mpr ⟨_, h, numberBelow?_numbered hn⟩

private theorem le_foldl_max (l : List Nat) (init : Nat) :
    init ≤ l.foldl max init ∧ ∀ m ∈ l, m ≤ l.foldl max init := by
  induction l generalizing init with
  | nil => exact ⟨Nat.le_refl _, by simp⟩
  | cons a rest ih =>
    obtain ⟨hinit, hrest⟩ := ih (max init a)
    refine ⟨Nat.le_trans (Nat.le_max_left _ _) hinit, ?_⟩
    intro m hm
    rcases List.mem_cons.mp hm with rfl | hm
    · exact Nat.le_trans (Nat.le_max_right _ _) hinit
    · exact hrest m hm

private theorem le_greatestNumber {m : Nat} (h : m ∈ fileNumbers parent d) :
    m ≤ greatestNumber (parent.identifier ++ "/") d :=
  (le_foldl_max _ 0).2 m h

/-! ### Making numbers up -/

private theorem log_extended_of_run_isLocallyUnique {g : GlobalId} {result : Except Failure Bool}
    (h : (isLocallyUnique g).run s w = (result, v)) :
    (w.record (.candidate g)).log <+: v.log := by
  have hask : Confined .none (fun _ => True)
      (askStore .checkIdentifier fun store => store.isLocallyUnique g) :=
    confined_askStore _ fun _ => trivial
  exact hask.log_extended (w := w.record (.candidate g)) h

/-- The numbers tried begin with the first one, and the one that is found is unused. -/
theorem of_run_firstUnusedNumber {tries first : Nat} {g : GlobalId}
    (h : (firstUnusedNumber parent tries first).run s w = (.ok (some g), v)) :
    ∃ n, first ≤ n ∧ g = numbered parent n ∧ w.store.isLocallyUnique g = true ∧
      w.Made v (.candidate g) := by
  induction tries generalizing first w with
  | zero => cases h
  | succ tries ih =>
    obtain ⟨unused, u, hask, h⟩ := of_run_bind_ok h
    have hasked : unused = w.store.isLocallyUnique (numbered parent first) ∧ u.store = w.store :=
      of_run_askStore_ok (w := w.record (.candidate (numbered parent first))) hask
    have hlog := log_extended_of_run_isLocallyUnique hask
    cases unused with
    | true =>
      cases h
      have hmade : w.Made (w.record (.candidate (numbered parent first)))
          (.candidate (numbered parent first)) := ⟨_, rfl, List.mem_singleton_self _⟩
      exact ⟨first, Nat.le_refl _, rfl, hasked.1.symm, hmade.before hlog⟩
    | false =>
      obtain ⟨n, hfirst, hg, hunused, hmade⟩ := ih h
      rw [hasked.2] at hunused
      have hearlier : w.log <+: u.log := (List.prefix_append _ _).trans hlog
      exact ⟨n, Nat.le_of_succ_le hfirst, hg, hunused, hmade.after hearlier⟩

/-- What is made up for a file is a number greater than those of all files, and unused. -/
theorem of_run_generateForFile {g : GlobalId} (hdependent : s.identifiers.dependentFiles = true)
    (hparent : d.globalId = some parent) (h : (generateForFile d).run s w = (.ok g, v)) :
    ∃ n, g = numbered parent n ∧ (∀ m ∈ fileNumbers parent d, m < n) ∧
      w.store.isLocallyUnique g = true ∧ w.Made v (.candidate g) := by
  simp only [generateForFile] at h
  rw [run_bind_of_ok (x := surroundings) rfl] at h
  simp only [hdependent, if_true, hparent, generateBelow] at h
  rw [run_bind_of_ok (x := surroundings) rfl] at h
  obtain ⟨found, u, hfirst, h⟩ := of_run_bind_ok h
  cases found with
  | none => cases h
  | some g' =>
    cases h
    obtain ⟨n, hn, hg, hunused, hmade⟩ := of_run_firstUnusedNumber hfirst
    refine ⟨n, hg, ?_, hunused, hmade⟩
    intro m hm
    exact Nat.lt_of_lt_of_le (Nat.lt_succ_of_le (le_greatestNumber hm)) hn

/-! ### What a run leaves -/

/-- Some of the files, in their order, were given increasing numbers that are greater than all
before and unused in the store; of the rest of the dataset nothing has changed but the stamps of
registrations. -/
structure Numbered (parent : GlobalId) (t : Store) (files : List DataFileId) (d e : Dataset)
    (numbers : List Nat) : Prop where
  same : e.unidentified = d.unidentified
  globalId_eq : e.globalId = d.globalId
  others : ∀ x, x ∉ files → (Subject.file x).identifier? e = (Subject.file x).identifier? d
  received : files.filterMap (fun x => (Subject.file x).identifier? e) =
    numbers.map (numbered parent)
  increasing : numbers.Pairwise (· < ·)
  greater : ∀ n ∈ numbers, ∀ m ∈ fileNumbers parent d, m < n
  unused : ∀ n ∈ numbers, t.isLocallyUnique (numbered parent n) = true
  fit : ∀ n ∈ numbers, n < 2 ^ 64

namespace Numbered

variable {files rest : List DataFileId} {numbers : List Nat} {n : Nat}

theorem refl (h : ∀ x ∈ files, (Subject.file x).identifier? d = none) :
    Numbered parent t files d d [] where
  same := rfl
  globalId_eq := rfl
  others _ _ := rfl
  received := List.filterMap_eq_nil_iff.mpr h
  increasing := .nil
  greater := by simp
  unused := by simp
  fit := by simp

private theorem files_map_id (h : Numbered parent t files d e numbers) :
    e.files.map (·.id) = d.files.map (·.id) :=
  Dataset.files_map_id_of_unidentified h.same

/-- What was given is among the numbers of the files. -/
private theorem mem_fileNumbers (h : Numbered parent t files d e numbers) (hn : n ∈ numbers) :
    n ∈ fileNumbers parent e := by
  have hreceived : numbered parent n ∈ numbers.map (numbered parent) := List.mem_map_of_mem hn
  rw [← h.received] at hreceived
  obtain ⟨x, -, hx⟩ := List.mem_filterMap.mp hreceived
  exact mem_fileNumbers_of_numbered (h.fit n hn) (Subject.mem_fileIdentifiers hx)

/-- No number is lost when files that had none are given some. -/
private theorem keeps_fileNumbers (h : Numbered parent t files d e numbers)
    (hids : (d.files.map (·.id)).Nodup)
    (hpending : ∀ x ∈ files, (Subject.file x).identifier? d = none) {m : Nat}
    (hm : m ∈ fileNumbers parent d) : m ∈ fileNumbers parent e := by
  obtain ⟨g, hg, hnumber⟩ := List.mem_filterMap.mp hm
  obtain ⟨x, hx⟩ := Subject.exists_of_mem_fileIdentifiers hids hg
  have hother : x ∉ files := by
    intro hmem
    rw [hpending x hmem] at hx
    cases hx
  have hkept := (h.others x hother).trans hx
  exact List.mem_filterMap.mpr ⟨g, Subject.mem_fileIdentifiers hkept, hnumber⟩

/-- One file after others. As the later number exceeds all that the files have by then, it exceeds
those that the earlier files were given. -/
theorem append {f : Dataset} {later : List Nat} (h : Numbered parent t files d e numbers)
    (h' : Numbered parent t rest e f later) (hids : (d.files.map (·.id)).Nodup)
    (hpending : ∀ x ∈ files, (Subject.file x).identifier? d = none)
    (hapart : ∀ x ∈ files, x ∉ rest) :
    Numbered parent t (files ++ rest) d f (numbers ++ later) where
  same := h'.same.trans h.same
  globalId_eq := h'.globalId_eq.trans h.globalId_eq
  others := by
    intro x hx
    rw [List.mem_append, not_or] at hx
    exact (h'.others x hx.2).trans (h.others x hx.1)
  received := by
    have hkept : files.filterMap (fun x => (Subject.file x).identifier? f) =
        files.filterMap fun x => (Subject.file x).identifier? e :=
      List.filterMap_congr fun x hx => h'.others x (hapart x hx)
    rw [List.filterMap_append, List.map_append, hkept, h.received, h'.received]
  increasing := by
    refine List.pairwise_append.mpr ⟨h.increasing, h'.increasing, ?_⟩
    intro m hm n hn
    exact h'.greater n hn m (h.mem_fileNumbers hm)
  greater := by
    intro n hn m hm
    rcases List.mem_append.mp hn with hn | hn
    · exact h.greater n hn m hm
    · exact h'.greater n hn m (h.keeps_fileNumbers hids hpending hm)
  unused := by
    intro n hn
    rcases List.mem_append.mp hn with hn | hn
    · exact h.unused n hn
    · exact h'.unused n hn
  fit := by
    intro n hn
    rcases List.mem_append.mp hn with hn | hn
    · exact h.fit n hn
    · exact h'.fit n hn

/-! ### One file -/

theorem identifier? (h : Numbered parent t [file] d e [n]) :
    (Subject.file file).identifier? e = some (numbered parent n) := by
  have hreceived := h.received
  cases hid : (Subject.file file).identifier? e with
  | none => simp [hid] at hreceived
  | some g => simpa [hid] using hreceived

/-- A file that has no number yet is given one. -/
theorem given (howns : d.Owns file) (hgreater : ∀ m ∈ fileNumbers parent d, m < n)
    (hunused : t.isLocallyUnique (numbered parent n) = true) (hfit : n < 2 ^ 64) :
    Numbered parent t [file] d ((Subject.file file).assign (numbered parent n) d) [n] where
  same := Subject.unidentified_assign _ _ d
  globalId_eq := rfl
  others x hx := Subject.identifier?_assign_of_ne (List.ne_of_not_mem_cons hx) _ d
  received := by
    obtain ⟨f, hf⟩ := howns.file?
    simp [Subject.identifier?_assign_file, hf]
  increasing := List.pairwise_singleton _ _
  greater := by simpa using hgreater
  unused := by simpa using hunused
  fit := by simpa using hfit

/-- The number of a file is replaced by one that is greater still. -/
theorem renewed {next : Nat} (h : Numbered parent t [file] d e [n])
    (hgreater : ∀ m ∈ fileNumbers parent e, m < next)
    (hunused : t.isLocallyUnique (numbered parent next) = true) (hfit : next < 2 ^ 64) :
    Numbered parent t [file] d ((Subject.file file).assign (numbered parent next) e) [next] where
  same := (Subject.unidentified_assign _ _ e).trans h.same
  globalId_eq := h.globalId_eq
  others x hx :=
    (Subject.identifier?_assign_of_ne (List.ne_of_not_mem_cons hx) _ e).trans (h.others x hx)
  received := by simp [Subject.identifier?_assign h.identifier?]
  increasing := List.pairwise_singleton _ _
  greater := by
    have hn : n < next := hgreater n (h.mem_fileNumbers (List.mem_singleton_self n))
    simp only [List.mem_singleton, forall_eq]
    intro m hm
    exact Nat.lt_trans (h.greater n (List.mem_singleton_self n) m hm) hn
  unused := by simpa using hunused
  fit := by simpa using hfit

theorem registered (h : Numbered parent t [file] d e [n]) (time : Time.Instant) :
    Numbered parent t [file] d ((Subject.file file).markRegistered time e) [n] where
  same := (Subject.unidentified_markRegistered _ time e).trans h.same
  globalId_eq := h.globalId_eq
  others x hx :=
    (Subject.identifier?_markRegistered_of_ne (List.ne_of_not_mem_cons hx) time e).trans
      (h.others x hx)
  received := by simp [Subject.identifier?_markRegistered, h.identifier?]
  increasing := h.increasing
  greater := h.greater
  unused := h.unused
  fit := h.fit

end Numbered

/-! ### Runs -/

/-- All numbers tried below an identifier between two worlds are numbers of 64 bits. -/
def TriesFit (parent : GlobalId) (w v : World) : Prop :=
  ∀ n, w.Made v (.candidate (numbered parent n)) → n < 2 ^ 64

theorem TriesFit.before {u : World} (h : TriesFit parent w v) (hlog : u.log <+: v.log) :
    TriesFit parent w u := fun n hn => h n (hn.before hlog)

theorem TriesFit.after {u : World} (h : TriesFit parent w v) (hlog : w.log <+: u.log) :
    TriesFit parent u v := fun n hn => h n (hn.after hlog)

section

variable {left made n : Nat} {report : RegistrationReport}

/-- A request that is answered leaves the file its number, and one that finds the identifier taken
leaves it to `retry`. -/
private theorem numbered_of_run_attempt {retry : Action (RegistrationReport × Dataset)}
    {id : GlobalId} {d₀ : Dataset} (hd : Numbered parent t [file] d₀ d [n])
    (h : (attempt (.file file) made id d retry).run s w = (.ok (report, e), v))
    (hretry : ∀ u, w.log <+: u.log → StoreEffect.numbering.allows w.store u.store →
      retry.run s u = (.ok (report, e), v) → ∃ m, Numbered parent t [file] d₀ e [m]) :
    ∃ m, Numbered parent t [file] d₀ e [m] := by
  obtain ⟨x, u, -, -, -, hattempt⟩ := run_attempt (.file file) made id d s w
  have hasked := hattempt (pure (⟨made + 1, .collision, id⟩, d))
  have hconfined := registering_confined.attempt (.file file) made id d
    (confined_pure ((⟨made + 1, .collision, id⟩ : RegistrationReport), d))
  rw [hattempt] at h
  cases hstatus : x.status with
  | registered =>
    rw [hstatus] at h
    cases h
    exact ⟨n, hd.registered _⟩
  | failed =>
    rw [hstatus] at h
    cases h
    exact ⟨n, hd⟩
  | collision =>
    rw [hstatus] at h hasked
    have hnumbered : StoreEffect.numbering.allows w.store u.store := hconfined.allows hasked
    exact hretry u (hconfined.log_extended hasked) hnumbered h

/-- Each identifier in place of a taken one has a greater number than the taken one, which the
dataset at hand carries. -/
private theorem numbered_of_run_registerFrom {d₀ : Dataset}
    (hdependent : s.identifiers.dependentFiles = true) (hparent : d₀.globalId = some parent)
    (hstore : StoreEffect.numbering.allows t w.store) (hfit : TriesFit parent w v) {id : GlobalId}
    (hd : Numbered parent t [file] d₀ d [n])
    (h : (registerFrom (.file file) left made id d).run s w = (.ok (report, e), v)) :
    ∃ m, Numbered parent t [file] d₀ e [m] := by
  induction left generalizing made id d w n with
  | zero =>
    apply numbered_of_run_attempt hd h
    intro u _ _ hretry
    cases hretry
    exact ⟨n, hd⟩
  | succ left ih =>
    apply numbered_of_run_attempt hd h
    intro u hlog hnumbered hretry
    cases hrenew : (regenerate d (.file file) id).run s u with
    | mk renewed u' =>
      have hconfined := generating_confined.regenerate d (.file file) id
      have hmoved := hconfined.allows hrenew
      have hlog' := hconfined.log_extended hrenew
      rw [run_bind_of_ok (run_outcome hrenew)] at hretry
      cases renewed with
      | error failure =>
        cases hretry
        exact ⟨n, hd⟩
      | ok next =>
        have hgenerate : (generateForFile d).run s u = (.ok next, u') := hrenew
        have hrest : u'.log <+: v.log :=
          (registering_confined.registerFrom _ left (made + 1) next _).log_extended hretry
        obtain ⟨m, rfl, hgreater, hunused, hmade⟩ :=
          of_run_generateForFile hdependent (hd.globalId_eq.trans hparent) hgenerate
        have hsame := StoreEffect.numbering.trans hstore hnumbered
        rw [isLocallyUnique_of_numbering hsame] at hunused
        have hm : m < 2 ^ 64 := hfit m ((hmade.after hlog).before hrest)
        exact ih (StoreEffect.numbering.trans hsame hmoved) (hfit.after (hlog.trans hlog'))
          (hd.renewed hgreater hunused hm) hretry

/-- The registration of a number that a file was given leaves it that number or a greater one. -/
private theorem numbered_of_run_registerAssigned {summary summary' : FileIdentifierSummary}
    (hdependent : s.identifiers.dependentFiles = true) (hparent : d.globalId = some parent)
    (hstore : StoreEffect.numbering.allows t w.store) (hfit : TriesFit parent w v)
    (howns : d.Owns file) (hgiven : Numbered parent t [file] d
      ((Subject.file file).assign (numbered parent n) d) [n])
    (h : (registerAssigned file ((Subject.file file).assign (numbered parent n) d) summary).run s w =
      (.ok (e, summary'), v)) : ∃ m, Numbered parent t [file] d e [m] := by
  simp only [registerAssigned] at h
  cases hregister : (registerFile file ((Subject.file file).assign (numbered parent n) d)).run s w
    with
  | mk registered u =>
    rw [run_bind_of_ok (run_outcome hregister)] at h
    cases registered with
    | error failure =>
      cases h
      exact ⟨n, hgiven⟩
    | ok x =>
      cases h
      obtain ⟨f, hf⟩ := howns.file?
      simp only [run_registerFile, hf] at hregister
      exact numbered_of_run_registerFrom hdependent hparent hstore hfit hgiven hregister

/-- A file without an identifier is given a number, or stays without one. -/
private theorem numbered_of_run_assignOne {summary summary' : FileIdentifierSummary}
    (hdependent : s.identifiers.dependentFiles = true) (hparent : d.globalId = some parent)
    (hstore : StoreEffect.numbering.allows t w.store) (hfit : TriesFit parent w v)
    (howns : d.Owns file) (hpending : (Subject.file file).identifier? d = none)
    (h : (assignOne file d summary).run s w = (.ok (e, summary'), v)) :
    ∃ numbers, Numbered parent t [file] d e numbers := by
  cases hgenerate : (generateForFile d).run s w with
  | mk generated u =>
    have hconfined := generating_confined.generateForFile d
    have hlog := hconfined.log_extended hgenerate
    unfold assignOne at h
    rw [run_bind_of_ok (run_outcome hgenerate)] at h
    cases generated with
    | error failure =>
      cases h
      exact ⟨[], .refl (by simpa using hpending)⟩
    | ok g =>
      obtain ⟨n, rfl, hgreater, hunused, hmade⟩ :=
        of_run_generateForFile hdependent hparent hgenerate
      rw [isLocallyUnique_of_numbering hstore] at hunused
      have hgiven (hrest : u.log <+: v.log) : Numbered parent t [file] d
          ((Subject.file file).assign (numbered parent n) d) [n] :=
        .given howns hgreater hunused (hfit n (hmade.before hrest))
      dsimp only at h
      rw [run_bind_of_ok (x := surroundings) rfl] at h
      cases hnow : s.identifiers.registersImmediately with
      | false =>
        simp only [hnow, Bool.false_eq_true, if_false] at h
        cases h
        exact ⟨[n], hgiven (List.prefix_refl _)⟩
      | true =>
        simp only [hnow, if_true] at h
        have hrest := (confined_registerAssigned file _ _).log_extended h
        have hmoved := StoreEffect.numbering.trans hstore (hconfined.allows hgenerate)
        obtain ⟨m, hm⟩ := numbered_of_run_registerAssigned hdependent hparent hmoved
          (hfit.after hlog) howns (hgiven hrest) h
        exact ⟨[m], hm⟩

end

/-- The files in turn: each number given exceeds all that the files before it were given. -/
private theorem numbered_of_run_assignAll {summary summary' : FileIdentifierSummary}
    {files : List DataFileId} (hdependent : s.identifiers.dependentFiles = true)
    (hparent : d.globalId = some parent) (hstore : StoreEffect.numbering.allows t w.store)
    (hfit : TriesFit parent w v) (hids : (d.files.map (·.id)).Nodup) (hfiles : files.Nodup)
    (howns : ∀ x ∈ files, d.Owns x)
    (hpending : ∀ x ∈ files, (Subject.file x).identifier? d = none)
    (h : (assignAll files d summary).run s w = (.ok (e, summary'), v)) :
    ∃ numbers, Numbered parent t files d e numbers := by
  induction files generalizing d summary w with
  | nil =>
    cases h
    exact ⟨[], .refl hpending⟩
  | cons file rest ih =>
    obtain ⟨⟨d', summary₁⟩, u, hone, hrest⟩ := of_run_bind_ok h
    rw [List.nodup_cons] at hfiles
    rw [List.forall_mem_cons] at howns hpending
    have hconfined := confined_assignOne file d summary
    have hlog := hconfined.log_extended hone
    have hlog' : u.log <+: v.log := (confined_assignAll rest d' summary₁).log_extended hrest
    obtain ⟨numbers, hnumbers⟩ := numbered_of_run_assignOne hdependent hparent hstore
      (hfit.before hlog') howns.1 hpending.1 hone
    -- The files that are left are still there, and still without an identifier.
    have howns' (x : DataFileId) (hx : x ∈ rest) : d'.Owns x :=
      ((Dataset.SameFiles.of_unidentified hnumbers.same).owns_iff x).mpr (howns.2 x hx)
    have hpending' (x : DataFileId) (hx : x ∈ rest) : (Subject.file x).identifier? d' = none := by
      have hne : x ∉ [file] := by
        rw [List.mem_singleton]
        rintro rfl
        exact hfiles.1 hx
      rw [hnumbers.others x hne]
      exact hpending.2 x hx
    obtain ⟨later, hlater⟩ := ih (hnumbers.globalId_eq.trans hparent)
      (StoreEffect.numbering.trans hstore (hconfined.allows hone)) (hfit.after hlog)
      (hnumbers.files_map_id ▸ hids) hfiles.2 howns' hpending' hrest
    exact ⟨numbers ++ later, hnumbers.append hlater hids (by simpa using hpending.1)
      (by simpa using hfiles.1)⟩

/-! ### Whole runs -/

theorem nodup_pendingFiles (hids : (d.files.map (·.id)).Nodup) : (pendingFiles d).Nodup :=
  (List.filter_sublist.map _).nodup hids

theorem owns_of_mem_pendingFiles {x : DataFileId} (h : x ∈ pendingFiles d) : d.Owns x := by
  obtain ⟨f, hf, hx⟩ := List.mem_map.mp h
  exact ⟨f, (List.mem_filter.mp hf).1, hx⟩

theorem identifier?_of_mem_pendingFiles (hids : (d.files.map (·.id)).Nodup) {x : DataFileId}
    (h : x ∈ pendingFiles d) : (Subject.file x).identifier? d = none := by
  obtain ⟨f, hf, rfl⟩ := List.mem_map.mp h
  obtain ⟨hmem, hnone⟩ := List.mem_filter.mp hf
  rw [Subject.identifier?_of_mem hids hmem]
  exact Option.isNone_iff_eq_none.mp hnone

/-- What is stored by a run differs from what was stored by the numbers that the files without an
identifier were given. -/
private theorem numbered_of_run_assignFileIdentifiers {id : DatasetId}
    {summary : FileIdentifierSummary} (hw : w.store.Keyed) (hd : w.store.findDataset? id = some d)
    (hparent : d.globalId = some parent) (hids : (d.files.map (·.id)).Nodup)
    (hdependent : s.identifiers.dependentFiles = true) (hfit : TriesFit parent w v)
    (h : (assignFileIdentifiers id).run s w = (.ok summary, v)) :
    ∃ e numbers, v.store.findDataset? id = some e ∧
      Numbered parent w.store (pendingFiles d) d e numbers := by
  have hpending (x : DataFileId) (hx : x ∈ pendingFiles d) :
      (Subject.file x).identifier? d = none := identifier?_of_mem_pendingFiles hids hx
  rcases of_run_assignFileIdentifiers_ok h with
    ⟨-, hstore⟩ | ⟨d', e, saved, u, u', -, -, hload, hassign, hcommit⟩
  · exact ⟨d, [], hstore ▸ hd, .refl hpending⟩
  · obtain ⟨hd', hstore⟩ := of_run_findDataset_ok hload
    obtain rfl : d = d' := Option.some.inj (hd.symm.trans hd')
    have hloaded : StoreEffect.numbering.allows w.store u.store := by
      rw [hstore]
      exact StoreEffect.refl _ _
    have hlog := (confined_findDataset id).log_extended hload
    obtain ⟨failed, hlast⟩ := log_of_run_commit hcommit
    have hassigned : TriesFit parent u u' := (hfit.after hlog).before ⟨_, hlast.symm⟩
    obtain ⟨numbers, hnumbers⟩ := numbered_of_run_assignAll hdependent hparent hloaded hassigned
      hids (nodup_pendingFiles hids) (fun _ => owns_of_mem_pendingFiles) hpending hassign
    have hid : e.id = id := by
      have hsame := congrArg Dataset.id hnumbers.same
      exact hsame.trans (hw id d hd)
    have hfound := findDataset?_of_run_commit hcommit
    rw [show (UnitOfWork.merge e).dataset = e from rfl, hid] at hfound
    exact ⟨e, numbers, hfound, hnumbers⟩

/-- The identifiers that the files without one have in a later state of the dataset, in the order
of the files. -/
def receivedIdentifiers (d e : Dataset) : List GlobalId :=
  (pendingFiles d).filterMap fun x => (Subject.file x).identifier? e

/-- Whatever the registry finds taken, the files that get identifiers get increasing numbers below
the identifier of the dataset. These are greater than all that its files had, no dataset and no
file in the store uses an identifier that is given, and no two files are given the same. -/
theorem file_numbers_count_up {id : DatasetId} {summary : FileIdentifierSummary}
    (hw : w.store.Reachable) (hd : w.store.findDataset? id = some d)
    (hparent : d.globalId = some parent) (hids : (d.files.map (·.id)).Nodup)
    (hdependent : s.identifiers.dependentFiles = true) (hfit : TriesFit parent w v)
    (h : (assignFileIdentifiers id).run s w = (.ok summary, v)) :
    ∃ (e : Dataset) (numbers : List Nat), v.store.findDataset? id = some e ∧
      e.files.map (·.id) = d.files.map (·.id) ∧
      (∀ x, x ∉ pendingFiles d →
        (Subject.file x).identifier? e = (Subject.file x).identifier? d) ∧
      receivedIdentifiers d e = numbers.map (numbered parent) ∧
      numbers.Pairwise (· < ·) ∧
      (∀ n ∈ numbers, ∀ m ∈ fileNumbers parent d, m < n) ∧
      (∀ g ∈ receivedIdentifiers d e, ∀ id' d', w.store.findDataset? id' = some d' →
        Store.uses g d' = false) ∧
      (receivedIdentifiers d e).Nodup := by
  obtain ⟨e, numbers, hfound, hnumbers⟩ :=
    numbered_of_run_assignFileIdentifiers hw.keyed hd hparent hids hdependent hfit h
  have hreceived : receivedIdentifiers d e = numbers.map (numbered parent) := hnumbers.received
  refine ⟨e, numbers, hfound, hnumbers.files_map_id, hnumbers.others, hreceived,
    hnumbers.increasing, hnumbers.greater, ?_, ?_⟩
  · intro g hg
    rw [hreceived] at hg
    obtain ⟨n, hn, rfl⟩ := List.mem_map.mp hg
    exact Store.isLocallyUnique_iff.mp (hnumbers.unused n hn)
  · rw [hreceived]
    apply List.pairwise_map.mpr
    apply hnumbers.increasing.imp
    intro m n hlt hsame
    exact Nat.ne_of_lt hlt (numbered_injective hsame)

/-! ### Numbers that are taken -/

def tidesIdentifier : GlobalId := ⟨"doi", "10.5072", "FK2/A"⟩

/-- A dataset whose first file has a number and whose other files wait for one. -/
def partlyNumbered : Dataset :=
  { registeredDraft with
    files := [{ DataFile.new ⟨⟨3⟩⟩ "text/csv" 9 "b021" with
        globalId := some (numbered tidesIdentifier 7) },
      DataFile.new ⟨⟨5⟩⟩ "text/csv" 9 "b022", DataFile.new ⟨⟨6⟩⟩ "text/csv" 9 "b023"] }

/-- Another dataset, which has the next number as its identifier. -/
def numberTaken : Dataset :=
  { titledDraft with id := ⟨⟨2⟩⟩, globalId := some (numbered tidesIdentifier 8) }

def numberedWorld : World :=
  ((commit (.merge numberTaken)).run plainSurroundings (storing partlyNumbered)).2

theorem reachable_numberedWorld : numberedWorld.store.Reachable :=
  reachable_of_run_commit (reachable_storing partlyNumbered) _ _

def Event.candidate? : Event → Option GlobalId
  | .candidate g => some g
  | _ => none

/-- The number after that of the first file is taken here, and the one after that in the
registry. -/
theorem file_numbers_count_up_when_taken :
    numberedWorld.store.Reachable ∧ ∃ summary v e,
      (assignFileIdentifiers partlyNumbered.id).run takenOnce numberedWorld = (.ok summary, v) ∧
      v.store.findDataset? partlyNumbered.id = some e ∧
      receivedIdentifiers partlyNumbered e = [10, 11].map (numbered tidesIdentifier) ∧
      (receivedIdentifiers partlyNumbered e).Nodup := by
  have hok : ((assignFileIdentifiers partlyNumbered.id).run takenOnce
      numberedWorld).1.toOption.isSome = true := by decide +kernel
  have htried : ((assignFileIdentifiers partlyNumbered.id).run takenOnce
      numberedWorld).2.log.filterMap Event.candidate? =
        [8, 9, 10, 11].map (numbered tidesIdentifier) := by decide +kernel
  have hgiven : (((assignFileIdentifiers partlyNumbered.id).run takenOnce
      numberedWorld).2.store.findDataset? partlyNumbered.id).map
        (receivedIdentifiers partlyNumbered) =
          some ([10, 11].map (numbered tidesIdentifier)) := by decide +kernel
  have hstored : numberedWorld.store.findDataset? partlyNumbered.id = some partlyNumbered := by
    decide +kernel
  cases hrun : (assignFileIdentifiers partlyNumbered.id).run takenOnce numberedWorld with
  | mk result v =>
    rw [hrun] at hok htried hgiven
    cases result with
    | error failure => cases hok
    | ok summary =>
      have hfit : TriesFit tidesIdentifier numberedWorld v := by
        rintro n ⟨calls, hlog, hn⟩
        have hmem : numbered tidesIdentifier n ∈ v.log.filterMap Event.candidate? := by
          rw [hlog]
          exact List.mem_filterMap.mpr ⟨_, List.mem_append_right _ hn, rfl⟩
        rw [htried] at hmem
        obtain ⟨m, hm, hsame⟩ := List.mem_map.mp hmem
        have hle : ∀ m ∈ [8, 9, 10, 11], m < 2 ^ 64 := by decide
        exact numbered_injective hsame ▸ hle m hm
      obtain ⟨e, numbers, hfound, -, -, -, -, -, -, hnodup⟩ :=
        file_numbers_count_up reachable_numberedWorld hstored rfl (by decide) rfl hfit hrun
      rw [hfound] at hgiven
      exact ⟨reachable_numberedWorld, summary, v, e, rfl, hfound, Option.some.inj hgiven, hnodup⟩

end Repository

end Depository
