import Depository.Proofs.Repository.FileNumbering

/-!
# Accounts of files that get identifiers

Every file without an identifier has one of a few fates: none can be made up for it, it is given
one that is to be registered later, or it is given one and the registry is asked. The summary counts
these fates, and the dataset is stored once with what they leave.
-/

namespace Depository

private theorem Event.SeeksIdentifier.not_commit {e : Event} (h : e.SeeksIdentifier) :
    e.isStore .commit = false := by
  cases e with
  | store call _ => cases call <;> first | rfl | cases h
  | _ => rfl

namespace Repository

open Depository.Action

variable {s : Surroundings} {w v : World} {d e : Dataset} {x : DataFileId}

/-! ### Fates -/

/-- What becomes of a file without an identifier: none can be made up, or it is given one that is to
be registered later, or the registry is asked for the one it is given and for others in its
place. -/
inductive Fate where
  | ungenerated
  | deferred
  | asked (requests : List Request)

namespace Fate

def isAssigned : Fate → Bool
  | .ungenerated => false
  | .deferred | .asked _ => true

/-- Whether the last request found the identifier free and registered it. -/
def isRegistered : Fate → Bool
  | .ungenerated | .deferred => false
  | .asked requests => requests.getLast?.any fun x => x.status == .registered

/-- Whether the fate counts as a failure, because there is no identifier or because it was not
registered when it should have been. -/
def isFailed : Fate → Bool
  | .ungenerated => true
  | .deferred => false
  | fate@(.asked _) => !fate.isRegistered

def requests : Fate → List Request
  | .ungenerated | .deferred => []
  | .asked requests => requests

/-- The summary with one more fate. -/
def addTo (fate : Fate) (summary : FileIdentifierSummary) : FileIdentifierSummary where
  assigned := summary.assigned + fate.isAssigned.toNat
  registered := summary.registered + fate.isRegistered.toNat
  failed := summary.failed + fate.isFailed.toNat

end Fate

/-- How a file without an identifier comes to its fate. -/
inductive Became (s : Surroundings) (x : DataFileId) (d : Dataset) (w : World) :
    Fate → Dataset → World → Prop where
  | ungenerated {failure : Failure} {v : World} :
      (generateForFile d).run s w = (.error failure, v) → Became s x d w .ungenerated d v
  | deferred {g : GlobalId} {v : World} : s.identifiers.registersImmediately = false →
      (generateForFile d).run s w = (.ok g, v) →
      Became s x d w .deferred ((Subject.file x).assign g d) v
  | asked {g : GlobalId} {u v : World} {e : Dataset} {requests : List Request}
      {report : RegistrationReport} : s.identifiers.registersImmediately = true → d.Owns x →
      (generateForFile d).run s w = (.ok g, u) →
      (registerFrom (.file x) (s.identifiers.maxRegistrationAttempts - 1) 0 g
        ((Subject.file x).assign g d)).run s u = (.ok (report, e), v) →
      v.requests = u.requests ++ requests → Became s x d w (.asked requests) e v

/-- The files come to their fates one after another. -/
inductive Accounts (s : Surroundings) :
    Dataset → World → List (DataFileId × Fate) → Dataset → World → Prop where
  | nil {d : Dataset} {w : World} : Accounts s d w [] d w
  | cons {x : DataFileId} {fate : Fate} {d d' e : Dataset} {w u v : World}
      {rest : List (DataFileId × Fate)} : Became s x d w fate d' u →
      Accounts s d' u rest e v → Accounts s d w ((x, fate) :: rest) e v

/-! ### Runs come to fates -/

private theorem isRegistered_of_submitted {subject : Subject} {most : Nat} {requests : List Request}
    {report : RegistrationReport} (h : Submitted s subject most d w requests report e v) :
    (Fate.asked requests).isRegistered = report.isRegistered := by
  obtain ⟨y, hlast, hstatus, -⟩ := h.reported
  simp only [Fate.isRegistered, hlast, Option.any_some, RegistrationReport.isRegistered, hstatus]

private theorem became_of_run_assignOne {summary summary' : FileIdentifierSummary}
    (howns : d.Owns x) (h : (assignOne x d summary).run s w = (.ok (e, summary'), v)) :
    ∃ fate, Became s x d w fate e v ∧ summary' = fate.addTo summary := by
  cases hgenerate : (generateForFile d).run s w with
  | mk generated u =>
    unfold assignOne at h
    rw [run_bind_of_ok (run_outcome hgenerate)] at h
    cases generated with
    | error failure =>
      cases h
      exact ⟨.ungenerated, .ungenerated hgenerate, rfl⟩
    | ok g =>
      dsimp only at h
      rw [run_bind_of_ok (x := surroundings) rfl] at h
      cases hnow : s.identifiers.registersImmediately with
      | false =>
        simp only [hnow, Bool.false_eq_true, if_false] at h
        cases h
        exact ⟨.deferred, .deferred hnow hgenerate, rfl⟩
      | true =>
        simp only [hnow, if_true, registerAssigned] at h
        obtain ⟨requests, report, e', u', hrun, -, hsubmitted⟩ := run_registerFrom (.file x)
          (s.identifiers.maxRegistrationAttempts - 1) 0 g ((Subject.file x).assign g d) s u
          (Subject.identifier?_assign_of_owns howns g)
        have hregister : (registerFile x ((Subject.file x).assign g d)).run s u =
            (.ok (report, e'), u') := by
          obtain ⟨f, hf⟩ := howns.file?
          rw [run_registerFile, hf]
          exact hrun
        rw [run_bind_of_ok (run_outcome hregister)] at h
        cases h
        refine ⟨.asked requests, .asked hnow howns hgenerate hrun hsubmitted.made, ?_⟩
        have hreported := isRegistered_of_submitted hsubmitted
        simp only [Fate.addTo, Fate.isFailed, hreported]
        cases report.isRegistered <;> rfl

theorem accounts_of_run_assignAll {summary summary' : FileIdentifierSummary}
    {files : List DataFileId} (howns : ∀ x ∈ files, d.Owns x)
    (h : (assignAll files d summary).run s w = (.ok (e, summary'), v)) :
    ∃ accounts : List (DataFileId × Fate), accounts.map (·.1) = files ∧
      Accounts s d w accounts e v ∧
      summary' = accounts.foldl (fun summary a => a.2.addTo summary) summary := by
  induction files generalizing d summary w with
  | nil =>
    cases h
    exact ⟨[], rfl, .nil, rfl⟩
  | cons x rest ih =>
    obtain ⟨⟨d', summary₁⟩, u, hone, hrest⟩ := of_run_bind_ok h
    rw [List.forall_mem_cons] at howns
    obtain ⟨fate, hbecame, rfl⟩ := became_of_run_assignOne howns.1 hone
    have hsame : d'.unidentified = d.unidentified :=
      returns_assignOne x d summary s w (d', _) u hone
    have howns' (y : DataFileId) (hy : y ∈ rest) : d'.Owns y :=
      ((Dataset.SameFiles.of_unidentified hsame).owns_iff y).mpr (howns.2 y hy)
    obtain ⟨accounts, rfl, haccounts, hsummary⟩ := ih howns' hrest
    exact ⟨(x, fate) :: accounts, rfl, .cons hbecame haccounts, hsummary⟩

/-! ### What fates leave of a dataset -/

/-- Files with their fates, which others do not share. -/
structure Leaves (accounts : List (DataFileId × Fate)) (d e : Dataset) : Prop where
  same : e.unidentified = d.unidentified
  others : ∀ y, y ∉ accounts.map (·.1) → e.file? y = d.file? y
  assigned : ∀ a ∈ accounts, ((Subject.file a.1).identifier? e).isSome = a.2.isAssigned
  stamped : ∀ a ∈ accounts, a.2.isRegistered = true →
    ∃ time, (Subject.file a.1).stamps e = some (some time, true)
  unstamped : ∀ a ∈ accounts, a.2.isRegistered = false →
    (Subject.file a.1).stamps e = (Subject.file a.1).stamps d

private theorem Subject.file?_of_blank {y : DataFileId}
    (h : (Subject.file x).blank e = (Subject.file x).blank d)
    (hne : y ≠ x) : e.file? y = d.file? y := by
  have hid (f : DataFile) : f.unidentified.id = f.id := rfl
  rw [← Dataset.file?_mapFile_of_ne hid hne e, ← Dataset.file?_mapFile_of_ne hid hne d]
  exact congrArg (·.file? y) h

private theorem Subject.unidentified_of_blank
    (h : (Subject.file x).blank e = (Subject.file x).blank d) :
    e.unidentified = d.unidentified := by
  have hagain (f : DataFile) : f.unidentified.unidentified = f.unidentified := rfl
  rw [← Dataset.unidentified_mapFile hagain x e, ← Dataset.unidentified_mapFile hagain x d]
  exact congrArg Dataset.unidentified h

private theorem Became.leaves {fate : Fate} (h : Became s x d w fate e v) (howns : d.Owns x)
    (hpending : (Subject.file x).identifier? d = none) : Leaves [(x, fate)] d e := by
  cases h with
  | ungenerated _ =>
    exact ⟨rfl, fun _ _ => rfl, by simp [hpending, Fate.isAssigned], by simp [Fate.isRegistered],
      by simp⟩
  | @deferred g _ _ _ =>
    have hblank := (Subject.file x).blank_assign g d
    refine ⟨Subject.unidentified_of_blank hblank, ?_, ?_, by simp [Fate.isRegistered], ?_⟩
    · intro y hy
      exact Subject.file?_of_blank hblank (by simpa using hy)
    · simp [Subject.identifier?_assign_of_owns howns, Fate.isAssigned]
    · simp [(Subject.file x).stamps_assign g d]
  | @asked g u _ _ requests report _ _ _ hrun hrequests =>
    have hsubmitted := submitted_of_run_registerFrom
      (Subject.identifier?_assign_of_owns howns g) hrun hrequests
    have hblank := hsubmitted.kept.trans ((Subject.file x).blank_assign g d)
    have hreported := isRegistered_of_submitted hsubmitted
    refine ⟨Subject.unidentified_of_blank hblank, ?_, ?_, ?_, ?_⟩
    · intro y hy
      exact Subject.file?_of_blank hblank (by simpa using hy)
    · simp [hsubmitted.carried, Fate.isAssigned]
    · simp only [List.mem_singleton, forall_eq, hreported]
      intro hregistered
      exact hsubmitted.stamped (eq_of_beq hregistered)
    · simp only [List.mem_singleton, forall_eq, hreported]
      intro hunregistered
      rw [hsubmitted.unstamped (ne_of_beq_false hunregistered), (Subject.file x).stamps_assign]

/-- A file before others: what becomes of them does not touch it. -/
theorem Leaves.cons {d' : Dataset} {a : DataFileId × Fate} {rest : List (DataFileId × Fate)}
    (h : Leaves [a] d d') (h' : Leaves rest d' e) (hapart : a.1 ∉ rest.map (·.1)) :
    Leaves (a :: rest) d e := by
  have hkept : e.file? a.1 = d'.file? a.1 := h'.others a.1 hapart
  have hbefore (b : DataFileId × Fate) (hb : b ∈ rest) : d'.file? b.1 = d.file? b.1 := by
    apply h.others
    rintro hmem
    rw [List.map_singleton, List.mem_singleton] at hmem
    exact hapart (hmem ▸ List.mem_map_of_mem hb)
  refine ⟨h'.same.trans h.same, ?_, ?_, ?_, ?_⟩
  · intro y hy
    rw [List.map_cons, List.mem_cons, not_or] at hy
    exact (h'.others y hy.2).trans (h.others y (by simpa using hy.1))
  · refine List.forall_mem_cons.mpr ⟨?_, h'.assigned⟩
    simp only [Subject.identifier?, hkept]
    exact h.assigned a (List.mem_singleton_self a)
  · refine List.forall_mem_cons.mpr ⟨?_, h'.stamped⟩
    simp only [Subject.stamps, hkept]
    exact h.stamped a (List.mem_singleton_self a)
  · refine List.forall_mem_cons.mpr ⟨?_, ?_⟩
    · simp only [Subject.stamps, hkept]
      exact h.unstamped a (List.mem_singleton_self a)
    · intro b hb hunregistered
      have hlater := h'.unstamped b hb hunregistered
      simp only [Subject.stamps, hbefore b hb] at hlater ⊢
      exact hlater

namespace Accounts

variable {accounts : List (DataFileId × Fate)}

private theorem leaves (h : Accounts s d w accounts e v) (hnodup : (accounts.map (·.1)).Nodup)
    (howns : ∀ x ∈ accounts.map (·.1), d.Owns x)
    (hpending : ∀ x ∈ accounts.map (·.1), (Subject.file x).identifier? d = none) :
    Leaves accounts d e := by
  induction h with
  | nil => exact ⟨rfl, fun _ _ => rfl, by simp, by simp, by simp⟩
  | @cons x fate d d' e w u v rest hbecame _ ih =>
    rw [List.map_cons, List.nodup_cons] at hnodup
    rw [List.map_cons, List.forall_mem_cons] at howns hpending
    have hone := hbecame.leaves howns.1 hpending.1
    refine hone.cons (ih hnodup.2 ?_ ?_) hnodup.1
    · intro y hy
      exact ((Dataset.SameFiles.of_unidentified hone.same).owns_iff y).mpr (howns.2 y hy)
    · intro y hy
      have hother : d'.file? y = d.file? y := by
        apply hone.others
        rw [List.map_singleton, List.mem_singleton]
        rintro rfl
        exact hnodup.1 hy
      have hwaiting := hpending.2 y hy
      simp only [Subject.identifier?, hother] at hwaiting ⊢
      exact hwaiting

/-- The registry is asked for one file after another. -/
theorem requests (h : Accounts s d w accounts e v) :
    v.requests = w.requests ++ accounts.flatMap (·.2.requests) := by
  induction h with
  | nil => simp
  | @cons x fate d d' e w u v rest hbecame _ ih =>
    have hone : u.requests = w.requests ++ fate.requests := by
      cases hbecame with
      | ungenerated hgenerate =>
        simpa [Fate.requests] using (generating_confined.generateForFile d).requests
          (fun _ he => he.isRegistration) hgenerate
      | deferred _ hgenerate =>
        simpa [Fate.requests] using (generating_confined.generateForFile d).requests
          (fun _ he => he.isRegistration) hgenerate
      | asked _ _ hgenerate _ hrequests =>
        rw [hrequests, (generating_confined.generateForFile d).requests
          (fun _ he => he.isRegistration) hgenerate, Fate.requests]
    rw [ih, hone, List.append_assoc, List.flatMap_cons]

private theorem of_mem (h : Accounts s d w accounts e v) :
    ∀ a ∈ accounts, ∃ d w e v, Became s a.1 d w a.2 e v := by
  induction h with
  | nil => simp
  | cons hbecame _ ih => exact List.forall_mem_cons.mpr ⟨⟨_, _, _, _, hbecame⟩, ih⟩

end Accounts

/-! ### Counting fates -/

namespace Became

variable {fate : Fate}

/-- The registry is asked at most as often as the settings allow, and only for a file that was
given an identifier. -/
theorem bounded (h : Became s x d w fate e v)
    (hmost : 1 ≤ s.identifiers.maxRegistrationAttempts) : fate.requests.length ≤
      if fate.isAssigned = true then s.identifiers.maxRegistrationAttempts else 0 := by
  cases h with
  | ungenerated _ => exact Nat.le_refl 0
  | deferred _ _ => exact Nat.zero_le _
  | asked _ howns _ hrun hrequests =>
    have hsubmitted := submitted_of_run_registerFrom
      (Subject.identifier?_assign_of_owns howns _) hrun hrequests
    rw [Nat.sub_add_cancel hmost] at hsubmitted
    exact hsubmitted.bounded.2

private theorem isFailed_of_immediate (h : Became s x d w fate e v)
    (hnow : s.identifiers.registersImmediately = true) : fate.isFailed = !fate.isRegistered := by
  cases h with
  | ungenerated _ => rfl
  | deferred hlater _ => cases hnow.symm.trans hlater
  | asked _ _ _ _ _ => rfl

private theorem of_deferred (h : Became s x d w fate e v)
    (hlater : s.identifiers.registersImmediately = false) :
    fate.isFailed = !fate.isAssigned ∧ fate.isRegistered = false ∧ fate.requests = [] := by
  cases h with
  | ungenerated _ => exact ⟨rfl, rfl, rfl⟩
  | deferred _ _ => exact ⟨rfl, rfl, rfl⟩
  | asked hnow _ _ _ _ => cases hlater.symm.trans hnow

end Became

/-- A summary counts fates. -/
private theorem foldl_addTo (accounts : List (DataFileId × Fate))
    (summary : FileIdentifierSummary) :
    accounts.foldl (fun summary a => a.2.addTo summary) summary =
      ⟨summary.assigned + accounts.countP (·.2.isAssigned),
        summary.registered + accounts.countP (·.2.isRegistered),
        summary.failed + accounts.countP (·.2.isFailed)⟩ := by
  induction accounts generalizing summary with
  | nil => rfl
  | cons a rest ih =>
    have hcount (p : Fate → Bool) : (if p a.2 = true then 1 else 0) = (p a.2).toNat := by
      cases p a.2 <;> rfl
    rw [List.foldl_cons, ih]
    simp only [Fate.addTo, List.countP_cons, hcount, Nat.add_assoc, Nat.add_comm]

/-! ### Whole runs -/

theorem succeeds_assignOne (x : DataFileId) (d : Dataset) (summary : FileIdentifierSummary) :
    Succeeds (assignOne x d summary) := by
  refine (succeeds_outcome _).bind fun generated => ?_
  cases generated with
  | error _ => exact succeeds_pure _
  | ok g =>
    refine succeeds_surroundings.bind fun s => ?_
    split
    · refine (succeeds_outcome _).bind fun registered => ?_
      cases registered with
      | error _ => exact succeeds_pure _
      | ok _ => exact succeeds_pure _
    · exact succeeds_pure _

theorem succeeds_assignAll (files : List DataFileId) (d : Dataset)
    (summary : FileIdentifierSummary) : Succeeds (assignAll files d summary) := by
  induction files generalizing d summary with
  | nil => exact succeeds_pure _
  | cons x rest ih => exact (succeeds_assignOne x d summary).bind fun a => ih a.1 a.2

/-- A run fails to load the dataset, or finds no file of it that waits, or gives those that wait
identifiers and then makes its one commit. -/
theorem of_run_assignFileIdentifiers {id : DatasetId}
    {result : Except Failure FileIdentifierSummary}
    (henabled : s.identifiers.fileIdentifiersEnabled = true)
    (h : (assignFileIdentifiers id).run s w = (result, v)) :
    (∃ failure, result = .error failure ∧ (findDataset id).run s w = (.error failure, v)) ∨
    (∃ d, pendingFiles d = [] ∧ result = .ok .empty ∧ (findDataset id).run s w = (.ok d, v)) ∨
    ∃ d u u' e summary stored, pendingFiles d ≠ [] ∧ (findDataset id).run s w = (.ok d, u) ∧
      (assignAll (pendingFiles d) d .empty).run s u = (.ok (e, summary), u') ∧
      (commit (.merge e)).run s u' = (stored, v) ∧ result = stored.map fun _ => summary := by
  unfold assignFileIdentifiers at h
  rw [run_bind_of_ok (x := surroundings) rfl] at h
  simp only [henabled, Bool.not_true, Bool.false_eq_true, if_false] at h
  cases hload : (findDataset id).run s w with
  | mk found u =>
    cases found with
    | error failure =>
      rw [run_bind_of_error hload] at h
      cases h
      exact Or.inl ⟨failure, rfl, rfl⟩
    | ok d =>
      right
      rw [run_bind_of_ok hload] at h
      cases hpending : pendingFiles d with
      | nil =>
        simp only [hpending] at h
        cases h
        exact Or.inl ⟨d, hpending, rfl, rfl⟩
      | cons x rest =>
        right
        simp only [hpending] at h
        obtain ⟨⟨e, summary⟩, u', hassign⟩ := succeeds_assignAll (x :: rest) d .empty s u
        rw [run_bind_of_ok hassign] at h
        cases hcommit : (commit (.merge e)).run s u' with
        | mk stored v' =>
          cases stored with
          | error failure =>
            rw [run_bind_of_error hcommit] at h
            cases h
            exact ⟨d, u, u', e, summary, _, by simp [hpending], rfl, hpending ▸ hassign, hcommit,
              rfl⟩
          | ok e' =>
            rw [run_bind_of_ok hcommit] at h
            cases h
            exact ⟨d, u, u', e, summary, _, by simp [hpending], rfl, hpending ▸ hassign, hcommit,
              rfl⟩

/-- Loading a dataset is a call of its own. -/
theorem confined_findDataset_call (id : DatasetId) :
    Confined .none (fun e => e.isStore .findDataset = true) (findDataset id) := by
  have hask : Confined .none (fun e => e.isStore .findDataset = true) (findDataset? id) := by
    intro s w
    obtain ⟨vanished, hrun⟩ := run_findDataset? id s w
    rw [hrun]
    exact confined_askStore _ (fun _ => rfl) s w
  refine hask.bind fun found => ?_
  cases found with
  | none => exact confined_fail _
  | some d => exact confined_pure d

/-- A run that ended well and found files without an identifier, with the dataset as it was, the
summary, the dataset as it is stored now and what became of the files. -/
structure Accounted (s : Surroundings) (id : DatasetId) (w v : World) (d : Dataset)
    (summary : FileIdentifierSummary) (e : Dataset) (accounts : List (DataFileId × Fate)) :
    Prop where
  run : ∃ u u', (findDataset id).run s w = (.ok d, u) ∧ Accounts s d u accounts e u' ∧
    (commit (.merge e)).run s u' = (.ok e, v)
  files : accounts.map (·.1) = pendingFiles d
  stored : v.store.findDataset? id = some e
  commits : v.store.commits = w.store.commits + 1 ∧
    v.count (Event.isStore .commit) = w.count (Event.isStore .commit) + 1
  untouched : ∀ f ∈ d.files, f.globalId.isSome = true → f ∈ e.files
  assigned : summary.assigned =
    (pendingFiles d).countP fun x => ((Subject.file x).identifier? e).isSome
  ungenerated : summary.assigned + accounts.countP (fun a => !a.2.isAssigned) =
    (pendingFiles d).length
  registered : summary.registered = accounts.countP (·.2.isRegistered)
  stamps : ∀ a ∈ accounts, if a.2.isRegistered = true
    then ∃ time, (Subject.file a.1).stamps e = some (some time, true)
    else (Subject.file a.1).stamps e = (Subject.file a.1).stamps d
  requests : v.requests = w.requests ++ accounts.flatMap (·.2.requests)
  bounded : ∀ a ∈ accounts, a.2.requests.length ≤
    if a.2.isAssigned = true then s.identifiers.maxRegistrationAttempts else 0
  immediate : s.identifiers.registersImmediately = true →
    summary.registered + summary.failed = (pendingFiles d).length
  deferred : s.identifiers.registersImmediately = false → v.requests = w.requests ∧
    summary.registered = 0 ∧ summary.assigned + summary.failed = (pendingFiles d).length

/-- A run makes one call to commit. -/
private theorem count_commit_of_run {id : DatasetId} {u u' : World} {files : List DataFileId}
    {summary summary' : FileIdentifierSummary} {result : Except Failure Dataset}
    (hload : (findDataset id).run s w = (.ok d, u))
    (hassign : (assignAll files d summary).run s u = (.ok (e, summary'), u'))
    (hcommit : (commit (.merge e)).run s u' = (result, v)) :
    v.count (Event.isStore .commit) = w.count (Event.isStore .commit) + 1 := by
  have hloading : ∀ c : Event, c.isStore .findDataset = true → c.isStore .commit = false := by
    intro c hc
    cases c with
    | store call _ => cases call <;> first | rfl | cases hc
    | _ => rfl
  have hloaded := (confined_findDataset_call id).count hloading s w
  have hassigned := (confined_assignAll files d summary).count
    (fun _ he => he.not_commit) s u
  rw [hload] at hloaded
  rw [hassign] at hassigned
  obtain ⟨failed, hlog⟩ := log_of_run_commit hcommit
  have hcounted : v.count (Event.isStore .commit) = u'.count (Event.isStore .commit) + 1 := by
    rw [World.count, hlog, List.countP_append]
    rfl
  rw [hcounted, hassigned, hloaded]

/-- A file that had an identifier stays as it was. -/
private theorem Leaves.mem_files {accounts : List (DataFileId × Fate)} (h : Leaves accounts d e)
    (hfiles : accounts.map (·.1) = pendingFiles d) (hids : (d.files.map (·.id)).Nodup)
    {f : DataFile} (hf : f ∈ d.files) (hsome : f.globalId.isSome = true) : f ∈ e.files := by
  have hother : f.id ∉ accounts.map (·.1) := by
    intro hmem
    rw [hfiles] at hmem
    have hnone := identifier?_of_mem_pendingFiles hids hmem
    rw [Subject.identifier?_of_mem hids hf] at hnone
    rw [hnone] at hsome
    cases hsome
  have howns : d.Owns f.id := ⟨f, hf, rfl⟩
  obtain ⟨f', hf'⟩ := howns.file?
  obtain ⟨hmem, hid⟩ := Dataset.file?_eq_some hf'
  obtain rfl := List.inj_on_of_nodup_map hids hmem hf hid
  exact (Dataset.file?_eq_some ((h.others _ hother).trans hf')).1

private theorem accounted_of_run {id : DatasetId} {u u' : World} {summary : FileIdentifierSummary}
    (hw : w.store.Reachable) (hids : (d.files.map (·.id)).Nodup)
    (hmost : 1 ≤ s.identifiers.maxRegistrationAttempts)
    (hload : (findDataset id).run s w = (.ok d, u))
    (hassign : (assignAll (pendingFiles d) d .empty).run s u = (.ok (e, summary), u'))
    (hcommit : (commit (.merge e)).run s u' = (.ok e, v)) :
    ∃ accounts, Accounted s id w v d summary e accounts := by
  obtain ⟨accounts, hfiles, haccounts, hsummary⟩ :=
    accounts_of_run_assignAll (fun x hx => owns_of_mem_pendingFiles hx) hassign
  have hleaves : Leaves accounts d e := by
    apply haccounts.leaves <;> rw [hfiles]
    · exact nodup_pendingFiles hids
    · exact fun x hx => owns_of_mem_pendingFiles hx
    · exact fun x hx => identifier?_of_mem_pendingFiles hids hx
  obtain ⟨hd, hloaded⟩ := of_run_findDataset_ok hload
  obtain ⟨-, -, hstored⟩ := of_run_commit_ok hcommit
  have hnumbered := (confined_assignAll (pendingFiles d) d .empty).allows hassign
  have hrequests : v.requests = w.requests ++ accounts.flatMap (·.2.requests) := by
    rw [requests_of_run_commit hcommit, haccounts.requests,
      (confined_findDataset_call id).requests ?_ hload]
    intro c hc
    cases c <;> first | rfl | cases hc
  -- Of the counts of the summary, each is a count of fates.
  rw [foldl_addTo] at hsummary
  simp only [FileIdentifierSummary.empty, Nat.zero_add] at hsummary
  have hsplit (p : DataFileId × Fate → Bool) :
      accounts.countP p + accounts.countP (fun a => !p a) = (pendingFiles d).length := by
    rw [← hfiles, List.length_map, List.length_eq_countP_add_countP p]
    simp
  refine ⟨accounts, ?_⟩
  constructor
  case run => exact ⟨u, u', hload, haccounts, hcommit⟩
  case files => exact hfiles
  case stored =>
    have hid : e.id = id := (congrArg Dataset.id hleaves.same).trans (hw.keyed id d hd)
    have hfound := findDataset?_of_run_commit hcommit
    rwa [show (UnitOfWork.merge e).dataset = e from rfl, hid] at hfound
  case commits =>
    refine ⟨?_, count_commit_of_run hload hassign hcommit⟩
    rw [hstored, ← hloaded, show u'.store = _ from hnumbered.1]
    rfl
  case untouched => exact fun f hf => hleaves.mem_files hfiles hids hf
  case assigned =>
    rw [hsummary, ← hfiles, List.countP_map]
    apply List.countP_congr
    intro a ha
    rw [Function.comp_apply, hleaves.assigned a ha]
  case ungenerated =>
    rw [hsummary]
    exact hsplit _
  case registered => rw [hsummary]
  case stamps =>
    intro a ha
    split
    · next hregistered => exact hleaves.stamped a ha hregistered
    · next hunregistered => exact hleaves.unstamped a ha (by simpa using hunregistered)
  case requests => exact hrequests
  case bounded =>
    intro a ha
    obtain ⟨_, _, _, _, hbecame⟩ := haccounts.of_mem a ha
    exact hbecame.bounded hmost
  case immediate =>
    intro hnow
    have hfailed : accounts.countP (·.2.isFailed) =
        accounts.countP (fun a => !a.2.isRegistered) := by
      apply List.countP_congr
      intro a ha
      obtain ⟨_, _, _, _, hbecame⟩ := haccounts.of_mem a ha
      rw [hbecame.isFailed_of_immediate hnow]
    rw [hsummary, hfailed]
    exact hsplit _
  case deferred =>
    intro hlater
    have hall (a : DataFileId × Fate) (ha : a ∈ accounts) : a.2.isFailed = !a.2.isAssigned ∧
        a.2.isRegistered = false ∧ a.2.requests = [] := by
      obtain ⟨_, _, _, _, hbecame⟩ := haccounts.of_mem a ha
      exact hbecame.of_deferred hlater
    have hfailed : accounts.countP (·.2.isFailed) =
        accounts.countP (fun a => !a.2.isAssigned) := by
      apply List.countP_congr
      intro a ha
      rw [(hall a ha).1]
    have hunasked : accounts.flatMap (·.2.requests) = [] :=
      List.flatMap_eq_nil_iff.mpr fun a ha => (hall a ha).2.2
    refine ⟨?_, ?_, ?_⟩
    · rw [hrequests, hunasked, List.append_nil]
    · rw [hsummary]
      apply List.countP_eq_zero.mpr
      intro a ha
      simp [(hall a ha).2.1]
    · rw [hsummary, hfailed]
      exact hsplit _

/-- A run that gives the files of a dataset identifiers accounts for each of them, and makes one
commit. A run that fails, for an unknown dataset too, and one that finds nothing to do make none. -/
theorem file_identifiers_accounted {id : DatasetId}
    {result : Except Failure FileIdentifierSummary} (hw : w.store.Reachable)
    (henabled : s.identifiers.fileIdentifiersEnabled = true)
    (hmost : 1 ≤ s.identifiers.maxRegistrationAttempts)
    (h : (assignFileIdentifiers id).run s w = (result, v)) :
    (∀ d summary, w.store.findDataset? id = some d → (d.files.map (·.id)).Nodup →
      result = .ok summary → pendingFiles d ≠ [] →
      ∃ e accounts, Accounted s id w v d summary e accounts) ∧
    ((∃ failure, result = .error failure) ∨
        (∀ d, w.store.findDataset? id = some d → pendingFiles d = []) →
      v.store.commits = w.store.commits ∧
      v.store = { w.store with identifierSequence := v.store.identifierSequence }) := by
  have hkept (hnumbered : StoreEffect.numbering.allows w.store v.store) :
      v.store.commits = w.store.commits ∧
        v.store = { w.store with identifierSequence := v.store.identifierSequence } := by
    have hcommits := congrArg Store.commits hnumbered.1
    exact ⟨hcommits, hnumbered.1⟩
  rcases of_run_assignFileIdentifiers henabled h with
    ⟨failure, rfl, hload⟩ | ⟨d, hnone, rfl, hload⟩ |
      ⟨d, u, u', e, summary, stored, hpending, hload, hassign, hcommit, rfl⟩
  · refine ⟨?_, fun _ => hkept ((confined_findDataset id).of_none.allows hload)⟩
    rintro d summary - - ⟨⟩
  · refine ⟨?_, fun _ => hkept ((confined_findDataset id).of_none.allows hload)⟩
    intro d' summary hd' _ _ hpending
    obtain rfl : d = d' := Option.some.inj ((of_run_findDataset_ok hload).1.symm.trans hd')
    exact absurd hnone hpending
  · have hd := (of_run_findDataset_ok hload).1
    rcases run_commit (.merge e) s u' with ⟨failure, failed, hfailed⟩ | ⟨-, hstored⟩
    · cases hcommit.symm.trans hfailed
      have hloaded : StoreEffect.numbering.allows w.store u.store :=
        (confined_findDataset id).of_none.allows hload
      have hassigned := (confined_assignAll (pendingFiles d) d .empty).allows hassign
      refine ⟨?_, fun _ => hkept (StoreEffect.numbering.trans hloaded hassigned)⟩
      rintro d' summary' - - ⟨⟩
    · cases hcommit.symm.trans hstored
      constructor
      · intro d' summary' hd' hids hsummary _
        obtain rfl : d = d' := Option.some.inj (hd.symm.trans hd')
        obtain rfl : summary = summary' := Except.ok.inj hsummary
        obtain ⟨accounts, haccounted⟩ := accounted_of_run hw hids hmost hload hassign hcommit
        exact ⟨e, accounts, haccounted⟩
      · rintro (⟨failure, hfailed⟩ | hnone)
        · cases hfailed
        · exact absurd (hnone d hd) hpending

/-! ### A fickle registry, and a commit that fails -/

/-- The first identifier submitted is taken, the second is registered, and then nothing is. -/
def fickleRegistry : Surroundings :=
  { calmSurroundings with
    registry := fun n target =>
      .ok (if n = 0 then .collision target.identifier "taken"
        else if n = 1 then .registered target.identifier
        else .failed target.identifier "down") }

theorem file_identifiers_accounted_when_fickle :
    (∃ v e accounts, (assignFileIdentifiers partlyNumbered.id).run fickleRegistry numberedWorld =
        (.ok ⟨2, 1, 1⟩, v) ∧
      Accounted fickleRegistry partlyNumbered.id numberedWorld v partlyNumbered ⟨2, 1, 1⟩ e
        accounts) ∧
    ∃ failure v, (assignFileIdentifiers partlyNumbered.id).run fullSurroundings numberedWorld =
        (.error failure, v) ∧ v.store.commits = numberedWorld.store.commits := by
  have hstored : numberedWorld.store.findDataset? partlyNumbered.id = some partlyNumbered := by
    decide +kernel
  constructor
  · have hok : ((assignFileIdentifiers partlyNumbered.id).run fickleRegistry
        numberedWorld).1.toOption = some ⟨2, 1, 1⟩ := by decide +kernel
    cases hrun : (assignFileIdentifiers partlyNumbered.id).run fickleRegistry numberedWorld with
    | mk result v =>
      rw [hrun] at hok
      cases result with
      | error failure => cases hok
      | ok summary =>
        obtain rfl : summary = ⟨2, 1, 1⟩ := Option.some.inj hok
        obtain ⟨e, accounts, haccounted⟩ := (file_identifiers_accounted reachable_numberedWorld
          rfl (by decide) hrun).1 _ _ hstored (by decide) rfl (by decide)
        exact ⟨v, e, accounts, rfl, haccounted⟩
  · have hfailed : ((assignFileIdentifiers partlyNumbered.id).run fullSurroundings
        numberedWorld).1.toOption = none := by decide +kernel
    cases hrun : (assignFileIdentifiers partlyNumbered.id).run fullSurroundings numberedWorld with
    | mk result v =>
      rw [hrun] at hfailed
      cases result with
      | ok summary => cases hfailed
      | error failure =>
        have hkept := (file_identifiers_accounted reachable_numberedWorld rfl (by decide) hrun).2
          (Or.inl ⟨failure, rfl⟩)
        exact ⟨failure, v, rfl, hkept.1⟩

end Repository

end Depository
