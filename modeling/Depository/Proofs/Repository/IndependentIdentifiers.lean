import Depository.Proofs.Repository.FileAccounting
import Depository.Proofs.Repository.Resubmission
import Mathlib.Data.List.Perm.Basic

/-!
# Independent identifiers for files

Where the identifiers of files do not extend that of their dataset, each is found unused by what is
stored. What the same run gave to other files is not stored yet, so that only the draws keep the
identifiers of one run apart: numbers of the sequence do not repeat, and random local parts may.
-/

namespace Depository

namespace Repository

open Depository.Action Depository.Dataset

variable {s : Surroundings} {w u v : World} {d₀ d d' e : Dataset} {x : DataFileId} {id g : GlobalId}
  {renewed : List GlobalId} {lots later : List Int}

theorem draws_findDataset (id : DatasetId) : Draws (findDataset id) := by
  have hask : Draws (findDataset? id) := by
    intro s w
    obtain ⟨vanished, hrun⟩ := run_findDataset? id s w
    rw [hrun]
    exact draws_askStore _ _ s w
  refine hask.bind fun found => ?_
  cases found with
  | none => exact registering_draws.fail _
  | some d => exact registering_draws.pure d

/-! ### What files gain -/

/-- The identifier of a file that it did not have in an earlier state. -/
def gained (f : DataFile × DataFile) : Option GlobalId :=
  if f.2.globalId = f.1.globalId then none else f.2.globalId

/-- The identifiers that the files of a dataset, place by place, did not have in an earlier state of
it. -/
def gainedIdentifiers (d e : Dataset) : List GlobalId := (d.files.zip e.files).filterMap gained

private theorem gainedIdentifiers_self (d : Dataset) : gainedIdentifiers d d = [] := by
  have hsame (l : List DataFile) : (l.zip l).filterMap gained = [] := by
    induction l with
    | nil => rfl
    | cons f rest ih =>
      have hf : gained (f, f) = none := if_pos rfl
      rw [List.zip_cons_cons, List.filterMap_cons, hf, ih]
  exact hsame d.files

/-- A change of one file adds at most one identifier. -/
private theorem gained_mapFirst {cond : DataFile → Bool} {change : DataFile → DataFile}
    (h : ∀ f, (change f).globalId = some g) (olds news : List DataFile) :
    ((olds.zip (mapFirst cond change news)).filterMap gained).Subperm
      (g :: (olds.zip news).filterMap gained) := by
  induction news generalizing olds with
  | nil => simp [mapFirst]
  | cons f rest ih =>
    cases olds with
    | nil => simp
    | cons f₀ olds =>
      unfold mapFirst
      split
      · -- What the file had before is lost, if that was new.
        have hrest : ((olds.zip rest).filterMap gained).Subperm
            (((f₀, f) :: olds.zip rest).filterMap gained) :=
          ((List.sublist_cons_self _ _).filterMap gained).subperm
        rw [List.zip_cons_cons, List.zip_cons_cons, List.filterMap_cons]
        cases hnew : gained (f₀, change f) with
        | none => exact hrest.cons_right g
        | some g' =>
          obtain rfl : g = g' := by
            simp only [gained, h f] at hnew
            split at hnew
            · cases hnew
            · exact Option.some.inj hnew
          exact (List.subperm_cons g).mpr hrest
      · rw [List.zip_cons_cons, List.zip_cons_cons, List.filterMap_cons, List.filterMap_cons]
        cases gained (f₀, f) with
        | none => exact ih olds
        | some g' =>
          exact ((List.subperm_cons g').mpr (ih olds)).trans (List.Perm.swap _ _ _).subperm

private theorem gained_mapFirst_of_kept {cond : DataFile → Bool} {change : DataFile → DataFile}
    (h : ∀ f, (change f).globalId = f.globalId) (olds news : List DataFile) :
    (olds.zip (mapFirst cond change news)).filterMap gained =
      (olds.zip news).filterMap gained := by
  induction news generalizing olds with
  | nil => rfl
  | cons f rest ih =>
    cases olds with
    | nil => rfl
    | cons f₀ olds =>
      have hsame : gained (f₀, change f) = gained (f₀, f) := by simp only [gained, h f]
      unfold mapFirst
      split
      · rw [List.zip_cons_cons, List.zip_cons_cons, List.filterMap_cons, List.filterMap_cons, hsame]
      · rw [List.zip_cons_cons, List.zip_cons_cons, List.filterMap_cons, List.filterMap_cons, ih]

private theorem gainedIdentifiers_assign (x : DataFileId) (g : GlobalId) (d₀ d : Dataset) :
    (gainedIdentifiers d₀ ((Subject.file x).assign g d)).Subperm (g :: gainedIdentifiers d₀ d) :=
  gained_mapFirst (fun _ => rfl) d₀.files d.files

private theorem gainedIdentifiers_markRegistered (x : DataFileId) (time : Time.Instant)
    (d₀ d : Dataset) :
    gainedIdentifiers d₀ ((Subject.file x).markRegistered time d) = gainedIdentifiers d₀ d := by
  apply gained_mapFirst_of_kept
  exact fun _ => rfl

/-- The files gain no more than what their registration makes up. -/
private theorem Renewals.gainedIdentifiers (h : Renewals s (.file x) e v w d id renewed)
    (d₀ : Dataset) :
    (gainedIdentifiers d₀ e).Subperm (renewed ++ gainedIdentifiers d₀ d) := by
  induction h with
  | settled _ hsettled =>
    rcases hsettled with rfl | ⟨time, rfl⟩
    · exact List.Subperm.refl _
    · rw [gainedIdentifiers_markRegistered]
      exact List.Subperm.refl _
  | @renewed w u u' d id next later _ _ _ ih =>
    have hassigned := gainedIdentifiers_assign x next d₀ d
    exact (ih.trans ((List.subperm_append_left later).mpr hassigned)).trans List.perm_middle.subperm

theorem Renewals.globalId_eq (h : Renewals s (.file x) e v w d id renewed) :
    e.globalId = d.globalId := by
  induction h with
  | settled _ hsettled =>
    rcases hsettled with rfl | ⟨time, rfl⟩
    · rfl
    · rfl
  | renewed _ _ _ ih => exact ih

/-! ### Runs -/

/-- What files gain while a dataset changes comes from draws that are made meanwhile, from each at
most one identifier. -/
structure Gains (s : Surroundings) (d₀ : Dataset) (w v : World) (d e : Dataset) (lots : List Int) :
    Prop where
  drawing : Drawing w v
  draws : Lots s.identifiers.identifierStyle w v lots
  globalId_eq : e.globalId = d.globalId
  gained : (gainedIdentifiers d₀ e).Subperm
    (lots.map (drawnIdentifier s.identifiers (origin s.identifiers d.globalId) w) ++
      gainedIdentifiers d₀ d)

namespace Gains

private theorem of_drawing (h : Drawing w v) (d₀ d : Dataset) : Gains s d₀ w v d d [] :=
  ⟨h, .nil, rfl, List.Subperm.refl _⟩

theorem trans (h : Gains s d₀ w u d d' lots) (h' : Gains s d₀ u v d' e later) :
    Gains s d₀ w v d e (lots ++ later) where
  drawing := h.drawing.trans h'.drawing
  draws := h.draws.append h'.draws h.drawing h'.drawing
  globalId_eq := h'.globalId_eq.trans h.globalId_eq
  gained := by
    let draw := drawnIdentifier s.identifiers (origin s.identifiers d.globalId) w
    have hsame : later.map (drawnIdentifier s.identifiers (origin s.identifiers d'.globalId) u) =
        later.map draw := by
      rw [h.globalId_eq]
      exact List.map_congr_left fun n _ => h.drawing.drawnIdentifier_eq s.identifiers _ n
    have hlater := h'.gained
    rw [hsame] at hlater
    have hboth := hlater.trans ((List.subperm_append_left (later.map draw)).mpr h.gained)
    rw [List.map_append, List.append_assoc]
    exact hboth.trans (List.perm_append_comm_assoc _ _ _).subperm

/-- A file is given what was made up for its dataset. -/
private theorem of_generateForFile (hindependent : s.identifiers.dependentFiles = false)
    (h : (generateForFile d).run s w = (.ok g, v)) (d₀ : Dataset) (x : DataFileId) :
    ∃ n, Gains s d₀ w v d ((Subject.file x).assign g d) [n] := by
  have hdrawing := (registering_draws.generateForFile d).drawing h
  rw [run_generateForFile_of_independent hindependent] at h
  obtain ⟨n, hle, hlt, rfl⟩ := of_run_generate h
  exact ⟨n, hdrawing, .single hle hlt, rfl, gainedIdentifiers_assign x _ d₀ d⟩

private theorem of_renewals (hindependent : s.identifiers.dependentFiles = false)
    (hid : (Subject.file x).identifier? d = some id)
    (h : Renewals s (.file x) e v w d id renewed) (d₀ : Dataset) :
    ∃ lots, Gains s d₀ w v d e lots := by
  have hgained := h.gainedIdentifiers d₀
  obtain ⟨lots, hlots, rfl⟩ := h.lots (Or.inr hindependent) hid
  exact ⟨lots, h.drawing, hlots, h.globalId_eq, hgained⟩

end Gains

/-- A file that waits gains what is made up for it, or what its registration makes up in place of
that. -/
private theorem Became.gains {fate : Fate} (h : Became s x d w fate e v)
    (hindependent : s.identifiers.dependentFiles = false) (d₀ : Dataset) :
    ∃ lots, Gains s d₀ w v d e lots := by
  cases h with
  | ungenerated hgenerate =>
    have hdrawing := (registering_draws.generateForFile d).drawing hgenerate
    exact ⟨[], .of_drawing hdrawing d₀ d⟩
  | deferred _ hgenerate =>
    obtain ⟨n, hgiven⟩ := Gains.of_generateForFile hindependent hgenerate d₀ x
    exact ⟨[n], hgiven⟩
  | asked _ howns hgenerate hrun _ =>
    obtain ⟨n, hgiven⟩ := Gains.of_generateForFile hindependent hgenerate d₀ x
    obtain ⟨renewed, -, hrenewed⟩ := renewals_of_run_registerFrom hrun
    obtain ⟨lots, hregistered⟩ := Gains.of_renewals hindependent
      (Subject.identifier?_assign_of_owns howns _) hrenewed d₀
    exact ⟨n :: lots, hgiven.trans hregistered⟩

/-- Whatever one file gains, what the next one gains comes from later draws. -/
private theorem Accounts.gains {accounts : List (DataFileId × Fate)}
    (h : Accounts s d w accounts e v)
    (hindependent : s.identifiers.dependentFiles = false) (d₀ : Dataset) :
    ∃ lots, Gains s d₀ w v d e lots := by
  induction h with
  | nil => exact ⟨[], .of_drawing (.refl _) d₀ _⟩
  | cons hbecame _ ih =>
    obtain ⟨lots, hgains⟩ := hbecame.gains hindependent d₀
    obtain ⟨later, hlater⟩ := ih
    exact ⟨lots ++ later, hgains.trans hlater⟩

/-! ### Whole runs -/

/-- Storing a dataset draws nothing. -/
private theorem drawn_of_run_commit {work : UnitOfWork} {result : Except Failure Dataset}
    (h : (commit work).run s w = (result, v)) (style : IdentifierStyle) :
    drawn style v = drawn style w ∧ v.localParts = w.localParts := by
  rcases run_commit work s w with ⟨_, failed, hfailed⟩ | ⟨-, hstored⟩
  · have hv : v = _ := congrArg Prod.snd (h.symm.trans hfailed)
    subst hv
    cases style <;> exact ⟨rfl, rfl⟩
  · have hv : v = _ := congrArg Prod.snd (h.symm.trans hstored)
    subst hv
    cases style <;> exact ⟨rfl, rfl⟩

/-- The local parts that are drawn differ, being numbers or else random ones that do not repeat. -/
private theorem drawnText_ne {style : IdentifierStyle} (hapart : style = .sequence ∨
      ∀ m n, w.localParts.taken ≤ m → m < n → n < v.localParts.taken →
        w.localParts.stream m ≠ w.localParts.stream n) :
    style = .sequence ∨ ∀ m n, drawn style w ≤ m → m < n → n < drawn style v →
      drawnText style w m ≠ drawnText style w n := by
  cases style with
  | sequence => exact Or.inl rfl
  | randomString =>
    right
    have hdiffer := hapart.resolve_left (by simp)
    intro m n hm hmn hn
    have hfirst : (w.localParts.taken : Int) ≤ m := hm
    have hlast : n < (v.localParts.taken : Int) := hn
    intro hsame
    exact hdiffer m.toNat n.toNat (by omega) (by omega) (by omega) (localText_injective hsame)

/-- Independent identifiers that files get in one run come from different draws, from each at most
one. So no two files get the same one if local parts are numbers of the sequence, or if no random
local part was drawn twice. -/
theorem independent_identifiers_from_draws {id : DatasetId} {summary : FileIdentifierSummary}
    (hw : w.store.Reachable) (hd : w.store.findDataset? id = some d)
    (hindependent : s.identifiers.dependentFiles = false)
    (h : (assignFileIdentifiers id).run s w = (.ok summary, v)) :
    ∃ (e : Dataset) (lots : List Int), v.store.findDataset? id = some e ∧
      e.files.map (·.id) = d.files.map (·.id) ∧
      Lots s.identifiers.identifierStyle w v lots ∧
      (gainedIdentifiers d e).Subperm
        (lots.map (drawnIdentifier s.identifiers (origin s.identifiers d.globalId) w)) ∧
      ((s.identifiers.identifierStyle = .sequence ∨
        ∀ m n, w.localParts.taken ≤ m → m < n → n < v.localParts.taken →
          w.localParts.stream m ≠ w.localParts.stream n) → (gainedIdentifiers d e).Nodup) := by
  rcases of_run_assignFileIdentifiers_ok h with
    ⟨-, hstore⟩ | ⟨d', e, saved, u, u', -, -, hload, hassign, hcommit⟩
  · refine ⟨d, [], hstore ▸ hd, rfl, .nil, ?_, fun _ => ?_⟩
    · rw [gainedIdentifiers_self]
      exact List.Subperm.refl _
    · rw [gainedIdentifiers_self]
      exact List.nodup_nil
  · obtain rfl : d = d' := Option.some.inj (hd.symm.trans (of_run_findDataset_ok hload).1)
    have hloaded := (draws_findDataset id).drawing hload
    obtain ⟨accounts, -, haccounts, -⟩ :=
      accounts_of_run_assignAll (fun x hx => owns_of_mem_pendingFiles hx) hassign
    obtain ⟨lots, hgains⟩ := haccounts.gains hindependent d
    have hsame := returns_assignAll (pendingFiles d) d .empty s u (e, summary) u' hassign
    obtain ⟨hdrawn, hparts⟩ := drawn_of_run_commit hcommit s.identifiers.identifierStyle
    have hlots : Lots s.identifiers.identifierStyle w v lots := by
      refine ⟨hgains.draws.increasing, fun n hn => ?_⟩
      rw [hdrawn]
      exact (hgains.draws.widen hloaded (.refl u')).inside n hn
    have hgained := hgains.gained
    rw [gainedIdentifiers_self, List.append_nil] at hgained
    have hdraws : lots.map (drawnIdentifier s.identifiers (origin s.identifiers d.globalId) u) =
        lots.map (drawnIdentifier s.identifiers (origin s.identifiers d.globalId) w) :=
      List.map_congr_left fun n _ => hloaded.drawnIdentifier_eq s.identifiers _ n
    rw [hdraws] at hgained
    have hid : e.id = id := (congrArg Dataset.id hsame).trans (hw.keyed id d hd)
    have hfound := findDataset?_of_run_commit hcommit
    rw [show (UnitOfWork.merge e).dataset = e from rfl, hid] at hfound
    refine ⟨e, lots, hfound, files_map_id_of_unidentified hsame, hlots, hgained, fun hapart => ?_⟩
    obtain ⟨l, hperm, hsub⟩ := hgained
    exact hperm.nodup_iff.mp (hsub.nodup (hlots.nodup (drawnText_ne hapart) _))

/-! ### Numbers, and a local part that is drawn twice -/

/-- A registered draft with two files that have no identifier. -/
def twoAwaiting : Dataset :=
  { registeredDraft with
    files := [DataFile.new ⟨⟨3⟩⟩ "text/csv" 9 "b021", DataFile.new ⟨⟨5⟩⟩ "text/csv" 9 "b022"] }

/-- The identifiers of files are numbers of the sequence, and the first one submitted is taken. -/
def independentNumbers : Surroundings :=
  { takenOnce with
    identifiers := { IdentifierSettings.default with
      style := "storedProcGenerated"
      fileIdentifierFormat := "independent" } }

theorem independent_identifiers_from_numbers :
    ∃ summary v e, (assignFileIdentifiers twoAwaiting.id).run independentNumbers
        (storing twoAwaiting) = (.ok summary, v) ∧
      v.store.findDataset? twoAwaiting.id = some e ∧
      gainedIdentifiers twoAwaiting e = [⟨"doi", "10.5072", "FK22"⟩, ⟨"doi", "10.5072", "FK23"⟩] ∧
      (gainedIdentifiers twoAwaiting e).Nodup := by
  have hok : ((assignFileIdentifiers twoAwaiting.id).run independentNumbers
      (storing twoAwaiting)).1.toOption.isSome = true := by decide +kernel
  have hgiven : (((assignFileIdentifiers twoAwaiting.id).run independentNumbers
      (storing twoAwaiting)).2.store.findDataset? twoAwaiting.id).map
        (gainedIdentifiers twoAwaiting) =
          some [⟨"doi", "10.5072", "FK22"⟩, ⟨"doi", "10.5072", "FK23"⟩] := by decide +kernel
  have hstored : (storing twoAwaiting).store.findDataset? twoAwaiting.id = some twoAwaiting := by
    decide +kernel
  cases hrun : (assignFileIdentifiers twoAwaiting.id).run independentNumbers
      (storing twoAwaiting) with
  | mk result v =>
    rw [hrun] at hok hgiven
    cases result with
    | error failure => cases hok
    | ok summary =>
      obtain ⟨e, lots, hfound, -, -, -, hapart⟩ := independent_identifiers_from_draws
        (reachable_storing twoAwaiting) hstored (by decide) hrun
      rw [hfound] at hgiven
      exact ⟨summary, v, e, rfl, hfound, Option.some.inj hgiven, hapart (Or.inl (by decide))⟩

/-- The identifiers of files have random local parts, and are registered later. -/
def independentParts : Surroundings :=
  { calmSurroundings with
    identifiers := { IdentifierSettings.default with
      registerWhenPublished := true
      fileIdentifierFormat := "independent" } }

/-- Every local part drawn is the same. -/
def repeatingParts : World :=
  { storing twoAwaiting with localParts := ⟨fun _ => LocalPart.ofNat 0, 0⟩ }

/-- Both files get the identifier that is drawn twice, as neither draw finds it stored. -/
theorem independent_identifier_shared :
    repeatingParts.store.Reachable ∧
      repeatingParts.store.findDataset? twoAwaiting.id = some twoAwaiting ∧
      ∃ summary v e, (assignFileIdentifiers twoAwaiting.id).run independentParts repeatingParts =
          (.ok summary, v) ∧
        v.store.findDataset? twoAwaiting.id = some e ∧
        gainedIdentifiers twoAwaiting e =
          [⟨"doi", "10.5072", "FK2AAAAAA"⟩, ⟨"doi", "10.5072", "FK2AAAAAA"⟩] ∧
        ¬ (gainedIdentifiers twoAwaiting e).Nodup := by
  have hok : ((assignFileIdentifiers twoAwaiting.id).run independentParts
      repeatingParts).1.toOption.isSome = true := by decide +kernel
  have hgiven : (((assignFileIdentifiers twoAwaiting.id).run independentParts
      repeatingParts).2.store.findDataset? twoAwaiting.id).map (gainedIdentifiers twoAwaiting) =
        some [⟨"doi", "10.5072", "FK2AAAAAA"⟩, ⟨"doi", "10.5072", "FK2AAAAAA"⟩] := by
    decide +kernel
  refine ⟨reachable_storing twoAwaiting, by decide +kernel, ?_⟩
  cases hrun : (assignFileIdentifiers twoAwaiting.id).run independentParts repeatingParts with
  | mk result v =>
    rw [hrun] at hok hgiven
    cases result with
    | error failure => cases hok
    | ok summary =>
      obtain ⟨e, hfound, hshared⟩ := Option.map_eq_some_iff.mp hgiven
      refine ⟨summary, v, e, rfl, hfound, hshared, ?_⟩
      rw [hshared]
      decide

end Repository

end Depository
