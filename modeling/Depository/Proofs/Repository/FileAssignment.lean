import Depository.Proofs.Repository.Interleaving
import Depository.Proofs.Repository.Retry
import Depository.Proofs.Repository.Saving

/-!
# Identifiers for files among other saves

Who gives the files of a dataset identifiers holds a copy of the dataset over any number of calls
of the registry and then stores it. The store compares the copy with nothing but the published
versions. So a save of another task in between is undone, but for the content of what it has
published; one before the copy was taken and one after it was stored stay.
-/

namespace Depository

namespace Dataset

/-- A dataset still has what a save has brought: the fields of the draft, the files and no others,
the records of the versions and no others, and the states of the versions. What the save deleted is
deleted still, be it a file or no more than the record that the draft had of a published one. -/
structure KeepsSave (final saved : Dataset) : Prop where
  fields : final.draftFields? = saved.draftFields?
  files : ∀ x, final.Owns x ↔ saved.Owns x
  records : final.versions.map (fun v => (v.id, v.fileMetadata)) =
    saved.versions.map fun v => (v.id, v.fileMetadata)
  states : final.versions.map (fun v => (v.id, v.state)) =
    saved.versions.map fun v => (v.id, v.state)

private theorem keepsSave_iff_of_unidentified {d e saved : Dataset}
    (h : e.unidentified = d.unidentified) : e.KeepsSave saved ↔ d.KeepsSave saved := by
  have hunidentified := congrArg Dataset.versions h
  have hversions : e.versions = d.versions := hunidentified
  have hdraft : e.draftFields? = d.draftFields? := by
    simp only [draftFields?, draft?, latest?, hversions]
  have howns (x : DataFileId) : e.Owns x ↔ d.Owns x := (SameFiles.of_unidentified h).owns_iff x
  constructor
  · intro hkeeps
    exact ⟨hdraft ▸ hkeeps.fields, fun x => (howns x).symm.trans (hkeeps.files x),
      hversions ▸ hkeeps.records, hversions ▸ hkeeps.states⟩
  · intro hkeeps
    exact ⟨hdraft.trans hkeeps.fields, fun x => (howns x).trans (hkeeps.files x),
      hversions.symm ▸ hkeeps.records, hversions.symm ▸ hkeeps.states⟩

theorem KeepsSave.refl (d : Dataset) : d.KeepsSave d := ⟨rfl, fun _ => Iff.rfl, rfl, rfl⟩

/-- The published versions of a dataset are there with their content. -/
def KeepsPublished (final saved : Dataset) : Prop :=
  ∀ v ∈ saved.versions, v.isDraft = false →
    ∃ u, (final.versions.find? fun u => u.id == v.id) = some u ∧
      u.fields = v.fields ∧ u.fileMetadata = v.fileMetadata

end Dataset

namespace Repository

open Depository.Action Relation

/-! ### The steps of the assignment -/

/-- What is due next: the files that wait for an identifier, a request to the registry after
`made` others while `left` more may follow, or another identifier in place of one that is taken. -/
inductive Due where
  | files (waiting : List DataFileId)
  | request (file : DataFileId) (waiting : List DataFileId) (left made : Nat) (id : GlobalId)
  | renewal (file : DataFileId) (waiting : List DataFileId) (left made : Nat) (taken : GlobalId)
  deriving DecidableEq

/-- How far the files of a dataset have got identifiers, since a copy was taken of it. -/
structure Assignment where
  copy : Dataset
  dataset : Dataset
  summary : FileIdentifierSummary
  due : Due

/-- The summary after the registry was asked to register an identifier. -/
def FileIdentifierSummary.addAnswer (report : RegistrationReport) (s : FileIdentifierSummary) :
    FileIdentifierSummary :=
  if report.isRegistered then s.addRegistered else s.addFailed

namespace Assignment

def begin (d : Dataset) : Assignment := ⟨d, d, .empty, .files (pendingFiles d)⟩

def failed (a : Assignment) (waiting : List DataFileId) : Assignment :=
  { a with summary := a.summary.addFailed, due := .files waiting }

def answered (a : Assignment) (waiting : List DataFileId) (x : RegistrationReport × Dataset) :
    Assignment :=
  { a with
    dataset := x.2
    summary := a.summary.addAnswer x.1
    due := .files waiting }

/-- The assignment after an identifier was made up for a file, which is registered if the settings
say so. -/
def identified (settings : IdentifierSettings) (file : DataFileId) (waiting : List DataFileId)
    (id : GlobalId) (a : Assignment) : Assignment :=
  let d := (Subject.file file).assign id a.dataset
  let a := { a with dataset := d, summary := a.summary.addAssigned, due := .files waiting }
  match settings.registersImmediately, (Subject.file file).identifier? d with
  | true, some id =>
    { a with due := .request file waiting (settings.maxRegistrationAttempts - 1) 0 id }
  | true, none => a.failed waiting
  | false, _ => a

/-- One step, with one request to the registry at most. -/
def advance (a : Assignment) : Action Assignment :=
  match a.due with
  | .files [] => pure a
  | .files (file :: waiting) => do
    match ← outcome (generateForFile a.dataset) with
    | .error _ => return a.failed waiting
    | .ok id => return a.identified (← surroundings).identifiers file waiting id
  | .request file waiting left made id => do
    let x ← attempt (.file file) made id a.dataset
      (pure (⟨made + 1, .collision, id⟩, a.dataset))
    match x.1.status, left with
    | .collision, left + 1 => return { a with due := .renewal file waiting left (made + 1) id }
    | _, _ => return a.answered waiting x
  | .renewal file waiting left made taken => do
    match ← outcome (regenerate a.dataset (.file file) taken) with
    | .error _ => return a.failed waiting
    | .ok id =>
      return { a with
        dataset := (Subject.file file).assign id a.dataset
        due := .request file waiting left made id }

variable {a b : Assignment} {s : Surroundings} {w v : World}

private theorem identified_leaves (settings : IdentifierSettings) (file : DataFileId)
    (waiting : List DataFileId) (id : GlobalId) (a : Assignment) :
    (a.identified settings file waiting id).copy = a.copy ∧
      (a.identified settings file waiting id).dataset.unidentified = a.dataset.unidentified := by
  have hassign := (Subject.file file).unidentified_assign id a.dataset
  unfold identified
  dsimp only
  split <;> exact ⟨rfl, hassign⟩

/-- A step leaves the copy as it is, and of the dataset all but identifiers and their stamps. -/
theorem returns_advance (a : Assignment) :
    Returns (fun b => b.copy = a.copy ∧ b.dataset.unidentified = a.dataset.unidentified)
      a.advance := by
  unfold advance
  split
  · exact returns_pure ⟨rfl, rfl⟩
  · next file waiting _ =>
    apply Returns.bind
    intro generated
    cases generated with
    | error e => exact returns_pure ⟨rfl, rfl⟩
    | ok id =>
      apply Returns.bind
      intro s
      exact returns_pure (identified_leaves s.identifiers file waiting id a)
  · next file waiting left made id _ =>
    have hattempt : Returns (Identifies a.dataset) (attempt (.file file) made id a.dataset
        (pure (⟨made + 1, .collision, id⟩, a.dataset))) :=
      returns_attempt (Subject.spares_unidentified _) (returns_pure rfl)
    refine hattempt.then fun x hx => ?_
    split
    · exact returns_pure ⟨rfl, rfl⟩
    · exact returns_pure ⟨rfl, hx⟩
  · next file waiting left made taken _ =>
    apply Returns.bind
    intro renewed
    cases renewed with
    | error e => exact returns_pure ⟨rfl, rfl⟩
    | ok id => exact returns_pure ⟨rfl, (Subject.file file).unidentified_assign id a.dataset⟩

theorem confined_advance (a : Assignment) :
    Confined .numbering Event.SeeksIdentifier a.advance := by
  unfold advance
  split
  · exact confined_pure _
  · apply (confined_of_makesUp (generating_confined.generateForFile a.dataset)).outcome.bind
    intro generated
    cases generated with
    | error e => exact confined_pure _
    | ok id =>
      apply confined_surroundings.bind
      intro s
      exact confined_pure _
  · apply (registering_confined.attempt _ _ _ _ (confined_pure _)).bind
    intro x
    split <;> exact confined_pure _
  · apply (confined_of_makesUp (generating_confined.regenerate a.dataset _ _)).outcome.bind
    intro renewed
    cases renewed <;> exact confined_pure _

/-! ### Runs of steps -/

def Step (x y : Assignment × World) : Prop := ∃ s, x.1.advance.run s x.2 = (.ok y.1, y.2)

private theorem steps_registerFrom {copy d e : Dataset} {summary : FileIdentifierSummary}
    {file : DataFileId} {waiting : List DataFileId} {left made : Nat} {id : GlobalId}
    {report : RegistrationReport}
    (h : (registerFrom (.file file) left made id d).run s w = (.ok (report, e), v)) :
    ReflTransGen Step (⟨copy, d, summary, .request file waiting left made id⟩, w)
      (⟨copy, e, summary.addAnswer report, .files waiting⟩, v) := by
  induction left generalizing made id d w with
  | zero =>
    apply ReflTransGen.single
    refine ⟨s, ?_⟩
    unfold registerFrom at h
    simp only [advance]
    rw [run_bind_of_ok h]
    cases report with
    | mk attempts status identifier => cases status <;> rfl
  | succ left ih =>
    obtain ⟨x, u, -, -, -, hattempt⟩ := run_attempt (.file file) made id d s w
    have hasked := hattempt (pure (⟨made + 1, .collision, id⟩, d))
    unfold registerFrom at h
    rw [hattempt] at h
    cases hstatus : x.status with
    | registered =>
      rw [hstatus] at h hasked
      cases h
      apply ReflTransGen.single
      refine ⟨s, ?_⟩
      simp only [advance]
      rw [run_bind_of_ok hasked]
      rfl
    | failed =>
      rw [hstatus] at h hasked
      cases h
      apply ReflTransGen.single
      refine ⟨s, ?_⟩
      simp only [advance]
      rw [run_bind_of_ok hasked]
      rfl
    | collision =>
      rw [hstatus] at h hasked
      have hcollision : Step (⟨copy, d, summary, .request file waiting (left + 1) made id⟩, w)
          (⟨copy, d, summary, .renewal file waiting left (made + 1) id⟩, u) := by
        refine ⟨s, ?_⟩
        simp only [advance]
        rw [run_bind_of_ok hasked]
        rfl
      apply ReflTransGen.head hcollision
      cases hrenew : (regenerate d (.file file) id).run s u with
      | mk renewed u' =>
        have hrenewed := run_outcome hrenew
        rw [run_bind_of_ok hrenewed] at h
        cases renewed with
        | error e =>
          cases h
          apply ReflTransGen.single
          refine ⟨s, ?_⟩
          simp only [advance]
          rw [run_bind_of_ok hrenewed]
          rfl
        | ok next =>
          refine ReflTransGen.head ⟨s, ?_⟩ (ih h)
          simp only [advance]
          rw [run_bind_of_ok hrenewed]
          rfl

private theorem steps_assignOne {copy d e : Dataset} {summary summary' : FileIdentifierSummary}
    {file : DataFileId} {waiting : List DataFileId}
    (h : (assignOne file d summary).run s w = (.ok (e, summary'), v)) :
    ReflTransGen Step (⟨copy, d, summary, .files (file :: waiting)⟩, w)
      (⟨copy, e, summary', .files waiting⟩, v) := by
  unfold assignOne at h
  cases hgenerate : (generateForFile d).run s w with
  | mk generated u =>
    have hgenerated := run_outcome hgenerate
    rw [run_bind_of_ok hgenerated] at h
    cases generated with
    | error e =>
      cases h
      apply ReflTransGen.single
      refine ⟨s, ?_⟩
      simp only [advance]
      rw [run_bind_of_ok hgenerated]
      rfl
    | ok id =>
      have hfirst : Step (⟨copy, d, summary, .files (file :: waiting)⟩, w)
          (identified s.identifiers file waiting id ⟨copy, d, summary, .files (file :: waiting)⟩,
            u) := by
        refine ⟨s, ?_⟩
        simp only [advance]
        rw [run_bind_of_ok hgenerated]
        rfl
      apply ReflTransGen.head hfirst
      dsimp only at h
      rw [run_bind_of_ok (x := surroundings) rfl] at h
      unfold identified
      dsimp only
      rw [Subject.identifier?_assign_file]
      cases hnow : s.identifiers.registersImmediately with
      | false =>
        simp only [hnow, Bool.false_eq_true, if_false] at h
        cases h
        exact ReflTransGen.refl
      | true =>
        simp only [hnow, if_true] at h
        unfold registerAssigned at h
        cases hregister : (registerFile file ((Subject.file file).assign id d)).run s u with
        | mk registered u' =>
          rw [run_bind_of_ok (run_outcome hregister)] at h
          rw [run_registerFile] at hregister
          cases hfound : d.file? file with
          | none =>
            rw [hfound] at hregister
            cases hregister
            cases h
            exact ReflTransGen.refl
          | some f =>
            rw [hfound] at hregister
            have hcarried := Subject.identifier?_assign_file file id d
            rw [hfound] at hcarried
            obtain ⟨-, report, e', u'', hok, -⟩ := run_registerFrom (.file file)
              (s.identifiers.maxRegistrationAttempts - 1) 0 id _ s u hcarried
            cases hregister.symm.trans hok
            cases h
            exact steps_registerFrom hok

private theorem steps_assignAll {copy d e : Dataset} {summary summary' : FileIdentifierSummary}
    {files : List DataFileId} (h : (assignAll files d summary).run s w = (.ok (e, summary'), v)) :
    ReflTransGen Step (⟨copy, d, summary, .files files⟩, w) (⟨copy, e, summary', .files []⟩, v) := by
  induction files generalizing d summary w with
  | nil =>
    cases h
    exact ReflTransGen.refl
  | cons file rest ih =>
    obtain ⟨x, u, hone, hrest⟩ := of_run_bind_ok h
    exact (steps_assignOne hone).trans (ih hrest)

end Assignment

/-! ### Among other saves -/

/-- Where the assignment is: not begun, under way, stored, or ended without being stored. -/
inductive Place where
  | outside
  | underway (a : Assignment)
  | stored (a : Assignment)
  | ended

/-- When another task has saved the dataset: before the copy was taken, while it was held, or after
that. -/
inductive Moment where
  | before | between | after
  deriving DecidableEq

def Place.moment : Place → Moment
  | .outside => .before
  | .underway _ => .between
  | .stored _ | .ended => .after

/-- A world in which the files of a dataset get identifiers, and what another task has saved of the
dataset and when. -/
structure Race where
  world : World
  place : Place
  saved : Option (Moment × Dataset)

/-- A step of the assignment or of the other task, each in surroundings of its own. Whatever else
happens leaves the dataset as it is stored. -/
inductive Race.Step (id : DatasetId) : Race → Race → Prop where
  | load {w v : World} {s : Surroundings} {d : Dataset} {saved : Option (Moment × Dataset)} :
      s.identifiers.fileIdentifiersEnabled = true → (findDataset id).run s w = (.ok d, v) →
      pendingFiles d ≠ [] → Step id ⟨w, .outside, saved⟩ ⟨v, .underway (.begin d), saved⟩
  | advance {w v : World} {s : Surroundings} {a b : Assignment}
      {saved : Option (Moment × Dataset)} : a.advance.run s w = (.ok b, v) →
      Step id ⟨w, .underway a, saved⟩ ⟨v, .underway b, saved⟩
  | store {w v : World} {s : Surroundings} {a : Assignment} {d : Dataset}
      {saved : Option (Moment × Dataset)} : a.due = .files [] →
      (commit (.merge a.dataset)).run s w = (.ok d, v) →
      Step id ⟨w, .underway a, saved⟩ ⟨v, .stored a, saved⟩
  | quit {w : World} {place : Place} {saved : Option (Moment × Dataset)} :
      (∀ a, place ≠ .stored a) → Step id ⟨w, place, saved⟩ ⟨w, .ended, saved⟩
  | save {w v : World} {s : Surroundings} {place : Place} {work : UnitOfWork} {d : Dataset} :
      work.dataset.id = id → (commit work).run s w = (.ok d, v) →
      Step id ⟨w, place, none⟩ ⟨v, place, some (place.moment, d)⟩
  | elsewhere {w v : World} {place : Place} {saved : Option (Moment × Dataset)} :
      v.store.findDataset? id = w.store.findDataset? id →
      Step id ⟨w, place, saved⟩ ⟨v, place, saved⟩

namespace Race

variable {id : DatasetId} {r r' : Race}

/-- What is stored after another task has saved the dataset, wherever the assignment is. -/
def Stands (place : Place) (moment : Moment) (saved : Dataset) (stored : Option Dataset) : Prop :=
  match place, moment with
  | .underway a, .before => a.copy = saved ∧ stored = some saved
  | .stored a, .before => a.copy = saved ∧ stored = some a.dataset
  | .stored a, .between => a.dataset.KeepsPublished saved ∧ stored = some a.dataset
  | .outside, .before | .underway _, .between | .stored _, .after | .ended, _ =>
    stored = some saved
  | _, _ => False

/-- The assignment is about a copy of the dataset and has changed nothing but identifiers. -/
structure Sound (id : DatasetId) (r : Race) : Prop where
  keyed : ∀ d, r.world.store.findDataset? id = some d → d.id = id
  copied : ∀ a, r.place = .underway a ∨ r.place = .stored a →
    a.copy.id = id ∧ a.dataset.unidentified = a.copy.unidentified
  stands : ∀ moment d, r.saved = some (moment, d) →
    Stands r.place moment d (r.world.store.findDataset? id)

private theorem sound_start {w : World} (h : w.store.Reachable) : Sound id ⟨w, .outside, none⟩ where
  keyed d hd := h.keyed id d hd
  copied a ha := by
    rcases ha with ha | ha <;> cases ha
  stands moment d hd := by cases hd

theorem Sound.step (h : r.Sound id) (hstep : Step id r r') : r'.Sound id := by
  cases hstep with
  | @load w v s d saved _ hload _ =>
    obtain ⟨hd, hstore⟩ := of_run_findDataset_ok hload
    have hsame : v.store.findDataset? id = w.store.findDataset? id := by rw [hstore]
    constructor
    · intro e he
      exact h.keyed e (hsame ▸ he)
    · rintro a (ha | ha) <;> cases ha
      exact ⟨h.keyed d hd, rfl⟩
    · intro moment e he
      have hstands := h.stands moment e he
      show Stands (.underway (.begin d)) moment e (v.store.findDataset? id)
      rw [hsame]
      cases moment with
      | before =>
        have hstored : w.store.findDataset? id = some e := hstands
        rw [hd] at hstored
        exact ⟨Option.some.inj hstored, hd.trans hstored⟩
      | between => exact hstands.elim
      | after => exact hstands.elim
  | @advance w v s a b saved hadvance =>
    obtain ⟨hnumbered, -⟩ := (a.confined_advance s w).1
    obtain ⟨hcopy, hdataset⟩ := a.returns_advance s w b v hadvance
    rw [hadvance] at hnumbered
    have hsame : v.store.findDataset? id = w.store.findDataset? id := by
      rw [show v.store = _ from hnumbered]
      rfl
    obtain ⟨hid, hunidentified⟩ := h.copied a (Or.inl rfl)
    constructor
    · intro e he
      exact h.keyed e (hsame ▸ he)
    · rintro c (hc | hc) <;> cases hc
      rw [hcopy]
      exact ⟨hid, hdataset.trans hunidentified⟩
    · intro moment e he
      have hstands := h.stands moment e he
      show Stands (.underway b) moment e (v.store.findDataset? id)
      rw [hsame]
      cases moment with
      | before =>
        obtain ⟨hfrom, hstored⟩ := hstands
        exact ⟨hcopy.trans hfrom, hstored⟩
      | between => exact hstands
      | after => exact hstands.elim
  | @store w v s a d saved hdue hcommit =>
    obtain ⟨-, hadmits, -⟩ := of_run_commit_ok hcommit
    have hstored := findDataset?_of_run_commit hcommit
    obtain ⟨hid, hunidentified⟩ := h.copied a (Or.inl rfl)
    have hdatasetId : a.dataset.id = id := by
      have hids := congrArg Dataset.id hunidentified
      exact hids.trans hid
    rw [show (UnitOfWork.merge a.dataset).dataset = a.dataset from rfl, hdatasetId] at hstored
    constructor
    · intro e he
      cases hstored.symm.trans he
      exact hdatasetId
    · rintro c (hc | hc) <;> cases hc
      exact ⟨hid, hunidentified⟩
    · intro moment e he
      have hstands := h.stands moment e he
      cases moment with
      | before => exact ⟨hstands.1, hstored⟩
      | between =>
        refine ⟨?_, hstored⟩
        have hold : w.store.findDataset? a.dataset.id = some e := hdatasetId ▸ hstands
        exact (hadmits.respects e hold).keeps
      | after => exact hstands.elim
  | @quit w place saved hplace =>
    constructor
    · exact h.keyed
    · rintro c (hc | hc) <;> cases hc
    · intro moment e he
      have hstands := h.stands moment e he
      cases place with
      | outside => cases moment <;> first | exact hstands | exact hstands.elim
      | underway a =>
        cases moment with
        | before => exact hstands.2
        | between => exact hstands
        | after => exact hstands.elim
      | stored a => exact absurd rfl (hplace a)
      | ended => exact hstands
  | @save w v s place work d hid hcommit =>
    obtain ⟨rfl, -, -⟩ := of_run_commit_ok hcommit
    have hstored := findDataset?_of_run_commit hcommit
    rw [hid] at hstored
    constructor
    · intro e he
      cases hstored.symm.trans he
      exact hid
    · exact h.copied
    · intro moment e he
      cases he
      cases place <;> exact hstored
  | @elsewhere w v place saved hsame =>
    constructor
    · intro e he
      exact h.keyed e (hsame ▸ he)
    · exact h.copied
    · intro moment e he
      show Stands place moment e (v.store.findDataset? id)
      rw [hsame]
      exact h.stands moment e he

private theorem sound_of_run {w : World} (hw : w.store.Reachable)
    (hrun : ReflTransGen (Step id) ⟨w, .outside, none⟩ r) : r.Sound id := by
  induction hrun with
  | refl => exact sound_start hw
  | tail _ hstep ih => exact ih.step hstep

/-! ### Runs that nobody interrupts -/

theorem run_of_steps {a b : Assignment} {w v : World} {saved : Option (Moment × Dataset)}
    (h : ReflTransGen Assignment.Step (a, w) (b, v)) :
    ReflTransGen (Step id) ⟨w, .underway a, saved⟩ ⟨v, .underway b, saved⟩ := by
  refine h.lift (fun x => (⟨x.2, .underway x.1, saved⟩ : Race)) ?_
  rintro x y ⟨s, hstep⟩
  exact .advance hstep

theorem run_of_assignment {s : Surroundings} {w v : World} {summary : FileIdentifierSummary}
    {saved : Option (Moment × Dataset)}
    (h : (assignFileIdentifiers id).run s w = (.ok summary, v)) :
    (ReflTransGen (Step id) ⟨w, .outside, saved⟩ ⟨v, .ended, saved⟩ ∧ summary = .empty) ∨
      ∃ a, ReflTransGen (Step id) ⟨w, .outside, saved⟩ ⟨v, .stored a, saved⟩ ∧
        a.summary = summary := by
  rcases of_run_assignFileIdentifiers_ok h with
    ⟨rfl, hstore⟩ | ⟨d, e, d', u, u', henabled, hpending, hload, hassign, hcommit⟩
  · have hsame : v.store.findDataset? id = w.store.findDataset? id := by rw [hstore]
    exact Or.inl ⟨.head (.elsewhere hsame) (.single (.quit fun _ h => by cases h)), rfl⟩
  · have hload : Step id ⟨w, .outside, saved⟩ ⟨u, .underway (.begin d), saved⟩ :=
      .load henabled hload hpending
    have hsteps : ReflTransGen Assignment.Step (.begin d, u) (⟨d, e, summary, .files []⟩, u') :=
      Assignment.steps_assignAll hassign
    have hassigned := ReflTransGen.head hload (run_of_steps hsteps)
    exact Or.inr ⟨_, hassigned.tail (.store rfl hcommit), rfl⟩

/-- An update is one save, whatever else it does. -/
theorem run_of_update {s : Surroundings} {w v : World} {request : UpdateRequest}
    {o : UpdateOutcome} {place : Place} (h : (update request).run s w = (.ok o, v))
    (hid : request.dataset.id = id) :
    ReflTransGen (Step id) ⟨w, place, none⟩ ⟨v, place, some (place.moment, o.dataset)⟩ := by
  obtain ⟨p, work, d, registration, w₁, w₂, w₃, w₄, hprepare, hstage, hregister, hcommit, hfollow,
    rfl⟩ := of_run_update_ok h
  obtain ⟨hnumbered, -, -, hvisited⟩ :=
    store_of_run_stages hprepare hstage hregister hcommit hfollow
  have hbefore : w₃.store.findDataset? id = w.store.findDataset? id := by
    rw [hnumbered]
    rfl
  have hafter : v.store.findDataset? id = w₄.store.findDataset? id := by
    rw [hvisited]
    rfl
  have hwork : (stampUpdate p.time d).id = id :=
    (stagedWork_of_saved hprepare hstage hregister).staged.id_eq.trans hid
  exact ((ReflTransGen.single (.elsewhere hbefore)).tail (.save hwork hcommit)).tail
    (.elsewhere hafter)

/-- The commit of a release is one save. -/
private theorem step_of_release {s : Surroundings} {w v : World} {d stored : Dataset}
    {time : Time.Instant} {minor : Bool} {place : Place} (hid : d.id = id)
    (h : (commit (.merge (d.releaseDraft time minor).2)).run s w = (.ok stored, v)) :
    Step id ⟨w, place, none⟩ ⟨v, place, some (place.moment, (d.releaseDraft time minor).2)⟩ := by
  have hkept : (d.releaseDraft time minor).2.id = d.id := by
    unfold Dataset.releaseDraft
    split <;> rfl
  obtain ⟨rfl, -, -⟩ := of_run_commit_ok h
  exact .save (hkept.trans hid) h

end Race

/-- Whatever the order of the steps, of what another task has saved the dataset still has the
fields of the draft, the files, the records of the versions and no others, and the states of the
versions exactly if the save did not come between the copy and its storing, or the copy had the
same already. Between the two only the content of published versions is safe, for all but
identifiers is as in the copy; at any other time all but identifiers is as it was saved. An
assignment, an update and the commit of a release are runs of such steps. -/
theorem assignment_keeps_save_iff {id : DatasetId} {w : World} {r : Race} {moment : Moment}
    {saved : Dataset} (hw : w.store.Reachable)
    (hrun : ReflTransGen (Race.Step id) ⟨w, .outside, none⟩ r)
    (hsaved : r.saved = some (moment, saved)) :
    (∀ a, r.place = .stored a → ∃ final, r.world.store.findDataset? id = some final ∧
      (final.KeepsSave saved ↔ (moment = .between → a.copy.KeepsSave saved)) ∧
      (moment = .between →
        final.KeepsPublished saved ∧ final.unidentified = a.copy.unidentified) ∧
      (moment ≠ .between → final.unidentified = saved.unidentified)) ∧
    ((∀ a, r.place ≠ .stored a) → r.world.store.findDataset? id = some saved) ∧
    (∀ (s : Surroundings) (u v : World) (saved : Option (Moment × Dataset))
      (summary : FileIdentifierSummary), (assignFileIdentifiers id).run s u = (.ok summary, v) →
      (ReflTransGen (Race.Step id) ⟨u, .outside, saved⟩ ⟨v, .ended, saved⟩ ∧ summary = .empty) ∨
      ∃ a, ReflTransGen (Race.Step id) ⟨u, .outside, saved⟩ ⟨v, .stored a, saved⟩ ∧
        a.summary = summary) ∧
    (∀ (s : Surroundings) (u v : World) (place : Place) (request : UpdateRequest)
      (o : UpdateOutcome), request.dataset.id = id → (update request).run s u = (.ok o, v) →
      ReflTransGen (Race.Step id) ⟨u, place, none⟩
        ⟨v, place, some (place.moment, o.dataset)⟩) ∧
    ∀ (s : Surroundings) (u v : World) (place : Place) (d stored : Dataset) (time : Time.Instant)
      (minor : Bool), d.id = id →
      (commit (.merge (d.releaseDraft time minor).2)).run s u = (.ok stored, v) →
      Race.Step id ⟨u, place, none⟩
        ⟨v, place, some (place.moment, (d.releaseDraft time minor).2)⟩ := by
  refine and_assoc.mp ⟨?_, ?_, ?_, ?_⟩
  rotate_left
  · intro s u v saved summary h
    exact Race.run_of_assignment h
  · intro s u v place request o hid h
    exact Race.run_of_update h hid
  · intro s u v place d stored time minor hid h
    exact Race.step_of_release hid h
  have hsound := Race.sound_of_run hw hrun
  have hstands := hsound.stands moment saved hsaved
  obtain ⟨v, place, other⟩ := r
  cases place with
  | outside =>
    refine ⟨fun _ h => (by cases h), fun _ => ?_⟩
    cases moment <;> first | exact hstands | exact hstands.elim
  | underway a =>
    refine ⟨fun _ h => (by cases h), fun _ => ?_⟩
    cases moment with
    | before => exact hstands.2
    | between => exact hstands
    | after => exact hstands.elim
  | ended => exact ⟨fun _ h => (by cases h), fun _ => hstands⟩
  | stored a =>
    refine ⟨?_, fun h => absurd rfl (h a)⟩
    rintro _ ⟨⟩
    obtain ⟨-, hunidentified⟩ := hsound.copied a (Or.inr rfl)
    cases moment with
    | before =>
      obtain ⟨rfl, hstored⟩ := hstands
      refine ⟨a.dataset, hstored, ?_, nofun, fun _ => hunidentified⟩
      rw [Dataset.keepsSave_iff_of_unidentified hunidentified]
      exact ⟨fun _ => nofun, fun _ => .refl _⟩
    | between =>
      obtain ⟨hpublished, hstored⟩ := hstands
      refine ⟨a.dataset, hstored, ?_, fun _ => ⟨hpublished, hunidentified⟩, fun h => absurd rfl h⟩
      rw [Dataset.keepsSave_iff_of_unidentified hunidentified]
      exact ⟨fun h _ => h, fun h => h rfl⟩
    | after =>
      refine ⟨saved, hstands, ?_, nofun, fun _ => rfl⟩
      exact ⟨fun _ => nofun, fun _ => .refl _⟩

/-! ### A save before the copy, and one after it -/

/-- A registered draft with a file that has no identifier. -/
def awaiting : Dataset :=
  { registeredDraft with files := [DataFile.new ⟨⟨3⟩⟩ "text/csv" 9 "b021"] }

def retitled : Dataset :=
  awaiting.mapLatest fun v => { v with fields := [⟨"title", ["Waves"]⟩] }

/-- An update of a dataset, whose files get identifiers afterwards. -/
def updatingBefore (request : UpdateRequest) : Action (Dataset × FileIdentifierSummary) := do
  let o ← update request
  let summary ← assignFileIdentifiers request.dataset.id
  return (o.dataset, summary)

theorem save_kept_before_assignment :
    (storing awaiting).store.Reachable ∧ ∃ v saved a final,
      ReflTransGen (Race.Step awaiting.id) ⟨storing awaiting, .outside, none⟩
        ⟨v, .stored a, some (.before, saved)⟩ ∧
      v.store.findDataset? awaiting.id = some final ∧
      saved.draftFields? = some [⟨"title", ["Waves"]⟩] ∧ final.KeepsSave saved := by
  have hok : ((updatingBefore (savingRequest retitled)).run plainSurroundings
      (storing awaiting)).1.toOption.any (fun x => x.2 != .empty &&
        x.1.draftFields? == some [⟨"title", ["Waves"]⟩]) = true := by
    decide +kernel
  have hreachable := reachable_storing awaiting
  cases hrun : (updatingBefore (savingRequest retitled)).run plainSurroundings
      (storing awaiting) with
  | mk result v =>
    rw [hrun] at hok
    cases result with
    | error e => cases hok
    | ok x =>
      obtain ⟨hsummary, hfields⟩ := Bool.and_eq_true_iff.mp hok
      obtain ⟨o, u, hupdate, h⟩ := of_run_bind_ok hrun
      obtain ⟨summary, u', hassign, h⟩ := of_run_bind_ok h
      cases h
      have hsaved : ReflTransGen (Race.Step awaiting.id) ⟨storing awaiting, .outside, none⟩
          ⟨u, .outside, some (.before, o.dataset)⟩ := Race.run_of_update hupdate rfl
      rcases Race.run_of_assignment hassign with ⟨-, rfl⟩ | ⟨a, hstored, -⟩
      · simp at hsummary
      · have hwhole := hsaved.trans hstored
        obtain ⟨final, hfinal, hkeeps, -⟩ :=
          (assignment_keeps_save_iff hreachable hwhole rfl).1 a rfl
        exact ⟨hreachable, v, o.dataset, a, final, hwhole, hfinal, eq_of_beq hfields,
          hkeeps.mpr (by rintro ⟨⟩)⟩

/-- An update of a dataset while its first file gets an identifier. -/
def updatingBetween (request : UpdateRequest) : Action (Assignment × Dataset) := do
  let d ← findDataset request.dataset.id
  let a ← (Assignment.begin d).advance
  let o ← update request
  let a ← a.advance
  let _ ← commit (.merge a.dataset)
  return (a, o.dataset)

theorem run_of_updatingBetween {s : Surroundings} {w v : World} {request : UpdateRequest}
    {a : Assignment} {saved : Dataset}
    (h : (updatingBetween request).run s w = (.ok (a, saved), v))
    (henabled : s.identifiers.fileIdentifiersEnabled = true) (hpending : pendingFiles a.copy ≠ [])
    (hdue : a.due = .files []) :
    ReflTransGen (Race.Step request.dataset.id) ⟨w, .outside, none⟩
      ⟨v, .stored a, some (.between, saved)⟩ := by
  obtain ⟨d, w₁, hload, h⟩ := of_run_bind_ok h
  obtain ⟨b, w₂, hfirst, h⟩ := of_run_bind_ok h
  obtain ⟨o, w₃, hupdate, h⟩ := of_run_bind_ok h
  obtain ⟨c, w₄, hsecond, h⟩ := of_run_bind_ok h
  obtain ⟨stored, w₅, hcommit, h⟩ := of_run_bind_ok h
  cases h
  have hcopy : a.copy = d := by
    rw [((b.returns_advance) s w₃ a w₄ hsecond).1]
    exact ((Assignment.begin d).returns_advance s w₁ b w₂ hfirst).1
  have hbegun : Race.Step request.dataset.id ⟨w, .outside, none⟩ ⟨w₁, .underway (.begin d), none⟩ :=
    .load henabled hload (hcopy ▸ hpending)
  have hbefore := (ReflTransGen.single hbegun).tail (.advance hfirst)
  have hsaved := hbefore.trans (Race.run_of_update hupdate rfl)
  exact (hsaved.tail (.advance hsecond)).tail (.store hdue hcommit)

/-- The title that an update has saved is lost when the copy is stored. -/
theorem save_undone_by_assignment :
    (storing awaiting).store.Reachable ∧ ∃ v saved a final,
      ReflTransGen (Race.Step awaiting.id) ⟨storing awaiting, .outside, none⟩
        ⟨v, .stored a, some (.between, saved)⟩ ∧
      v.store.findDataset? awaiting.id = some final ∧
      saved.draftFields? = some [⟨"title", ["Waves"]⟩] ∧
      final.draftFields? = some [⟨"title", ["Tides"]⟩] := by
  have hok : ((updatingBetween (savingRequest retitled)).run plainSurroundings
      (storing awaiting)).1.toOption.any (fun x => x.1.due == .files [] &&
        pendingFiles x.1.copy != [] && x.2.draftFields? == some [⟨"title", ["Waves"]⟩] &&
        x.1.dataset.draftFields? == some [⟨"title", ["Tides"]⟩]) = true := by
    decide +kernel
  have hreachable := reachable_storing awaiting
  cases hrun : (updatingBetween (savingRequest retitled)).run plainSurroundings
      (storing awaiting) with
  | mk result v =>
    rw [hrun] at hok
    cases result with
    | error e => cases hok
    | ok x =>
      obtain ⟨a, saved⟩ := x
      simp only [Except.toOption, Option.any_some, Bool.and_eq_true, beq_iff_eq, bne_iff_ne] at hok
      obtain ⟨⟨⟨hdue, hpending⟩, hsaved⟩, hfields⟩ := hok
      have hwhole := run_of_updatingBetween hrun rfl hpending hdue
      have hstored := (Race.sound_of_run hreachable hwhole).stands .between saved rfl
      exact ⟨hreachable, v, saved, a, a.dataset, hwhole, hstored.2, hsaved, hfields⟩

end Repository

end Depository
