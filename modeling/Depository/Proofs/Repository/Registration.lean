import Depository.Proofs.Dataset.Files
import Depository.Proofs.Repository.Calls
import Depository.Proofs.Repository.Composition
import Depository.Repository.FileIdentifiers

/-!
# Effects of registration

Making up identifiers and registering them reads the store, moves its sequence of numbers on, and
asks the registry. Of a dataset that is registered nothing changes but identifiers and the stamps
of their registration.
-/

namespace Depository

/-- The calls by which identifiers are made up. -/
def Event.MakesUp : Event → Prop
  | .store .nextSequence _ | .store .checkIdentifier _ | .candidate _ => True
  | _ => False

/-- The calls by which identifiers are made up and registered. -/
def Event.SeeksIdentifier : Event → Prop
  | .store .nextSequence _ | .store .checkIdentifier _ | .candidate _ | .registration _ _ => True
  | _ => False

theorem Event.SeeksIdentifier.isIndexing {e : Event} (h : e.SeeksIdentifier) :
    e.isIndexing = false := by
  cases e <;> first | rfl | cases h

private theorem Event.MakesUp.seeksIdentifier {e : Event} (h : e.MakesUp) : e.SeeksIdentifier := by
  cases e with
  | store call _ => cases call <;> trivial
  | candidate _ => trivial
  | _ => cases h

namespace Repository

open Depository.Action

/-! ### Making up and registering -/

theorem compositional_confined {E : StoreEffect} {P : Event → Prop} :
    Compositional (Confined E P) where
  pure := confined_pure
  fail := confined_fail
  surroundings := confined_surroundings
  now := confined_now
  bind := Confined.bind
  outcome := Confined.outcome

theorem confined_isLocallyUnique (g : GlobalId) :
    Confined .none Event.MakesUp (isLocallyUnique g) := by
  have hask : Confined .none Event.MakesUp
      (askStore .checkIdentifier fun store => store.isLocallyUnique g) :=
    confined_askStore _ fun _ => trivial
  intro s w
  obtain ⟨hstore, calls, hlog, hcalls⟩ := hask s (w.record (.candidate g))
  refine ⟨hstore, .candidate g :: calls, ?_, ?_⟩
  · show ((askStore .checkIdentifier _).run s _).2.log = _
    rw [hlog]
    simp [World.record]
  · intro e he
    rcases List.mem_cons.mp he with rfl | he
    · trivial
    · exact hcalls e he

theorem generating_confined : GeneratingProperty (Confined .numbering Event.MakesUp) where
  toCompositional := compositional_confined
  freshLocalPart := confined_freshLocalPart
  nextSequence := confined_callStore StoreEffect.numbering_nextSequence fun _ => trivial
  isLocallyUnique g := (confined_isLocallyUnique g).of_none

/-- Making identifiers up is part of registering them. -/
theorem confined_of_makesUp {α : Type} {x : Action α} (h : Confined .numbering Event.MakesUp x) :
    Confined .numbering Event.SeeksIdentifier x :=
  h.mono (fun _ _ => id) fun _ => Event.MakesUp.seeksIdentifier

theorem registering_confined :
    RegisteringProperty (Confined .numbering Event.SeeksIdentifier) where
  toCompositional := compositional_confined
  freshLocalPart := confined_freshLocalPart
  nextSequence := confined_of_makesUp generating_confined.nextSequence
  isLocallyUnique g := confined_of_makesUp (generating_confined.isLocallyUnique g)
  submit target := by
    intro s w
    let answer := s.registry (w.count Event.isRegistration) target
    refine ⟨StoreEffect.refl _ _, [.registration target answer], rfl, ?_⟩
    intro e he
    rw [List.mem_singleton.mp he]
    trivial

/-! ### What registration leaves -/

theorem Subject.unidentified_assign (subject : Subject) (g : GlobalId) (d : Dataset) :
    (subject.assign g d).unidentified = d.unidentified := by
  cases subject with
  | dataset => rfl
  | file id =>
    apply Dataset.unidentified_mapFile
    intro f
    rfl

theorem Subject.unidentified_markRegistered (subject : Subject) (time : Time.Instant)
    (d : Dataset) : (subject.markRegistered time d).unidentified = d.unidentified := by
  cases subject with
  | dataset => rfl
  | file id =>
    apply Dataset.unidentified_mapFile
    intro f
    rfl

/-- A part of datasets that the identifier of a subject and its registration do not belong to. -/
structure Subject.Spares {β : Type} (subject : Subject) (part : Dataset → β) : Prop where
  assign : ∀ g d, part (subject.assign g d) = part d
  markRegistered : ∀ time d, part (subject.markRegistered time d) = part d

theorem Subject.spares_unidentified (subject : Subject) : subject.Spares Dataset.unidentified :=
  ⟨subject.unidentified_assign, subject.unidentified_markRegistered⟩

section Spared

variable {β : Type} {part : Dataset → β} {subject : Subject}

theorem returns_attempt (hpart : subject.Spares part) {made : Nat} {id : GlobalId} {d : Dataset}
    {retry : Action (RegistrationReport × Dataset)}
    (h : Returns (fun x => part x.2 = part d) retry) :
    Returns (fun x => part x.2 = part d) (attempt subject made id d retry) := by
  refine Returns.bind fun target => Returns.bind fun answer => ?_
  cases answer with
  | error _ => exact returns_pure rfl
  | ok answer =>
    dsimp only
    split
    · exact Returns.bind fun time => returns_pure (hpart.markRegistered time d)
    · exact returns_pure rfl
    · exact h

theorem returns_registerFrom (hpart : subject.Spares part) (left made : Nat) (id : GlobalId)
    (d : Dataset) :
    Returns (fun x => part x.2 = part d) (registerFrom subject left made id d) := by
  induction left generalizing made id d with
  | zero => exact returns_attempt hpart (returns_pure rfl)
  | succ left ih =>
    refine returns_attempt hpart (Returns.bind fun next => ?_)
    cases next with
    | error _ => exact returns_pure rfl
    | ok next =>
      -- The retry is about the dataset with the next identifier, which is the same but for that.
      rw [← hpart.assign next d]
      exact ih (made + 1) next (subject.assign next d)

theorem returns_register (hpart : subject.Spares part) (d : Dataset) :
    Returns (fun x => part x.2 = part d) (register subject d) := by
  refine Returns.bind fun s => ?_
  dsimp only
  split
  · exact returns_registerFrom hpart _ _ _ _
  · exact returns_fail _

theorem returns_registerDataset_part (hpart : Subject.dataset.Spares part) (d : Dataset) :
    Returns (fun x => part x.2 = part d) (registerDataset d) := by
  unfold registerDataset
  split
  · exact returns_register hpart _
  · refine Returns.bind fun id => ?_
    rw [← hpart.assign id d]
    exact returns_register hpart _

end Spared

/-- The results of a registration of a dataset: it may have got other identifiers. -/
def Identifies (d : Dataset) (x : RegistrationReport × Dataset) : Prop :=
  x.2.unidentified = d.unidentified

theorem returns_registerFile (file : DataFileId) (d : Dataset) :
    Returns (Identifies d) (registerFile file d) := by
  unfold registerFile
  split
  · exact returns_fail _
  · split
    · exact returns_register (Subject.spares_unidentified _) _
    · refine Returns.bind fun id => ?_
      have hassign := (Subject.file file).unidentified_assign id d
      unfold Identifies
      rw [← hassign]
      exact returns_register (Subject.spares_unidentified _) _

/-! ### Files -/

theorem confined_registerAssigned (file : DataFileId) (d : Dataset)
    (summary : FileIdentifierSummary) :
    Confined .numbering Event.SeeksIdentifier (registerAssigned file d summary) := by
  refine (registering_confined.registerFile file d).outcome.bind fun result => ?_
  cases result with
  | error _ => exact confined_pure _
  | ok _ => exact confined_pure _

theorem confined_assignOne (file : DataFileId) (d : Dataset) (summary : FileIdentifierSummary) :
    Confined .numbering Event.SeeksIdentifier (assignOne file d summary) := by
  refine (confined_of_makesUp (generating_confined.generateForFile d)).outcome.bind fun result => ?_
  cases result with
  | error _ => exact confined_pure _
  | ok id =>
    refine confined_surroundings.bind fun s => ?_
    split
    · exact confined_registerAssigned file _ _
    · exact confined_pure _

theorem confined_assignAll (files : List DataFileId) (d : Dataset)
    (summary : FileIdentifierSummary) :
    Confined .numbering Event.SeeksIdentifier (assignAll files d summary) := by
  induction files generalizing d summary with
  | nil => exact confined_pure _
  | cons file rest ih => exact (confined_assignOne file d summary).bind fun x => ih x.1 x.2

theorem returns_assignOne (file : DataFileId) (d : Dataset) (summary : FileIdentifierSummary) :
    Returns (fun x => x.1.unidentified = d.unidentified) (assignOne file d summary) := by
  refine Returns.bind fun result => ?_
  cases result with
  | error _ => exact returns_pure rfl
  | ok id =>
    have hassign := Subject.unidentified_assign (.file file) id d
    refine Returns.bind fun s => ?_
    split
    · refine (returns_registerFile file _).outcome.then fun result hresult => ?_
      cases result with
      | error _ => exact returns_pure hassign
      | ok x => exact returns_pure ((hresult x rfl).trans hassign)
    · exact returns_pure hassign

theorem returns_assignAll (files : List DataFileId) (d : Dataset)
    (summary : FileIdentifierSummary) :
    Returns (fun x => x.1.unidentified = d.unidentified) (assignAll files d summary) := by
  induction files generalizing d summary with
  | nil => exact returns_pure rfl
  | cons file rest ih =>
    refine (returns_assignOne file d summary).then fun x hx => ?_
    have hrest := ih x.1 x.2
    rw [hx] at hrest
    exact hrest

/-- A run for the files of a dataset that succeeds stores nothing, or takes the dataset as it is
stored, gives the files that wait identifiers in turn, and stores the dataset. -/
theorem of_run_assignFileIdentifiers_ok {id : DatasetId} {s : Surroundings} {w v : World}
    {summary : FileIdentifierSummary}
    (h : (assignFileIdentifiers id).run s w = (.ok summary, v)) :
    (summary = .empty ∧ v.store = w.store) ∨ ∃ d e saved u u',
      s.identifiers.fileIdentifiersEnabled = true ∧ pendingFiles d ≠ [] ∧
      (findDataset id).run s w = (.ok d, u) ∧
      (assignAll (pendingFiles d) d .empty).run s u = (.ok (e, summary), u') ∧
      (commit (.merge e)).run s u' = (.ok saved, v) := by
  unfold assignFileIdentifiers at h
  rw [run_bind_of_ok (x := surroundings) rfl] at h
  cases henabled : s.identifiers.fileIdentifiersEnabled with
  | false =>
    simp only [henabled, Bool.not_false, if_true] at h
    cases h
    exact Or.inl ⟨rfl, rfl⟩
  | true =>
    simp only [henabled, Bool.not_true, Bool.false_eq_true, if_false] at h
    obtain ⟨d, u, hload, h⟩ := of_run_bind_ok h
    cases hpending : pendingFiles d with
    | nil =>
      simp only [hpending] at h
      cases h
      exact Or.inl ⟨rfl, (of_run_findDataset_ok hload).2⟩
    | cons file rest =>
      simp only [hpending] at h
      obtain ⟨⟨e, summary'⟩, u', hassign, h⟩ := of_run_bind_ok h
      obtain ⟨saved, u'', hcommit, h⟩ := of_run_bind_ok h
      cases h
      have hwaiting : pendingFiles d ≠ [] := by simp [hpending]
      rw [← hpending] at hassign
      exact Or.inr ⟨d, e, saved, u, u', rfl, hwaiting, hload, hassign, hcommit⟩

end Repository

end Depository
