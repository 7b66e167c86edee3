import Depository.Proofs.Repository.Reregistration
import Depository.Proofs.Repository.Retry

/-!
# Updates that fail after a registration

An update registers the identifier of its dataset before it commits, and nobody takes a
registration back. So an update leaves a registered identifier behind exactly if its own commit
fails after the registration. No earlier failure comes after a request to the registry.
-/

namespace Depository

namespace Store

private theorem commitFlaw?_of_datasets {s t : Store} (h : t.datasets = s.datasets)
    (w : UnitOfWork) :
    t.commitFlaw? w = s.commitFlaw? w := by
  unfold commitFlaw? findDataset? identifierInUse
  rw [h]

private theorem isLocallyUnique_of_datasets {s t : Store} (h : t.datasets = s.datasets)
    (g : GlobalId) :
    t.isLocallyUnique g = s.isLocallyUnique g := by
  simp only [isLocallyUnique, identifierInUse, h]

/-- An identifier that is unused is used by no other dataset. -/
private theorem identifierInUse_of_isLocallyUnique {s : Store} {g : GlobalId}
    (h : s.isLocallyUnique g = true) (except : Option DatasetId) :
    s.identifierInUse g except = false := by
  simp only [isLocallyUnique, identifierInUse, Bool.not_eq_true', List.any_eq_false] at h ⊢
  intro d hd hused
  have hnone := h d hd
  simp_all

end Store

namespace Repository

open Depository.Action Depository.Dataset

variable {s : Surroundings} {w v : World} {d e : Dataset}

/-! ### What is requested -/

/-- The requests of a registration: each but the last one found its identifier taken, and the last
one ended as the report says. -/
structure Reports (registration : Option RegistrationReport) (requests : List Request) : Prop where
  earlier : ∀ x ∈ requests.dropLast, x.status = .collision
  last : requests.getLast?.map (·.status) = registration.map (·.status)

private theorem reports_none : Reports none [] := ⟨by simp, rfl⟩

private theorem Reports.registered_iff {registration : Option RegistrationReport}
    {requests : List Request}
    (h : Reports registration requests) : (∃ x ∈ requests, x.status = .registered) ↔
      ∃ report, registration = some report ∧ report.isRegistered = true := by
  constructor
  · rintro ⟨x, hx, hstatus⟩
    have hne : requests ≠ [] := List.ne_nil_of_mem hx
    rw [← List.dropLast_concat_getLast hne] at hx
    rcases List.mem_append.mp hx with hx | hx
    · cases hstatus.symm.trans (h.earlier x hx)
    · have hlast := h.last
      rw [List.getLast?_eq_some_getLast hne, ← List.mem_singleton.mp hx, Option.map_some] at hlast
      obtain ⟨report, hreport, hsame⟩ := Option.map_eq_some_iff.mp hlast.symm
      refine ⟨report, hreport, ?_⟩
      rw [RegistrationReport.isRegistered, hsame, hstatus]
      rfl
  · rintro ⟨report, rfl, hregistered⟩
    obtain ⟨x, hx, hstatus⟩ := Option.map_eq_some_iff.mp h.last
    exact ⟨x, List.mem_of_getLast? hx, hstatus.trans (eq_of_beq hregistered)⟩

private theorem reports_of_submitted {subject : Subject} {most : Nat} {requests : List Request}
    {report : RegistrationReport} (h : Submitted s subject most d w requests report e v) :
    Reports (some report) requests := by
  obtain ⟨x, hlast, hstatus, -⟩ := h.reported
  refine ⟨h.taken, ?_⟩
  rw [hlast, Option.map_some, Option.map_some, hstatus]

private theorem requests_of_run_register {id : GlobalId} (hid : d.globalId = some id) :
    ∃ requests report e v, (register .dataset d).run s w = (.ok (report, e), v) ∧
      v.requests = w.requests ++ requests ∧ Reports (some report) requests := by
  obtain ⟨requests, report, e, v, hrun, -, hsubmitted⟩ := run_registerFrom .dataset
    (s.identifiers.maxRegistrationAttempts - 1) 0 id d s w hid
  refine ⟨requests, report, e, v, ?_, hsubmitted.made, reports_of_submitted hsubmitted⟩
  unfold register
  rw [run_bind_of_ok (x := surroundings) rfl]
  dsimp only [Subject.identifier?]
  rw [hid]
  exact hrun

/-- A registration of a dataset that fails has asked nobody. -/
private theorem requests_of_run_registerDataset (d : Dataset) (s : Surroundings) (w : World) :
    ∃ requests result v, (registerDataset d).run s w = (result, v) ∧
      v.requests = w.requests ++ requests ∧
      Reports (result.toOption.map (·.1)) requests := by
  unfold registerDataset
  cases hid : d.globalId with
  | some id =>
    obtain ⟨requests, report, e, v, hrun, hrequests, hreports⟩ :=
      requests_of_run_register (s := s) (w := w) hid
    exact ⟨requests, _, v, hrun, hrequests, hreports⟩
  | none =>
    cases hgenerate : (generate none).run s w with
    | mk generated u =>
      have hmade := (generating_confined.generate none).requests (fun _ he => he.isRegistration)
        hgenerate
      cases generated with
      | error e =>
        refine ⟨[], _, u, run_bind_of_error hgenerate, ?_, reports_none⟩
        rw [hmade, List.append_nil]
      | ok id =>
        obtain ⟨requests, report, e, v, hrun, hrequests, hreports⟩ :=
          requests_of_run_register (d := Subject.dataset.assign id d) (s := s) (w := u) rfl
        refine ⟨requests, _, v, (run_bind_of_ok hgenerate).trans hrun, ?_, hreports⟩
        rw [hrequests, hmade]

private theorem requests_of_run_registerIfDue {registration : Option RegistrationReport}
    (h : (registerIfDue d).run s w = (.ok (e, registration), v)) :
    ∃ requests, v.requests = w.requests ++ requests ∧ Reports registration requests := by
  unfold registerIfDue at h
  rw [run_bind_of_ok (x := surroundings) rfl] at h
  split at h
  · obtain ⟨requests, result, u, hrun, hrequests, hreports⟩ :=
      requests_of_run_registerDataset d s w
    rw [run_bind_of_ok (run_outcome hrun)] at h
    cases result with
    | error failure =>
      cases h
      exact ⟨requests, hrequests, hreports⟩
    | ok x =>
      cases h
      exact ⟨requests, hrequests, hreports⟩
  · cases h
    exact ⟨[], (List.append_nil _).symm, reports_none⟩

private theorem requests_of_run_prepare {r : UpdateRequest} {result : Except Failure PreparedUpdate}
    (h : (prepare r).run s w = (result, v)) : v.requests = w.requests :=
  (confined_prepare r).requests (fun _ he => he.prepares.isRegistration) h

private theorem requests_of_run_stage {p : PreparedUpdate} {result : Except Failure UnitOfWork}
    (h : (stage p).run s w = (result, v)) : v.requests = w.requests :=
  (confined_stage p).requests (fun _ he => he.isRegistration) h

theorem requests_of_run_commit {work : UnitOfWork} {result : Except Failure Dataset}
    (h : (commit work).run s w = (result, v)) : v.requests = w.requests := by
  obtain ⟨failed, hlog⟩ := log_of_run_commit h
  rw [World.requests, World.requests, hlog, List.filterMap_append]
  exact List.append_nil _

/-! ### What is generated -/

theorem isLocallyUnique_of_numbering {s t : Store} (h : StoreEffect.numbering.allows s t)
    (g : GlobalId) : t.isLocallyUnique g = s.isLocallyUnique g := by
  apply Store.isLocallyUnique_of_datasets
  rw [h.1]

private theorem unused_of_run_firstUnused {next : Action GlobalId} {g : GlobalId} {tries : Nat}
    (hnext : Confined .numbering Event.MakesUp next)
    (h : (firstUnused next tries).run s w = (.ok (some g), v)) :
    w.store.isLocallyUnique g = true := by
  induction tries generalizing w with
  | zero => cases h
  | succ tries ih =>
    obtain ⟨candidate, u, hcandidate, h⟩ := of_run_bind_ok h
    obtain ⟨unused, u', hask, h⟩ := of_run_bind_ok h
    have hnumbered := hnext.allows hcandidate
    have hasked : unused = u.store.isLocallyUnique candidate ∧ u'.store = u.store :=
      of_run_askStore_ok (w := u.record (.candidate candidate)) hask
    cases unused with
    | true =>
      cases h
      rw [← isLocallyUnique_of_numbering hnumbered, ← hasked.1]
    | false =>
      have hrest := ih h
      rw [hasked.2, isLocallyUnique_of_numbering hnumbered] at hrest
      exact hrest

theorem unused_of_run_generate {existing : Option GlobalId} {g : GlobalId}
    (h : (generate existing).run s w = (.ok g, v)) : w.store.isLocallyUnique g = true := by
  unfold generate at h
  rw [run_bind_of_ok (x := surroundings) rfl] at h
  obtain ⟨found, u, hfirst, h⟩ := of_run_bind_ok h
  cases found with
  | none => cases h
  | some g' =>
    cases h
    exact unused_of_run_firstUnused (generating_confined.candidate _ _) hfirst

/-- The identifier of a registered dataset is the one it came with or one that is unused. -/
private theorem identifier_of_run_registerFrom {left made : Nat} {id g : GlobalId}
    {report : RegistrationReport} (hid : d.globalId = some id)
    (h : (registerFrom .dataset left made id d).run s w = (.ok (report, e), v))
    (hg : e.globalId = some g) : g = id ∨ w.store.isLocallyUnique g = true := by
  induction left generalizing made id d w with
  | zero =>
    left
    obtain ⟨x, u, -, -, -, hattempt⟩ := run_attempt .dataset made id d s w
    unfold registerFrom at h
    rw [hattempt] at h
    have hsame : e.globalId = d.globalId := by
      split at h <;> cases h <;> rfl
    exact Option.some.inj (hg.symm.trans (hsame.trans hid))
  | succ left ih =>
    obtain ⟨x, u, -, -, -, hattempt⟩ := run_attempt .dataset made id d s w
    have hasked := hattempt (pure (⟨made + 1, .collision, id⟩, d))
    have hnumbered := (registering_confined.attempt .dataset made id d
      (confined_pure ((⟨made + 1, .collision, id⟩ : RegistrationReport), d)) s w).1
    unfold registerFrom at h
    rw [hattempt] at h
    cases hstatus : x.status with
    | registered =>
      rw [hstatus] at h
      cases h
      exact Or.inl (Option.some.inj (hg.symm.trans hid))
    | failed =>
      rw [hstatus] at h
      cases h
      exact Or.inl (Option.some.inj (hg.symm.trans hid))
    | collision =>
      rw [hstatus] at h hasked
      rw [hasked] at hnumbered
      have hattempted : StoreEffect.numbering.allows w.store u.store := hnumbered
      cases hrenew : (regenerate d .dataset id).run s u with
      | mk renewed u' =>
        have hmoved := (generating_confined.regenerate d .dataset id).allows hrenew
        rw [run_bind_of_ok (run_outcome hrenew)] at h
        cases renewed with
        | error failure =>
          cases h
          exact Or.inl (Option.some.inj (hg.symm.trans hid))
        | ok next =>
          right
          have hgenerate : (generate (some id)).run s u = (.ok next, u') := hrenew
          have hunused := unused_of_run_generate hgenerate
          rw [isLocallyUnique_of_numbering hattempted] at hunused
          have hassigned : (Subject.dataset.assign next d).globalId = some next := rfl
          rcases ih hassigned h with rfl | hother
          · exact hunused
          · rwa [isLocallyUnique_of_numbering hmoved, isLocallyUnique_of_numbering hattempted]
              at hother

private theorem identifier_of_run_register {id g : GlobalId} {report : RegistrationReport}
    (hid : d.globalId = some id) (h : (register .dataset d).run s w = (.ok (report, e), v))
    (hg : e.globalId = some g) : g = id ∨ w.store.isLocallyUnique g = true := by
  unfold register at h
  rw [run_bind_of_ok (x := surroundings) rfl] at h
  dsimp only [Subject.identifier?] at h
  rw [hid] at h
  exact identifier_of_run_registerFrom hid h hg

/-- Whatever the registration of an update does, an identifier that is used elsewhere is one that
the dataset had. -/
private theorem identifier_of_run_registerIfDue {registration : Option RegistrationReport}
    {g : GlobalId}
    (h : (registerIfDue d).run s w = (.ok (e, registration), v)) (hg : e.globalId = some g) :
    d.globalId = some g ∨ w.store.isLocallyUnique g = true := by
  unfold registerIfDue at h
  rw [run_bind_of_ok (x := surroundings) rfl] at h
  split at h
  · cases hregister : (registerDataset d).run s w with
    | mk result u =>
      rw [run_bind_of_ok (run_outcome hregister)] at h
      cases result with
      | error failure =>
        cases h
        exact Or.inl hg
      | ok x =>
        cases h
        unfold registerDataset at hregister
        cases hid : d.globalId with
        | some id =>
          simp only [hid, Option.isSome_some, if_true] at hregister
          rcases identifier_of_run_register hid hregister hg with rfl | hunused
          · exact Or.inl rfl
          · exact Or.inr hunused
        | none =>
          simp only [hid, Option.isSome_none, Bool.false_eq_true, if_false] at hregister
          obtain ⟨id, u', hgenerate, hregister⟩ := of_run_bind_ok hregister
          have hnumbered := (generating_confined.generate none).allows hgenerate
          have hassigned : (Subject.dataset.assign id d).globalId = some id := rfl
          right
          rcases identifier_of_run_register hassigned hregister hg with rfl | hunused
          · exact unused_of_run_generate hgenerate
          · rwa [isLocallyUnique_of_numbering hnumbered] at hunused
  · cases h
    exact Or.inl hg

/-! ### Failures of updates -/

/-- An update came to its commit after the given registration, if it tried any, and the commit of
the unit of work failed. -/
inductive FailedCommit (s : Surroundings) (w : World) (r : UpdateRequest) :
    Option RegistrationReport → UnitOfWork → World → Failure → World → Prop where
  | intro {p : PreparedUpdate} {work : UnitOfWork} {d : Dataset}
      {registration : Option RegistrationReport} {w₁ w₂ w₃ v : World} {e : Failure} :
      (prepare r).run s w = (.ok p, w₁) → (stage p).run s w₁ = (.ok work, w₂) →
      (registerIfDue work.dataset).run s w₂ = (.ok (d, registration), w₃) →
      (commit { work with dataset := stampUpdate p.time d }).run s w₃ = (.error e, v) →
      FailedCommit s w r registration { work with dataset := stampUpdate p.time d } w₃ e v

variable {r : UpdateRequest} {failure : Failure}

/-- An update that fails has asked the registry nothing, or fails at its commit. -/
theorem of_run_update_error (h : (update r).run s w = (.error failure, v)) :
    v.requests = w.requests ∨
      ∃ registration work u, FailedCommit s w r registration work u failure v := by
  rcases of_run_bind_error h with hprepare | ⟨p, w₁, hprepare, h⟩
  · exact Or.inl (requests_of_run_prepare hprepare)
  · rcases of_run_bind_error h with hstage | ⟨work, w₂, hstage, h⟩
    · exact Or.inl ((requests_of_run_stage hstage).trans (requests_of_run_prepare hprepare))
    · obtain ⟨⟨d, registration⟩, w₃, hregister⟩ := succeeds_registerIfDue work.dataset s w₂
      rw [run_bind_of_ok hregister] at h
      rcases of_run_bind_error h with hcommit | ⟨saved, w₄, -, h⟩
      · exact Or.inr ⟨registration, _, w₃, .intro hprepare hstage hregister hcommit⟩
      · obtain ⟨u, hfollow, -, -⟩ := run_follow p.user p.time saved s w₄
        rw [run_bind_of_ok hfollow] at h
        cases h

theorem FailedCommit.requests {registration : Option RegistrationReport} {work : UnitOfWork}
    {u : World} (h : FailedCommit s w r registration work u failure v) :
    ∃ requests, v.requests = w.requests ++ requests ∧ Reports registration requests := by
  cases h with
  | @intro p work d _ w₁ w₂ w₃ _ _ hprepare hstage hregister hcommit =>
    obtain ⟨requests, hrequests, hreports⟩ := requests_of_run_registerIfDue hregister
    refine ⟨requests, ?_, hreports⟩
    rw [requests_of_run_commit hcommit, hrequests, requests_of_run_stage hstage,
      requests_of_run_prepare hprepare]

theorem FailedCommit.datasets {registration : Option RegistrationReport} {work : UnitOfWork}
    {u : World} (h : FailedCommit s w r registration work u failure v) :
    u.store.datasets = w.store.datasets := by
  cases h with
  | @intro p work d _ w₁ w₂ w₃ _ _ hprepare hstage hregister hcommit =>
    have hsame : w.store = w₂.store :=
      ((confined_prepare r).allows hprepare).trans ((confined_stage p).allows hstage)
    obtain ⟨hnumbered, -⟩ := (registering_confined.registerIfDue work.dataset).allows hregister
    rw [show u.store = _ from hnumbered, hsame]

/-- Why the commit fails: the call was disturbed, or the work has a flaw in the store as it was. -/
theorem FailedCommit.reason {registration : Option RegistrationReport} {work : UnitOfWork}
    {u : World} (h : FailedCommit s w r registration work u failure v) :
    (∃ detail, s.outage .commit (u.count (Event.isStore .commit)) = some detail ∧
      failure = .persistence (.queryFailed detail)) ∨
    ∃ flaw, w.store.commitFlaw? work = some flaw ∧ failure = .persistence flaw.failure := by
  have hdatasets := h.datasets
  cases h with
  | @intro p work d _ w₁ w₂ w₃ _ _ hprepare hstage hregister hcommit =>
    cases hout : s.outage .commit (u.count (Event.isStore .commit)) with
    | some detail =>
      have hdisturbed : (commit { work with dataset := stampUpdate p.time d }).run s u = _ :=
        run_changeStore_of_outage hout
      cases hcommit.symm.trans hdisturbed
      exact Or.inl ⟨detail, rfl, rfl⟩
    | none =>
      right
      rw [← Store.commitFlaw?_of_datasets hdatasets]
      cases hflaw : u.store.commitFlaw? { work with dataset := stampUpdate p.time d } with
      | none =>
        have hstored : u.store.commit { work with dataset := stampUpdate p.time d } = .ok _ :=
          Store.commit_eq_ok_iff.mpr ⟨Store.commitFlaw?_eq_none_iff.mp hflaw, rfl⟩
        have hcommitted : (commit { work with dataset := stampUpdate p.time d }).run s u = _ :=
          run_changeStore_of_ok hout (by rw [hstored]; rfl)
        cases hcommit.symm.trans hcommitted
      | some flaw =>
        have hrefused : u.store.commit { work with dataset := stampUpdate p.time d } =
            .error flaw.failure := by
          unfold Store.commit
          rw [hflaw]
        have hfailed : (commit { work with dataset := stampUpdate p.time d }).run s u = _ :=
          run_changeStore_of_error hout (by rw [hrefused]; rfl)
        cases hcommit.symm.trans hfailed
        exact ⟨flaw, rfl, rfl⟩

/-- An identifier that keeps the work from being stored is one that the request came with. -/
theorem FailedCommit.brought {registration : Option RegistrationReport} {work : UnitOfWork}
    {u : World} {g : GlobalId} (h : FailedCommit s w r registration work u failure v)
    (hg : work.dataset.globalId = some g)
    (hused : w.store.identifierInUse g (some work.dataset.id) = true) :
    r.dataset.globalId = some g := by
  cases h with
  | @intro p work d _ w₁ w₂ w₃ _ _ hprepare hstage hregister hcommit =>
    have hsame : w.store = w₂.store :=
      ((confined_prepare r).allows hprepare).trans ((confined_stage p).allows hstage)
    obtain ⟨hbrought, -⟩ := identifier_of_frame (frame_of_stages hprepare hstage)
    obtain ⟨hstamped, -⟩ := identifier_of_frame (frame_stampUpdate p.time d)
    rcases identifier_of_run_registerIfDue hregister (hstamped.symm.trans hg) with hwork | hunused
    · exact hbrought.symm.trans hwork
    · rw [← hsame] at hunused
      rw [Store.identifierInUse_of_isLocallyUnique hunused] at hused
      cases hused

/-- An update that fails has left an identifier registered exactly if it came to its commit with
it and the commit failed, and then its last request is the only one that was answered so. The
commit fails because it is disturbed or because of a flaw that the work has in the store as the
update found it; an identifier that is taken is one that the request came with. -/
theorem update_leaves_registered_iff (h : (update r).run s w = (.error failure, v)) :
    ∃ requests, v.requests = w.requests ++ requests ∧
      (∀ x ∈ requests.dropLast, x.status = .collision) ∧
      ((∃ x ∈ requests, x.status = .registered) ↔ ∃ report work u,
        report.isRegistered = true ∧ FailedCommit s w r (some report) work u failure v) ∧
      ∀ registration work u, FailedCommit s w r registration work u failure v →
        ((∃ detail, s.outage .commit (u.count (Event.isStore .commit)) = some detail ∧
            failure = .persistence (.queryFailed detail)) ∨
          ∃ flaw, w.store.commitFlaw? work = some flaw ∧
            failure = .persistence flaw.failure) ∧
        ∀ g, work.dataset.globalId = some g →
          w.store.identifierInUse g (some work.dataset.id) = true →
          r.dataset.globalId = some g := by
  have hcommits (registration : Option RegistrationReport) (work : UnitOfWork) (u : World)
      (hfailed : FailedCommit s w r registration work u failure v) :=
    And.intro hfailed.reason fun g => hfailed.brought (g := g)
  rcases of_run_update_error h with hunasked | ⟨registration, work, u, hfailed⟩
  · refine ⟨[], ?_, by simp, ⟨by simp, ?_⟩, hcommits⟩
    · rw [hunasked, List.append_nil]
    · rintro ⟨report, work, u, hregistered, hfailed⟩
      obtain ⟨requests, hrequests, hreports⟩ := hfailed.requests
      have hnone : requests = [] := by simpa [hunasked] using hrequests
      rw [hnone] at hreports
      exact hreports.registered_iff.mpr ⟨report, rfl, hregistered⟩
  · obtain ⟨requests, hrequests, hreports⟩ := hfailed.requests
    refine ⟨requests, hrequests, hreports.earlier, ⟨?_, ?_⟩, hcommits⟩
    · intro hx
      obtain ⟨report, rfl, hregistered⟩ := hreports.registered_iff.mp hx
      exact ⟨report, work, u, hregistered, hfailed⟩
    · rintro ⟨report, work', u', hregistered, hfailed'⟩
      obtain ⟨requests', hrequests', hreports'⟩ := hfailed'.requests
      obtain rfl : requests = requests' :=
        List.append_cancel_left (hrequests.symm.trans hrequests')
      exact hreports'.registered_iff.mpr ⟨report, rfl, hregistered⟩

/-! ### A commit that is disturbed, and one that is refused -/

/-- Surroundings in which every commit fails. -/
def fullSurroundings : Surroundings :=
  { plainSurroundings with outage := fun call _ => if call = .commit then some "full" else none }

theorem registered_left_when_disturbed :
    ∃ e v, (update (savingRequest titledDraft)).run fullSurroundings emptyWorld = (.error e, v) ∧
      ∃ report work u, report.isRegistered = true ∧
        FailedCommit fullSurroundings emptyWorld (savingRequest titledDraft) (some report) work u
          e v := by
  have hfailed : ((update (savingRequest titledDraft)).run fullSurroundings emptyWorld).1.toOption =
      none := by decide +kernel
  have hregistered : ((update (savingRequest titledDraft)).run fullSurroundings
      emptyWorld).2.requests.any (fun x => x.status == .registered) = true := by decide +kernel
  cases hrun : (update (savingRequest titledDraft)).run fullSurroundings emptyWorld with
  | mk result v =>
    rw [hrun] at hfailed hregistered
    cases result with
    | ok o => cases hfailed
    | error e =>
      obtain ⟨requests, hrequests, -, hleft, -⟩ := update_leaves_registered_iff hrun
      have hall : v.requests = requests := hrequests
      obtain ⟨x, hx, hstatus⟩ := List.any_eq_true.mp hregistered
      exact ⟨e, v, rfl, hleft.mp ⟨x, hall ▸ hx, eq_of_beq hstatus⟩⟩

def releasedTides : Dataset := (titledDraft.releaseDraft .epoch false).2

/-- A copy of the dataset in which the published version was rewritten. -/
def rewrittenTides : Dataset :=
  releasedTides.mapLatest fun v => { v with fields := [⟨"title", ["Waves"]⟩] }

/-- An update of that copy is refused after its identifier was registered. -/
theorem refused_after_registration :
    (storing releasedTides).requests = [] ∧
      ∃ e v, (update (savingRequest rewrittenTides)).run plainSurroundings (storing releasedTides) =
        (.error e, v) ∧ ∃ x ∈ v.requests, x.status = .registered := by
  have hfailed : ((update (savingRequest rewrittenTides)).run plainSurroundings
      (storing releasedTides)).1.toOption = none := by decide +kernel
  have hregistered : ((update (savingRequest rewrittenTides)).run plainSurroundings
      (storing releasedTides)).2.requests.any (fun x => x.status == .registered) = true := by
    decide +kernel
  have hstored : (commit (.merge releasedTides)).run plainSurroundings emptyWorld =
      (_, storing releasedTides) := Prod.ext rfl rfl
  have hunasked : (storing releasedTides).requests = [] := requests_of_run_commit hstored
  refine ⟨hunasked, ?_⟩
  cases hrun : (update (savingRequest rewrittenTides)).run plainSurroundings
      (storing releasedTides) with
  | mk result v =>
    rw [hrun] at hfailed hregistered
    cases result with
    | ok o => cases hfailed
    | error e =>
      obtain ⟨x, hx, hstatus⟩ := List.any_eq_true.mp hregistered
      exact ⟨e, v, rfl, x, hx, eq_of_beq hstatus⟩

end Repository

end Depository
