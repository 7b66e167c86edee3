import Depository.Proofs.Repository.Calls
import Depository.Proofs.Repository.Registration

/-!
# Bounded retry

How often an identifier is submitted and what comes of it. Every request but the last one found
its identifier taken, the report tells about the last one, and of the dataset nothing changes but
the identifier of the subject and the stamps of its registration.
-/

namespace Depository

/-- A request to the registry, and what it was answered. -/
structure Request where
  target : RegistrationTarget
  answer : Except Failure RegistrationOutcome

/-- How a request ended. One that was not answered counts as failed. -/
def Request.status (x : Request) : RegistrationStatus :=
  match x.answer with
  | .error _ => .failed
  | .ok outcome => outcome.status

def Event.request? : Event → Option Request
  | .registration target answer => some ⟨target, answer⟩
  | _ => none

private theorem Event.request?_eq_none {e : Event} (h : e.isRegistration = false) :
    e.request? = none := by
  cases e <;> first | rfl | cases h

theorem Event.MakesUp.isRegistration {e : Event} (h : e.MakesUp) : e.isRegistration = false := by
  cases e <;> first | rfl | cases h

/-- The requests made to the registry so far. -/
def World.requests (w : World) : List Request := w.log.filterMap Event.request?

private theorem World.requests_of_log {w v : World} (h : v.log = w.log) :
    v.requests = w.requests := by
  rw [World.requests, h, World.requests]

private theorem World.count_isRegistration (w : World) :
    w.count Event.isRegistration = w.requests.length := by
  have hkind : Event.isRegistration = fun e => e.request?.isSome := by
    funext e
    cases e <;> rfl
  rw [World.requests, List.length_filterMap_eq_countP, World.count, hkind]

/-- Who makes no registration leaves no request. -/
theorem Action.Confined.requests {α : Type} {E : StoreEffect} {x : Action α}
    {P : Event → Prop} (h : Confined E P x) (hP : ∀ e, P e → e.isRegistration = false)
    {s : Surroundings} {w v : World} {result : Except Failure α} (hrun : x.run s w = (result, v)) :
    v.requests = w.requests := by
  have hlog := h.filterMap_log (fun e he => Event.request?_eq_none (hP e he)) s w
  rwa [hrun] at hlog

namespace Dataset

private theorem find?_mapFirst {α : Type} {cond : α → Bool} {change : α → α}
    (h : ∀ a, cond (change a) = cond a) (l : List α) :
    (mapFirst cond change l).find? cond = (l.find? cond).map change := by
  induction l with
  | nil => rfl
  | cons a rest ih =>
    unfold mapFirst
    by_cases ha : cond a = true
    · rw [if_pos ha, List.find?_cons_of_pos (by rw [h, ha]), List.find?_cons_of_pos ha]
      rfl
    · rw [if_neg ha, List.find?_cons_of_neg ha, List.find?_cons_of_neg ha, ih]

private theorem find?_mapFirst_of_ne {α : Type} {cond other : α → Bool} {change : α → α}
    (h : ∀ a, cond a = true → other a = false ∧ other (change a) = false) (l : List α) :
    (mapFirst cond change l).find? other = l.find? other := by
  induction l with
  | nil => rfl
  | cons a rest ih =>
    by_cases ha : cond a = true
    · obtain ⟨hold, hnew⟩ := h a ha
      rw [mapFirst, if_pos ha, List.find?_cons_of_neg (by simp [hnew]),
        List.find?_cons_of_neg (by simp [hold])]
    · rw [mapFirst, if_neg ha, List.find?_cons, List.find?_cons, ih]

private theorem mapFirst_mapFirst {α : Type} {cond : α → Bool} {change : α → α}
    (h : ∀ a, cond (change a) = cond a) (change' : α → α) (l : List α) :
    mapFirst cond change' (mapFirst cond change l) =
      mapFirst cond (fun a => change' (change a)) l := by
  induction l with
  | nil => rfl
  | cons a rest ih =>
    by_cases ha : cond a = true
    · simp only [mapFirst, ha, h, if_true]
    · simp only [mapFirst, if_neg ha, ih]

variable {change : DataFile → DataFile}

private theorem file?_mapFile (h : ∀ f, (change f).id = f.id) (id : DataFileId) (d : Dataset) :
    (d.mapFile id change).file? id = (d.file? id).map change :=
  find?_mapFirst (fun f => by rw [h f]) d.files

theorem file?_mapFile_of_ne (h : ∀ f, (change f).id = f.id) {x id : DataFileId} (hne : x ≠ id)
    (d : Dataset) :
    (d.mapFile id change).file? x = d.file? x := by
  apply find?_mapFirst_of_ne
  intro f hf
  have hid : f.id = id := by simpa using hf
  simp [h f, hid, hne.symm]

private theorem mapFile_mapFile (h : ∀ f, (change f).id = f.id) (change' : DataFile → DataFile)
    (id : DataFileId) (d : Dataset) :
    (d.mapFile id change).mapFile id change' = d.mapFile id fun f => change' (change f) := by
  unfold mapFile
  rw [mapFirst_mapFirst (fun f => by rw [h f])]

end Dataset

namespace Repository

open Depository.Action

/-! ### The subject -/

namespace Subject

/-- The stamps of the registration of the subject: when it was, and whether there was one. -/
def stamps (subject : Subject) (d : Dataset) : Option (Option Time.Instant × Bool) :=
  match subject with
  | .dataset => some (d.globalIdCreateTime, d.identifierRegistered)
  | .file id => (d.file? id).map fun f => (f.globalIdCreateTime, f.identifierRegistered)

/-- A dataset but for the identifier of the subject and the stamps of its registration. -/
def blank (subject : Subject) (d : Dataset) : Dataset :=
  match subject with
  | .dataset =>
    { d with globalId := none, globalIdCreateTime := none, identifierRegistered := false }
  | .file id => d.mapFile id DataFile.unidentified

theorem identifier?_assign {subject : Subject} {d : Dataset} {id : GlobalId}
    (h : subject.identifier? d = some id) (g : GlobalId) :
    subject.identifier? (subject.assign g d) = some g := by
  cases subject with
  | dataset => rfl
  | file x =>
    obtain ⟨f, hf, -⟩ := Option.bind_eq_some_iff.mp h
    simp only [identifier?, assign]
    rw [Dataset.file?_mapFile, hf]
    · rfl
    · exact fun _ => rfl

/-- A file that was given an identifier carries it, if the dataset has the file. -/
theorem identifier?_assign_file (file : DataFileId) (id : GlobalId) (d : Dataset) :
    (Subject.file file).identifier? ((Subject.file file).assign id d) =
      (d.file? file).map fun _ => id := by
  simp only [identifier?, assign]
  rw [Dataset.file?_mapFile]
  · cases d.file? file <;> rfl
  · exact fun _ => rfl

theorem identifier?_assign_of_owns {file : DataFileId} {d : Dataset} (h : d.Owns file)
    (id : GlobalId) :
    (Subject.file file).identifier? ((Subject.file file).assign id d) = some id := by
  obtain ⟨f, hf⟩ := h.file?
  rw [identifier?_assign_file, hf, Option.map_some]

theorem stamps_assign (subject : Subject) (g : GlobalId) (d : Dataset) :
    subject.stamps (subject.assign g d) = subject.stamps d := by
  cases subject with
  | dataset => rfl
  | file x =>
    simp only [stamps, assign]
    rw [Dataset.file?_mapFile, Option.map_map]
    · rfl
    · exact fun _ => rfl

theorem blank_assign (subject : Subject) (g : GlobalId) (d : Dataset) :
    subject.blank (subject.assign g d) = subject.blank d := by
  cases subject with
  | dataset => rfl
  | file x =>
    simp only [blank, assign]
    rw [Dataset.mapFile_mapFile]
    · rfl
    · exact fun _ => rfl

theorem identifier?_markRegistered (subject : Subject) (time : Time.Instant) (d : Dataset) :
    subject.identifier? (subject.markRegistered time d) = subject.identifier? d := by
  cases subject with
  | dataset => rfl
  | file x =>
    simp only [identifier?, markRegistered]
    rw [Dataset.file?_mapFile, Option.bind_map]
    · rfl
    · exact fun _ => rfl

private theorem stamps_markRegistered {subject : Subject} {d : Dataset} {id : GlobalId}
    (h : subject.identifier? d = some id) (time : Time.Instant) :
    subject.stamps (subject.markRegistered time d) = some (some time, true) := by
  cases subject with
  | dataset => rfl
  | file x =>
    obtain ⟨f, hf, -⟩ := Option.bind_eq_some_iff.mp h
    simp only [stamps, markRegistered]
    rw [Dataset.file?_mapFile, hf]
    · rfl
    · exact fun _ => rfl

theorem blank_markRegistered (subject : Subject) (time : Time.Instant) (d : Dataset) :
    subject.blank (subject.markRegistered time d) = subject.blank d := by
  cases subject with
  | dataset => rfl
  | file x =>
    simp only [blank, markRegistered]
    rw [Dataset.mapFile_mapFile]
    · rfl
    · exact fun _ => rfl

end Subject

/-! ### One request -/

theorem run_registrationTarget (d : Dataset) (subject : Subject) (id : GlobalId)
    (s : Surroundings) (w : World) :
    ∃ target v, (registrationTarget d subject id).run s w = (.ok target, v) ∧
      target.identifier = id ∧ v.log = w.log := by
  have hyear : ∃ year v, (publicationYear d).run s w = (.ok year, v) ∧ v.log = w.log := by
    unfold publicationYear
    split
    · exact ⟨_, w, rfl, rfl⟩
    · exact ⟨_, { w with clock := w.clock.drop 1 }, rfl, rfl⟩
  obtain ⟨year, v, hrun, hlog⟩ := hyear
  unfold registrationTarget
  rw [run_bind_of_ok (x := surroundings) rfl]
  dsimp only
  rw [run_bind_of_ok hrun]
  exact ⟨_, v, rfl, rfl, hlog⟩

/-- An attempt is one request, and goes on as the registry answers. -/
theorem run_attempt (subject : Subject) (made : Nat) (id : GlobalId) (d : Dataset)
    (s : Surroundings) (w : World) :
    ∃ x v, x.target.identifier = id ∧ x.answer = s.registry w.requests.length x.target ∧
      v.requests = w.requests ++ [x] ∧
      ∀ retry, (attempt subject made id d retry).run s w =
        match x.status with
        | .registered => (.ok (⟨made + 1, .registered, id⟩,
            subject.markRegistered v.clock.next d), { v with clock := v.clock.drop 1 })
        | .failed => (.ok (⟨made + 1, .failed, id⟩, d), v)
        | .collision => retry.run s v := by
  obtain ⟨target, u, hrun, hid, hlog⟩ := run_registrationTarget d subject id s w
  have hrequests := World.requests_of_log hlog
  let answer := s.registry (u.count Event.isRegistration) target
  refine ⟨⟨target, answer⟩, u.record (.registration target answer), hid, ?_, ?_, ?_⟩
  · rw [← hrequests, ← World.count_isRegistration]
  · rw [← hrequests]
    simp only [World.requests, World.record, List.filterMap_append]
    rfl
  · intro retry
    have hsubmit : (outcome (submit target)).run s u =
        (.ok answer, u.record (.registration target answer)) := rfl
    unfold attempt
    rw [run_bind_of_ok hrun, run_bind_of_ok hsubmit]
    cases answer with
    | error e => rfl
    | ok answer =>
      obtain ⟨status, _, _⟩ := answer
      cases status <;> rfl

/-! ### All requests -/

/-- A registration of a dataset that made the given requests, of at most `most`. -/
structure Submitted (s : Surroundings) (subject : Subject) (most : Nat) (d : Dataset) (w : World)
    (requests : List Request) (report : RegistrationReport) (e : Dataset) (v : World) : Prop where
  made : v.requests = w.requests ++ requests
  answered : ∀ i x, requests[i]? = some x →
    x.answer = s.registry (w.requests.length + i) x.target
  bounded : 1 ≤ requests.length ∧ requests.length ≤ most
  taken : ∀ x ∈ requests.dropLast, x.status = .collision
  reported : ∃ x, requests.getLast? = some x ∧ x.status = report.status ∧
    x.target.identifier = report.identifier
  exhausted : report.status = .collision → requests.length = most ∨
    ∃ u failure, u.requests = v.requests ∧
      (regenerate e subject report.identifier).run s u = (.error failure, v)
  carried : subject.identifier? e = some report.identifier
  stamped : report.status = .registered → ∃ time, subject.stamps e = some (some time, true)
  unstamped : report.status ≠ .registered → subject.stamps e = subject.stamps d
  kept : subject.blank e = subject.blank d

section

variable {s : Surroundings} {subject : Subject} {d e : Dataset} {id : GlobalId} {w v : World}
  {x : Request} {most n : Nat}

/-- A registration that was registered or has failed at its first request. -/
private theorem submitted_of_settled (hx : x.answer = s.registry w.requests.length x.target)
    (hid : x.target.identifier = id) (hv : v.requests = w.requests ++ [x]) (hmost : 1 ≤ most)
    (hexhausted : x.status = .collision → 1 = most ∨ ∃ u failure, u.requests = v.requests ∧
      (regenerate e subject id).run s u = (.error failure, v))
    (hcarried : subject.identifier? e = some id)
    (hstamped : x.status = .registered → ∃ time, subject.stamps e = some (some time, true))
    (hunstamped : x.status ≠ .registered → subject.stamps e = subject.stamps d)
    (hkept : subject.blank e = subject.blank d) :
    Submitted s subject most d w [x] ⟨n, x.status, id⟩ e v where
  made := hv
  answered i y hy := by
    obtain ⟨rfl, rfl⟩ : i = 0 ∧ x = y := by
      cases i with
      | zero => exact ⟨rfl, by simpa using hy⟩
      | succ i => simp at hy
    exact hx
  bounded := ⟨Nat.le_refl 1, hmost⟩
  taken _ hy := by cases hy
  reported := ⟨x, rfl, rfl, hid⟩
  exhausted := hexhausted
  carried := hcarried
  stamped := hstamped
  unstamped := hunstamped
  kept := hkept

/-- A first request for an identifier that was taken, followed by requests for another one. -/
private theorem Submitted.retried {next : GlobalId} {u : World} {requests : List Request}
    {report : RegistrationReport}
    (h : Submitted s subject most (subject.assign next d) v requests report e u)
    (hx : x.answer = s.registry w.requests.length x.target) (hv : v.requests = w.requests ++ [x])
    (hstatus : x.status = .collision) :
    Submitted s subject (most + 1) d w (x :: requests) report e u := by
  have hlength : v.requests.length = w.requests.length + 1 := by
    rw [hv, List.length_append, List.length_singleton]
  obtain ⟨y, hlast, hy⟩ := h.reported
  have hne : requests ≠ [] := by
    rintro rfl
    cases hlast
  refine ⟨?_, ?_, ?_, ?_, ⟨y, ?_, hy⟩, ?_, h.carried, h.stamped, ?_, ?_⟩
  · rw [h.made, hv, List.append_assoc, List.singleton_append]
  · intro i z hz
    cases i with
    | zero =>
      obtain rfl : x = z := by simpa using hz
      exact hx
    | succ i =>
      rw [h.answered i z (by simpa using hz), hlength]
      congr 1
      omega
  · have hbounded := h.bounded
    rw [List.length_cons]
    omega
  · intro z hz
    rw [List.dropLast_cons_of_ne_nil hne] at hz
    rcases List.mem_cons.mp hz with rfl | hz
    · exact hstatus
    · exact h.taken z hz
  · rw [List.getLast?_cons, hlast]
    rfl
  · intro hcollision
    rcases h.exhausted hcollision with hmost | hstuck
    · left
      rw [List.length_cons, hmost]
    · exact Or.inr hstuck
  · intro hstatus
    rw [h.unstamped hstatus, subject.stamps_assign]
  · rw [h.kept, subject.blank_assign]

end

/-- An attempt that settles the registration by one request, or else leaves it to `retry`. -/
private theorem submitted_attempt {s : Surroundings} {subject : Subject} {made most : Nat}
    {id : GlobalId}
    {d : Dataset} {w : World} {retry : Action (RegistrationReport × Dataset)} (hmost : 1 ≤ most)
    (h : subject.identifier? d = some id)
    (hretry : ∀ x v, x.target.identifier = id →
      x.answer = s.registry w.requests.length x.target → v.requests = w.requests ++ [x] →
      x.status = .collision → ∃ requests report e u, retry.run s v = (.ok (report, e), u) ∧
        report.attempts = made + requests.length ∧
        Submitted s subject most d w requests report e u) :
    ∃ requests report e u, (attempt subject made id d retry).run s w = (.ok (report, e), u) ∧
      report.attempts = made + requests.length ∧
      Submitted s subject most d w requests report e u := by
  obtain ⟨x, v, hid, hx, hv, hrun⟩ := run_attempt subject made id d s w
  rw [hrun]
  cases hstatus : x.status with
  | registered =>
    let e := subject.markRegistered v.clock.next d
    have hcarried : subject.identifier? e = some id := by
      rw [subject.identifier?_markRegistered, h]
    have hsettled : Submitted s subject most d w [x] ⟨made + 1, x.status, id⟩ e
        { v with clock := v.clock.drop 1 } :=
      submitted_of_settled hx hid hv hmost (by simp [hstatus]) hcarried
        (fun _ => ⟨_, subject.stamps_markRegistered h _⟩) (by simp [hstatus])
        (subject.blank_markRegistered _ d)
    rw [hstatus] at hsettled
    exact ⟨[x], _, e, _, rfl, rfl, hsettled⟩
  | failed =>
    have hsettled : Submitted s subject most d w [x] ⟨made + 1, x.status, id⟩ d v :=
      submitted_of_settled hx hid hv hmost (by simp [hstatus]) h (by simp [hstatus])
        (fun _ => rfl) rfl
    rw [hstatus] at hsettled
    exact ⟨[x], _, d, v, rfl, rfl, hsettled⟩
  | collision => exact hretry x v hid hx hv hstatus

theorem run_registerFrom (subject : Subject) (left made : Nat) (id : GlobalId) (d : Dataset)
    (s : Surroundings) (w : World) (h : subject.identifier? d = some id) :
    ∃ requests report e v, (registerFrom subject left made id d).run s w = (.ok (report, e), v) ∧
      report.attempts = made + requests.length ∧
      Submitted s subject (left + 1) d w requests report e v := by
  -- The dataset changes from one attempt to the next; what it carries is the identifier at hand.
  induction left generalizing made id d w with
  | zero =>
    refine submitted_attempt (Nat.le_refl 1) h fun x v hid hx hv hstatus => ?_
    have hsettled : Submitted s subject 1 d w [x] ⟨made + 1, x.status, id⟩ d v :=
      submitted_of_settled hx hid hv (Nat.le_refl 1) (fun _ => Or.inl rfl) h (by simp [hstatus])
        (fun _ => rfl) rfl
    rw [hstatus] at hsettled
    exact ⟨[x], _, d, v, rfl, rfl, hsettled⟩
  | succ left ih =>
    refine submitted_attempt (Nat.le_add_left 1 _) h fun x v hid hx hv hstatus => ?_
    cases hnext : (regenerate d subject id).run s v with
    | mk result u =>
      have hrequests := (generating_confined.regenerate d subject id).requests
        (fun _ he => he.isRegistration) hnext
      rw [run_bind_of_ok (run_outcome hnext)]
      have hu : u.requests = w.requests ++ [x] := hrequests.trans hv
      cases result with
      | error failure =>
        -- No other identifier can be made up, so the collision stands.
        have hsettled : Submitted s subject (left + 2) d w [x] ⟨made + 1, x.status, id⟩ d u :=
          submitted_of_settled hx hid hu (by omega)
            (fun _ => Or.inr ⟨v, failure, hrequests.symm, hnext⟩) h (by simp [hstatus])
            (fun _ => rfl) rfl
        rw [hstatus] at hsettled
        exact ⟨[x], _, d, u, rfl, rfl, hsettled⟩
      | ok next =>
        obtain ⟨requests, report, e, v', hrun, hattempts, hsubmitted⟩ :=
          ih (made + 1) next (subject.assign next d) u (subject.identifier?_assign h next)
        refine ⟨x :: requests, report, e, v', hrun, ?_, hsubmitted.retried hx hu hstatus⟩
        rw [hattempts, List.length_cons]
        omega

/-- A registration that ended was submitted as its requests say. -/
theorem submitted_of_run_registerFrom {subject : Subject} {left made : Nat} {id : GlobalId}
    {d e : Dataset} {s : Surroundings} {w v : World} {report : RegistrationReport}
    {requests : List Request} (h : subject.identifier? d = some id)
    (hrun : (registerFrom subject left made id d).run s w = (.ok (report, e), v))
    (hrequests : v.requests = w.requests ++ requests) :
    Submitted s subject (left + 1) d w requests report e v := by
  obtain ⟨requests', report', e', v', hrun', -, hsubmitted⟩ :=
    run_registerFrom subject left made id d s w h
  cases hrun.symm.trans hrun'
  obtain rfl : requests = requests' :=
    List.append_cancel_left (hrequests.symm.trans hsubmitted.made)
  exact hsubmitted

/-- Registering a file that was given an identifier starts with a request for it. -/
theorem run_registerFile (file : DataFileId) (id : GlobalId) (d : Dataset) (s : Surroundings)
    (w : World) :
    (registerFile file ((Subject.file file).assign id d)).run s w =
      match d.file? file with
      | none => (.error (.persistence (.notFound ("data file " ++ file.text))), w)
      | some _ => (registerFrom (.file file) (s.identifiers.maxRegistrationAttempts - 1) 0 id
          ((Subject.file file).assign id d)).run s w := by
  have hfile : ((Subject.file file).assign id d).file? file =
      (d.file? file).map fun f => { f with globalId := some id } := by
    apply Dataset.file?_mapFile
    exact fun _ => rfl
  have hcarried := Subject.identifier?_assign_file file id d
  unfold registerFile
  rw [hfile]
  cases hfound : d.file? file with
  | none => rfl
  | some f =>
    rw [hfound] at hcarried
    show (register (.file file) _).run s w = _
    unfold register
    rw [run_bind_of_ok (x := surroundings) rfl]
    dsimp only
    rw [hcarried]
    rfl

/-- A registration submits identifiers until one is not taken, as often as the settings allow and
as long as another one can be made up, and reports what became of the last one. -/
theorem register_retries_exactly {s : Surroundings} {w : World} {subject : Subject} {d : Dataset}
    {id : GlobalId} (h : subject.identifier? d = some id)
    (hmost : 1 ≤ s.identifiers.maxRegistrationAttempts) :
    ∃ requests report e v, (register subject d).run s w = (.ok (report, e), v) ∧
      report.attempts = requests.length ∧
      Submitted s subject s.identifiers.maxRegistrationAttempts d w requests report e v := by
  obtain ⟨requests, report, e, v, hrun, hattempts, hsubmitted⟩ :=
    run_registerFrom subject (s.identifiers.maxRegistrationAttempts - 1) 0 id d s w h
  rw [Nat.sub_add_cancel hmost] at hsubmitted
  refine ⟨requests, report, e, v, ?_, by rw [hattempts, Nat.zero_add], hsubmitted⟩
  unfold register
  rw [run_bind_of_ok (x := surroundings) rfl]
  dsimp only
  rw [h]
  exact hrun

/-- A registry where the first identifier submitted is taken. -/
def takenOnce : Surroundings :=
  { calmSurroundings with
    registry := fun n target =>
      .ok (if n = 0 then .collision target.identifier "taken"
        else .registered target.identifier) }

def identifiedDraft : Dataset := { titledDraft with globalId := some ⟨"doi", "10.5072", "FK2/A"⟩ }

theorem register_retries_when_taken :
    ((register .dataset identifiedDraft).run takenOnce emptyWorld).1.toOption.map
        (fun x => (x.1.attempts, x.1.status)) = some (2, .registered) ∧
      ∃ requests report e v,
        (register .dataset identifiedDraft).run takenOnce emptyWorld = (.ok (report, e), v) ∧
          report.attempts = requests.length ∧
          Submitted takenOnce .dataset takenOnce.identifiers.maxRegistrationAttempts
            identifiedDraft emptyWorld requests report e v :=
  ⟨by decide +kernel, register_retries_exactly rfl (by decide)⟩

end Repository

end Depository
