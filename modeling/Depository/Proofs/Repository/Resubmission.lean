import Depository.Proofs.Repository.Draws
import Depository.Proofs.Repository.FileNumbering

/-!
# Identifiers in place of taken ones

As long as the registry finds identifiers taken, a registration makes up one after another and
submits each of them. What is made up is unused here. It is also new to the registry as far as this
registration goes: a number of the sequence comes after all numbers drawn before, and a number below
the identifier of the dataset exceeds that of the file at hand.
-/

namespace Depository

/-- The identifiers submitted to the registry so far. -/
def World.submitted (w : World) : List GlobalId := w.requests.map (·.target.identifier)

namespace Repository

open Depository.Action

variable {s : Surroundings} {w v : World} {d e : Dataset} {subject : Subject} {id g : GlobalId}
  {renewed : List GlobalId}

/-! ### What is made up in place of another identifier -/

private theorem unused_of_run_generateForFile (h : (generateForFile d).run s w = (.ok g, v)) :
    w.store.isLocallyUnique g = true := by
  cases hdependent : s.identifiers.dependentFiles with
  | true =>
    cases hparent : d.globalId with
    | some parent =>
      obtain ⟨n, -, -, hunused, -⟩ := of_run_generateForFile hdependent hparent h
      exact hunused
    | none =>
      simp only [generateForFile] at h
      rw [run_bind_of_ok (x := surroundings) rfl] at h
      simp only [hdependent, if_true, hparent] at h
      cases h
  | false =>
    simp only [generateForFile] at h
    rw [run_bind_of_ok (x := surroundings) rfl] at h
    simp only [hdependent, Bool.false_eq_true, if_false] at h
    exact unused_of_run_generate h

private theorem unused_of_run_regenerate (h : (regenerate d subject id).run s w = (.ok g, v)) :
    w.store.isLocallyUnique g = true := by
  cases subject with
  | dataset =>
    have hgenerate : (generate (some id)).run s w = (.ok g, v) := h
    exact unused_of_run_generate hgenerate
  | file _ =>
    have hgenerate : (generateForFile d).run s w = (.ok g, v) := h
    exact unused_of_run_generateForFile hgenerate

/-- An independent identifier for a file is made up as one for its dataset. -/
theorem run_generateForFile_of_independent (h : s.identifiers.dependentFiles = false)
    (d : Dataset) (w : World) : (generateForFile d).run s w = (generate d.globalId).run s w := by
  simp only [generateForFile]
  rw [run_bind_of_ok (x := surroundings) rfl]
  simp only [h, Bool.false_eq_true, if_false]

/-- An identifier in place of one that was made up independently comes from a draw, too. -/
theorem of_run_regenerate (hfree : subject = .dataset ∨ s.identifiers.dependentFiles = false)
    (hid : subject.identifier? d = some id)
    (h : (regenerate d subject id).run s w = (.ok g, v)) :
    ∃ n, drawn s.identifiers.identifierStyle w ≤ n ∧
      n < drawn s.identifiers.identifierStyle v ∧
      g = drawnIdentifier s.identifiers (origin s.identifiers d.globalId) w n := by
  cases subject with
  | dataset =>
    have hown : d.globalId = some id := hid
    have hgenerate : (generate (some id)).run s w = (.ok g, v) := h
    rw [hown]
    exact of_run_generate hgenerate
  | file x =>
    have hindependent := hfree.resolve_left (by simp)
    have hgenerate : (generateForFile d).run s w = (.ok g, v) := h
    rw [run_generateForFile_of_independent hindependent] at hgenerate
    exact of_run_generate hgenerate

/-- What is made up next has the same protocol and authority. -/
private theorem origin_assign (settings : IdentifierSettings) (n : Int) :
    origin settings (subject.assign
      (drawnIdentifier settings (origin settings d.globalId) w n) d).globalId =
        origin settings d.globalId := by
  cases subject <;> rfl

/-! ### What one registration makes up -/

/-- The identifiers that a registration makes up for a subject, each in place of the one before,
until it ends with a dataset and a world. -/
inductive Renewals (s : Surroundings) (subject : Subject) (e : Dataset) (v : World) :
    World → Dataset → GlobalId → List GlobalId → Prop where
  | settled {w : World} {d : Dataset} {id : GlobalId} : Drawing w v →
      (e = d ∨ ∃ time, e = subject.markRegistered time d) → Renewals s subject e v w d id []
  | renewed {w u u' : World} {d : Dataset} {id next : GlobalId} {later : List GlobalId} :
      Drawing w u → (regenerate d subject id).run s u = (.ok next, u') →
      Renewals s subject e v u' (subject.assign next d) next later →
      Renewals s subject e v w d id (next :: later)

/-- Making identifiers up submits none. -/
private theorem submitted_of_makesUp {α : Type} {x : Action α} {result : Except Failure α}
    (h : Confined .numbering Event.MakesUp x) (hrun : x.run s w = (result, v)) :
    v.submitted = w.submitted := by
  have hmade := h.requests (fun _ he => he.isRegistration) hrun
  rw [World.submitted, hmade, World.submitted]

section

variable {made left : Nat} {report : RegistrationReport}

/-- An attempt submits its identifier, and leaves the next one to `retry`. -/
private theorem renewals_of_run_attempt {retry : Action (RegistrationReport × Dataset)}
    (h : (attempt subject made id d retry).run s w = (.ok (report, e), v))
    (hretry : ∀ u, Drawing w u → retry.run s u = (.ok (report, e), v) →
      ∃ renewed, v.submitted = u.submitted ++ renewed ∧ Renewals s subject e v w d id renewed) :
    ∃ renewed, v.submitted = w.submitted ++ id :: renewed ∧
      Renewals s subject e v w d id renewed := by
  obtain ⟨x, u, hid, -, hmade, hattempt⟩ := run_attempt subject made id d s w
  have hsubmitted : u.submitted = w.submitted ++ [id] := by
    simp only [World.submitted, hmade, List.map_append, List.map_cons, List.map_nil, hid]
  -- Whatever is done after a collision, the request itself only draws.
  have hasked := hattempt (pure (⟨made + 1, .collision, id⟩, d))
  have hdraws : Draws (attempt subject made id d (pure (⟨made + 1, .collision, id⟩, d))) :=
    registering_draws.attempt subject made id d (registering_draws.pure _)
  have hdrawing := hdraws.drawing hasked
  rw [hattempt] at h
  cases hstatus : x.status with
  | registered =>
    rw [hstatus] at h hdrawing
    cases h
    exact ⟨[], hsubmitted, .settled hdrawing (Or.inr ⟨_, rfl⟩)⟩
  | failed =>
    rw [hstatus] at h hdrawing
    cases h
    exact ⟨[], hsubmitted, .settled hdrawing (Or.inl rfl)⟩
  | collision =>
    rw [hstatus] at h hdrawing
    obtain ⟨renewed, hlater, hrenewed⟩ := hretry u hdrawing h
    refine ⟨renewed, ?_, hrenewed⟩
    rw [hlater, hsubmitted, List.append_assoc, List.singleton_append]

theorem renewals_of_run_registerFrom
    (h : (registerFrom subject left made id d).run s w = (.ok (report, e), v)) :
    ∃ renewed, v.submitted = w.submitted ++ id :: renewed ∧
      Renewals s subject e v w d id renewed := by
  induction left generalizing made id d w with
  | zero =>
    apply renewals_of_run_attempt h
    intro u hdrawing hretry
    cases hretry
    exact ⟨[], (List.append_nil _).symm, .settled hdrawing (Or.inl rfl)⟩
  | succ left ih =>
    apply renewals_of_run_attempt h
    intro u hdrawing hretry
    cases hrenew : (regenerate d subject id).run s u with
    | mk result u' =>
      have hmoved := (registering_draws.regenerate d subject id).drawing hrenew
      have hunasked := submitted_of_makesUp (generating_confined.regenerate d subject id) hrenew
      rw [run_bind_of_ok (run_outcome hrenew)] at hretry
      cases result with
      | error failure =>
        cases hretry
        refine ⟨[], ?_, .settled (hdrawing.trans hmoved) (Or.inl rfl)⟩
        rw [hunasked, List.append_nil]
      | ok next =>
        obtain ⟨later, hsubmitted, hlater⟩ := ih hretry
        refine ⟨next :: later, ?_, .renewed hdrawing hrenew hlater⟩
        rw [hsubmitted, hunasked]

end

namespace Renewals

theorem drawing (h : Renewals s subject e v w d id renewed) : Drawing w v := by
  induction h with
  | settled hdrawing _ => exact hdrawing
  | renewed hdrawing hrenew _ ih =>
    have hmoved := (registering_draws.regenerate _ _ _).drawing hrenew
    exact (hdrawing.trans hmoved).trans ih

/-- No identifier that is made up is used by anything stored. -/
theorem unused (h : Renewals s subject e v w d id renewed) :
    ∀ g ∈ renewed, w.store.isLocallyUnique g = true := by
  induction h with
  | settled _ _ => simp
  | renewed hdrawing hrenew _ ih =>
    have hmoved := (generating_confined.regenerate _ _ _).allows hrenew
    have hsame := StoreEffect.numbering.trans hdrawing.numbering hmoved
    rw [List.forall_mem_cons]
    constructor
    · rw [← isLocallyUnique_of_numbering hdrawing.numbering]
      exact unused_of_run_regenerate hrenew
    · intro g hg
      rw [← isLocallyUnique_of_numbering hsame]
      exact ih g hg

/-- Independent identifiers come from one draw after another. -/
theorem lots (hfree : subject = .dataset ∨ s.identifiers.dependentFiles = false)
    (hid : subject.identifier? d = some id) (h : Renewals s subject e v w d id renewed) :
    ∃ lots, Lots s.identifiers.identifierStyle w v lots ∧
      renewed = lots.map (drawnIdentifier s.identifiers (origin s.identifiers d.globalId) w) := by
  induction h with
  | settled _ _ => exact ⟨[], .nil, rfl⟩
  | @renewed w u u' d id next later hdrawing hrenew hlater ih =>
    have hmoved := (registering_draws.regenerate _ _ _).drawing hrenew
    obtain ⟨n, hle, hlt, rfl⟩ := of_run_regenerate hfree hid hrenew
    obtain ⟨lots, hlots, rfl⟩ := ih (subject.identifier?_assign hid _)
    rw [origin_assign]
    refine ⟨n :: lots, ?_, ?_⟩
    · have hfirst : Lots s.identifiers.identifierStyle w u' [n] :=
        (Lots.single hle hlt).widen hdrawing (.refl u')
      exact hfirst.append hlots (hdrawing.trans hmoved) hlater.drawing
    · have hall := (hdrawing.trans hmoved).drawnIdentifier_eq s.identifiers
        (origin s.identifiers d.globalId)
      rw [List.map_cons, hdrawing.drawnIdentifier_eq]
      exact congrArg _ (List.map_congr_left fun n _ => hall n)

/-- The numbers of dependent identifiers increase, beyond those of all files. -/
theorem numbers {file : DataFileId} {parent : GlobalId}
    (hdependent : s.identifiers.dependentFiles = true) (hparent : d.globalId = some parent)
    (hid : (Subject.file file).identifier? d = some id) (hfit : TriesFit parent w v)
    (h : Renewals s (.file file) e v w d id renewed) :
    ∃ numbers : List Nat, renewed = numbers.map (numbered parent) ∧ numbers.Pairwise (· < ·) ∧
      ∀ n ∈ numbers, n < 2 ^ 64 ∧ ∀ m ∈ fileNumbers parent d, m < n := by
  induction h with
  | settled _ _ => exact ⟨[], rfl, .nil, by simp⟩
  | @renewed w u u' d id next later hdrawing hrenew hlater ih =>
    have hgenerate : (generateForFile d).run s u = (.ok next, u') := hrenew
    have hmoved := (registering_draws.generateForFile d).drawing hgenerate
    obtain ⟨n, rfl, hgreater, -, hmade⟩ := of_run_generateForFile hdependent hparent hgenerate
    have hn : n < 2 ^ 64 :=
      hfit n ((hmade.after hdrawing.log_extended).before hlater.drawing.log_extended)
    have hcarried := (Subject.file file).identifier?_assign hid (numbered parent n)
    obtain ⟨numbers, rfl, hincreasing, hnumbers⟩ := ih hparent hcarried
      (hfit.after (hdrawing.trans hmoved).log_extended)
    -- The file carries the number that was made up, so the later ones exceed it.
    have hcarries : n ∈ fileNumbers parent ((Subject.file file).assign (numbered parent n) d) :=
      mem_fileNumbers_of_numbered hn (Subject.mem_fileIdentifiers hcarried)
    have hlater (m : Nat) (hm : m ∈ numbers) : n < m := (hnumbers m hm).2 n hcarries
    refine ⟨n :: numbers, rfl, List.pairwise_cons.mpr ⟨hlater, hincreasing⟩, ?_⟩
    rw [List.forall_mem_cons]
    refine ⟨⟨hn, hgreater⟩, fun m hm => ⟨(hnumbers m hm).1, fun k hk => ?_⟩⟩
    exact Nat.lt_trans (hgreater k hk) (hlater m hm)

/-- No number is that of the file at hand. -/
theorem nodup {file : DataFileId} {parent : GlobalId}
    (hdependent : s.identifiers.dependentFiles = true) (hparent : d.globalId = some parent)
    (hid : (Subject.file file).identifier? d = some id) (hfit : TriesFit parent w v)
    (h : Renewals s (.file file) e v w d id renewed) : (id :: renewed).Nodup := by
  obtain ⟨numbers, rfl, hincreasing, hnumbers⟩ := h.numbers hdependent hparent hid hfit
  refine List.nodup_cons.mpr ⟨?_, ?_⟩
  · intro hmem
    obtain ⟨n, hn, rfl⟩ := List.mem_map.mp hmem
    obtain ⟨hfits, hgreater⟩ := hnumbers n hn
    have hcarried := mem_fileNumbers_of_numbered hfits (Subject.mem_fileIdentifiers hid)
    exact Nat.lt_irrefl n (hgreater n hcarried)
  · apply List.pairwise_map.mpr
    apply hincreasing.imp
    intro m n hlt hsame
    exact Nat.ne_of_lt hlt (numbered_injective hsame)

end Renewals

/-- A registration submits what the subject carries, and then what is made up in place of it. -/
private theorem renewals_of_run_register {result : Except Failure (RegistrationReport × Dataset)}
    (hid : subject.identifier? d = some id) (h : (register subject d).run s w = (result, v)) :
    ∃ e renewed, v.submitted = w.submitted ++ id :: renewed ∧
      Renewals s subject e v w d id renewed := by
  obtain ⟨-, report, e, u, hrun, -⟩ := run_registerFrom subject
    (s.identifiers.maxRegistrationAttempts - 1) 0 id d s w hid
  unfold register at h
  rw [run_bind_of_ok (x := surroundings) rfl] at h
  dsimp only at h
  rw [hid] at h
  cases hrun.symm.trans h
  exact ⟨e, renewals_of_run_registerFrom hrun⟩

/-! ### What one registration submits -/

/-- Between two worlds the registry was asked for an identifier that was there, if there was one,
and for others that were made up. None was submitted twice, and what was made up is unused by the
datasets and files of the store. -/
def SubmitsAnew (old : Option GlobalId) (w v : World) : Prop :=
  ∃ made, v.submitted = w.submitted ++ (old.toList ++ made) ∧ (old.toList ++ made).Nodup ∧
    ∀ g ∈ made, ∀ id d, w.store.findDataset? id = some d → Store.uses g d = false

private theorem submitsAnew_of_unasked (h : v.submitted = w.submitted) : SubmitsAnew none w v :=
  ⟨[], by simpa using h, by simp, by simp⟩

/-- An identifier is made up, and then submitted with those in its place. -/
private theorem submitsAnew_of_made {u : World} (hdrawing : Drawing w u)
    (hunasked : u.submitted = w.submitted) (hunused : w.store.isLocallyUnique id = true)
    (hsubmitted : v.submitted = u.submitted ++ id :: renewed) (hnodup : (id :: renewed).Nodup)
    (hlater : ∀ g ∈ renewed, u.store.isLocallyUnique g = true) : SubmitsAnew none w v := by
  refine ⟨id :: renewed, hunasked ▸ hsubmitted, hnodup, ?_⟩
  intro g hg
  apply Store.isLocallyUnique_iff.mp
  rcases List.mem_cons.mp hg with rfl | hg
  · exact hunused
  · rw [← isLocallyUnique_of_numbering hdrawing.numbering]
    exact hlater g hg

section

variable {result : Except Failure (RegistrationReport × Dataset)}

/-- Numbers of the sequence are drawn once each, and those that are taken are passed over. -/
private theorem submitsAnew_of_run_registerDataset
    (hstyle : s.identifiers.identifierStyle = .sequence)
    (hnone : d.globalId = none) (h : (registerDataset d).run s w = (result, v)) :
    SubmitsAnew none w v := by
  unfold registerDataset at h
  simp only [hnone, Option.isSome_none, Bool.false_eq_true, if_false] at h
  cases hgenerate : (generate none).run s w with
  | mk generated u =>
    have hdrawing := (registering_draws.generate none).drawing hgenerate
    have hunasked := submitted_of_makesUp (generating_confined.generate none) hgenerate
    cases generated with
    | error failure =>
      cases (run_bind_of_error hgenerate).symm.trans h
      exact submitsAnew_of_unasked hunasked
    | ok id =>
      rw [run_bind_of_ok hgenerate] at h
      have hunused := unused_of_run_generate hgenerate
      obtain ⟨n, hle, hlt, rfl⟩ := of_run_generate hgenerate
      have hcarried : Subject.dataset.identifier? (Subject.dataset.assign
          (drawnIdentifier s.identifiers (origin s.identifiers none) w n) d) = some _ := rfl
      obtain ⟨e, renewed, hsubmitted, hrenewed⟩ := renewals_of_run_register hcarried h
      have hlater := hrenewed.unused
      obtain ⟨lots, hlots, rfl⟩ := hrenewed.lots (Or.inl rfl) hcarried
      -- All that is submitted comes from draws of one kind, seen from the beginning.
      have hall : Lots s.identifiers.identifierStyle w v (n :: lots) :=
        (Lots.single hle hlt).append hlots hdrawing hrenewed.drawing
      have hmap : lots.map (drawnIdentifier s.identifiers (origin s.identifiers none) u) =
          lots.map (drawnIdentifier s.identifiers (origin s.identifiers none) w) :=
        List.map_congr_left fun m _ =>
          hdrawing.drawnIdentifier_eq s.identifiers (origin s.identifiers none) m
      have horigin : origin s.identifiers (Subject.dataset.assign (drawnIdentifier s.identifiers
          (origin s.identifiers none) w n) d).globalId = origin s.identifiers none := rfl
      rw [horigin, hmap] at hsubmitted hlater
      exact submitsAnew_of_made hdrawing hunasked hunused hsubmitted
        (hall.nodup (Or.inl hstyle) (origin s.identifiers none)) hlater

/-- The numbers of a file exceed each other, whatever the file started with. -/
private theorem submitsAnew_of_run_registerFile {file : DataFileId} {parent : GlobalId}
    (hdependent : s.identifiers.dependentFiles = true) (hparent : d.globalId = some parent)
    (hfit : TriesFit parent w v) (h : (registerFile file d).run s w = (result, v)) :
    SubmitsAnew ((Subject.file file).identifier? d) w v := by
  have hidentifier : (Subject.file file).identifier? d = (d.file? file).bind (·.globalId) := rfl
  rw [hidentifier]
  unfold registerFile at h
  cases hfile : d.file? file with
  | none =>
    rw [hfile] at h
    cases h
    exact submitsAnew_of_unasked rfl
  | some f =>
    rw [hfile] at h hidentifier
    rw [Option.bind_some] at hidentifier ⊢
    cases hown : f.globalId with
    | some id =>
      simp only [hown, Option.isSome_some, if_true] at h
      have hcarried := hidentifier.trans hown
      obtain ⟨e, renewed, hsubmitted, hrenewed⟩ := renewals_of_run_register hcarried h
      refine ⟨renewed, hsubmitted, hrenewed.nodup hdependent hparent hcarried hfit, ?_⟩
      intro g hg
      exact Store.isLocallyUnique_iff.mp (hrenewed.unused g hg)
    | none =>
      simp only [hown, Option.isSome_none, Bool.false_eq_true, if_false] at h
      cases hgenerate : (generateForFile d).run s w with
      | mk generated u =>
        have hdrawing := (registering_draws.generateForFile d).drawing hgenerate
        have hunasked := submitted_of_makesUp (generating_confined.generateForFile d) hgenerate
        cases generated with
        | error failure =>
          cases (run_bind_of_error hgenerate).symm.trans h
          exact submitsAnew_of_unasked hunasked
        | ok id =>
          rw [run_bind_of_ok hgenerate] at h
          have hcarried := Subject.identifier?_assign_of_owns (Dataset.owns_of_file? hfile) id
          obtain ⟨e, renewed, hsubmitted, hrenewed⟩ := renewals_of_run_register hcarried h
          have hbelow : ((Subject.file file).assign id d).globalId = some parent := hparent
          have hnodup := hrenewed.nodup hdependent hbelow hcarried
            (hfit.after hdrawing.log_extended)
          exact submitsAnew_of_made hdrawing hunasked (unused_of_run_generateForFile hgenerate)
            hsubmitted hnodup hrenewed.unused

end

/-- Whatever the registry answers, a registration submits nothing twice, and nothing that it made up
is in use here: for a dataset without an identifier where local parts are numbers of the sequence,
and for any file of a dataset whose identifier those of its files extend. -/
theorem registration_submits_anew (d : Dataset) (s : Surroundings) (w : World) :
    (s.identifiers.identifierStyle = .sequence → d.globalId = none →
      SubmitsAnew none w ((registerDataset d).run s w).2) ∧
    ∀ (file : DataFileId) (parent : GlobalId), s.identifiers.dependentFiles = true →
      d.globalId = some parent → TriesFit parent w ((registerFile file d).run s w).2 →
      SubmitsAnew ((Subject.file file).identifier? d) w ((registerFile file d).run s w).2 := by
  constructor
  · intro hstyle hnone
    exact submitsAnew_of_run_registerDataset hstyle hnone rfl
  · intro file parent hdependent hparent hfit
    exact submitsAnew_of_run_registerFile hdependent hparent hfit rfl

/-! ### Identifiers that are taken -/

private theorem triesFit_of_candidates {parent : GlobalId} {numbers : List Nat}
    (h : v.log.filterMap Event.candidate? = numbers.map (numbered parent))
    (hfit : ∀ n ∈ numbers, n < 2 ^ 64) : TriesFit parent w v := by
  rintro n ⟨calls, hlog, hn⟩
  have hmem : numbered parent n ∈ v.log.filterMap Event.candidate? := by
    rw [hlog]
    exact List.mem_filterMap.mpr ⟨_, List.mem_append_right _ hn, rfl⟩
  rw [h] at hmem
  obtain ⟨m, hm, hsame⟩ := List.mem_map.mp hmem
  exact numbered_injective hsame ▸ hfit m hm

/-- The first request finds its identifier taken, and local parts are numbers of the sequence. -/
def takenOnceNumbered : Surroundings :=
  { takenOnce with identifiers := { IdentifierSettings.default with style := "storedProcGenerated" } }

/-- What the first number of the sequence gives is the identifier of a dataset. -/
def sequenceTaken : World :=
  storing { titledDraft with id := ⟨⟨2⟩⟩, globalId := some ⟨"doi", "10.5072", "FK21"⟩ }

theorem registration_submits_anew_when_taken :
    (((registerDataset titledDraft).run takenOnceNumbered sequenceTaken).2.submitted =
        [⟨"doi", "10.5072", "FK22"⟩, ⟨"doi", "10.5072", "FK23"⟩] ∧
      SubmitsAnew none sequenceTaken
        ((registerDataset titledDraft).run takenOnceNumbered sequenceTaken).2) ∧
    (((registerFile ⟨⟨3⟩⟩ partlyNumbered).run takenOnce numberedWorld).2.submitted =
        [7, 9].map (numbered tidesIdentifier) ∧
      SubmitsAnew (some (numbered tidesIdentifier 7)) numberedWorld
        ((registerFile ⟨⟨3⟩⟩ partlyNumbered).run takenOnce numberedWorld).2) := by
  have htried : ((registerFile ⟨⟨3⟩⟩ partlyNumbered).run takenOnce
      numberedWorld).2.log.filterMap Event.candidate? = [8, 9].map (numbered tidesIdentifier) := by
    decide +kernel
  refine ⟨⟨by decide +kernel, ?_⟩, ⟨by decide +kernel, ?_⟩⟩
  · exact (registration_submits_anew titledDraft takenOnceNumbered sequenceTaken).1
      (by decide) (by decide)
  · exact (registration_submits_anew partlyNumbered takenOnce numberedWorld).2 ⟨⟨3⟩⟩
      tidesIdentifier rfl rfl (triesFit_of_candidates htried (by decide))

end Repository

end Depository
