import Depository.Proofs.Repository.Admission
import Depository.Proofs.Repository.Calls
import Depository.Proofs.Repository.Staging

/-!
# Updates

How an update ends: refused before anything has changed, given up before the commit, or saved.
A refusal leaves the store alone, a failure moves at most its sequence of numbers on, and a saved
update replaces one dataset for a caller who may edit it.
-/

namespace Depository.Repository

open Depository.Action Depository.Dataset

/-! ### Before the commit -/

theorem confined_stage (p : PreparedUpdate) : Confined .none Event.Prepares (stage p) := by
  refine stage_of_compositional compositional_confined (fun draft files => ?_) p
  intro s w
  refine ⟨rfl, [.ingest draft.fileMetadata.length files.length], rfl, ?_⟩
  intro e he
  rw [List.mem_singleton.mp he]
  trivial

/-- A registration that fails does not make the update fail. -/
theorem succeeds_registerIfDue (d : Dataset) : Succeeds (registerIfDue d) := by
  refine succeeds_surroundings.bind fun s => ?_
  split
  · refine (succeeds_outcome _).bind fun result => ?_
    cases result with
    | error _ => exact succeeds_pure _
    | ok _ => exact succeeds_pure _
  · exact succeeds_pure _

/-! ### The commit and after -/

/-- Who worked on a draft is noted first, and then the index is brought up to date. -/
theorem run_follow (user : User) (time : Time.Instant) (saved : Dataset) (s : Surroundings)
    (w : World) :
    ∃ v, (follow user time saved).run s w = (.ok (), ((reindex saved true).run s v).2) ∧
      (StoreEffect.visiting fun k => ∃ d, saved.draft? = some d ∧ k = (d.id, user.id)).allows
        w.store v.store ∧
      ∃ calls, v.log = w.log ++ calls ∧ ∀ e ∈ calls, e.isIndexing = false := by
  cases hdraft : saved.draft? with
  | none =>
    refine ⟨w, ?_, StoreEffect.refl _ _, [], (List.append_nil _).symm, by simp⟩
    unfold follow
    rw [hdraft]
    rfl
  | some draft =>
    have htouch : Confined (.visiting fun k => ∃ d, some draft = some d ∧ k = (d.id, user.id))
        (fun e => e.isIndexing = false) (touch draft.id user.id time) :=
      confined_touch ⟨draft, rfl, rfl⟩ (fun _ => rfl) time
    refine ⟨((touch draft.id user.id time).run s w).2, ?_, htouch s w⟩
    unfold follow
    rw [hdraft]
    rfl

theorem confined_follow (user : User) (time : Time.Instant) (saved : Dataset) :
    Confined (.visiting fun _ => True) (fun e => e.isIngest = false) (follow user time saved) := by
  have hreindex : Confined (.visiting fun _ => True) (fun e => e.isIngest = false)
      (reindex saved true) := confined_reindex saved true fun _ => rfl
  have hindex : Confined (.visiting fun _ => True) (fun e => e.isIngest = false)
      (do let _ ← outcome (reindex saved true); pure ()) :=
    hreindex.outcome.bind fun _ => confined_pure _
  unfold follow
  split
  · have htouch (v : Version) : Confined (.visiting fun _ => True) (fun e => e.isIngest = false)
        (touch v.id user.id time) := confined_touch trivial (fun _ => rfl) time
    exact (htouch _).outcome.bind fun _ => hindex
  · exact hindex

/-! ### The run -/

/-- How an update may end. One that is saved had a dataset prepared, staged and registered, and
was then committed. -/
inductive UpdateRun (s : Surroundings) (w : World) (r : UpdateRequest) :
    Except Failure UpdateOutcome → World → Prop where
  | refused (e : Failure) (v : World) (calls : List Event) :
      v.store = w.store → v.log = w.log ++ calls → (∀ c ∈ calls, c.Prepares) →
      UpdateRun s w r (.error e) v
  | uncommitted (e : StoreFailure) (v : World) (calls : List Event) :
      StoreEffect.numbering.allows w.store v.store → v.log = w.log ++ calls →
      (∀ c ∈ calls, c.isIndexing = false) →
      UpdateRun s w r (.error (.persistence e)) v
  | saved (p : PreparedUpdate) (work : UnitOfWork) (d : Dataset)
      (registration : Option RegistrationReport) (w₁ w₂ w₃ w₄ : World) :
      (prepare r).run s w = (.ok p, w₁) →
      (stage p).run s w₁ = (.ok work, w₂) →
      (registerIfDue work.dataset).run s w₂ = (.ok (d, registration), w₃) →
      StoreEffect.numbering.allows w.store w₃.store →
      w₃.store.Admits { work with dataset := stampUpdate p.time d } →
      w₄.store = w₃.store.applyWork { work with dataset := stampUpdate p.time d } →
      w₄.count Event.isIndexing = w.count Event.isIndexing →
      UpdateRun s w r (.ok ⟨stampUpdate p.time d, registration⟩)
        ((follow p.user p.time (stampUpdate p.time d)).run s w₄).2

/-- An update that succeeds went through all its stages. -/
theorem of_run_update_ok {s : Surroundings} {w v : World} {r : UpdateRequest} {o : UpdateOutcome}
    (h : (update r).run s w = (.ok o, v)) :
    ∃ p work d registration w₁ w₂ w₃ w₄, (prepare r).run s w = (.ok p, w₁) ∧
      (stage p).run s w₁ = (.ok work, w₂) ∧
      (registerIfDue work.dataset).run s w₂ = (.ok (d, registration), w₃) ∧
      (commit { work with dataset := stampUpdate p.time d }).run s w₃ =
        (.ok (stampUpdate p.time d), w₄) ∧
      (follow p.user p.time (stampUpdate p.time d)).run s w₄ = (.ok (), v) ∧
      o = ⟨stampUpdate p.time d, registration⟩ := by
  obtain ⟨p, w₁, hprepare, h⟩ := of_run_bind_ok h
  obtain ⟨work, w₂, hstage, h⟩ := of_run_bind_ok h
  obtain ⟨⟨d, registration⟩, w₃, hregister, h⟩ := of_run_bind_ok h
  obtain ⟨saved, w₄, hcommit, h⟩ := of_run_bind_ok h
  obtain ⟨_, w₅, hfollow, h⟩ := of_run_bind_ok h
  cases h
  have hsaved : saved = stampUpdate p.time d := by
    rcases run_commit { work with dataset := stampUpdate p.time d } s w₃ with
      ⟨e, failed, hfailed⟩ | ⟨-, hstored⟩
    · rw [hfailed] at hcommit
      cases hcommit
    · rw [hstored] at hcommit
      cases hcommit
      rfl
  subst hsaved
  exact ⟨p, work, d, registration, w₁, w₂, w₃, w₄, hprepare, hstage, hregister, hcommit, hfollow,
    rfl⟩

/-- What the stages of an update that succeeds leave in the store. -/
theorem store_of_run_stages {s : Surroundings} {r : UpdateRequest} {p : PreparedUpdate}
    {work : UnitOfWork} {d e : Dataset} {registration : Option RegistrationReport}
    {w w₁ w₂ w₃ w₄ v : World} (hprepare : (prepare r).run s w = (.ok p, w₁))
    (hstage : (stage p).run s w₁ = (.ok work, w₂))
    (hregister : (registerIfDue work.dataset).run s w₂ = (.ok (d, registration), w₃))
    (hcommit : (commit { work with dataset := e }).run s w₃ = (.ok e, w₄))
    (hfollow : (follow p.user p.time e).run s w₄ = (.ok (), v)) :
    w₃.store = { w.store with identifierSequence := w₃.store.identifierSequence } ∧
      w₃.store.Admits { work with dataset := e } ∧
      w₄ = { w₃.record (.store .commit false) with
        store := w₃.store.applyWork { work with dataset := e } } ∧
      v.store = { w₄.store with versionUsers := v.store.versionUsers } := by
  have hsame : w.store = w₂.store :=
    ((confined_prepare r).allows hprepare).trans ((confined_stage p).allows hstage)
  obtain ⟨hnumbered, -⟩ := (registering_confined.registerIfDue work.dataset).allows hregister
  obtain ⟨hvisited, -⟩ := (confined_follow p.user p.time e).allows hfollow
  rcases run_commit { work with dataset := e } s w₃ with ⟨_, _, hfailed⟩ | ⟨hadmits, hstored⟩
  · rw [hfailed] at hcommit
    cases hcommit
  · rw [hstored] at hcommit
    exact ⟨hsame ▸ hnumbered, hadmits, (congrArg Prod.snd hcommit).symm, hvisited⟩

/-- After a dataset was registered, the update saves it or fails in the store. -/
private theorem updateRun_of_registered {s : Surroundings} {w w₁ w₂ w₃ : World} {r : UpdateRequest}
    {p : PreparedUpdate} {work : UnitOfWork} {d : Dataset}
    {registration : Option RegistrationReport} {calls : List Event}
    (hprepare : (prepare r).run s w = (.ok p, w₁)) (hstage : (stage p).run s w₁ = (.ok work, w₂))
    (hregister : (registerIfDue work.dataset).run s w₂ = (.ok (d, registration), w₃))
    (hstore : StoreEffect.numbering.allows w.store w₃.store) (hlog : w₃.log = w.log ++ calls)
    (hcalls : ∀ c ∈ calls, c.isIndexing = false) :
    UpdateRun s w r ((update r).run s w).1 ((update r).run s w).2 := by
  have hrun : (update r).run s w = (do
      let saved ← commit { work with dataset := stampUpdate p.time d }
      follow p.user p.time saved
      return (⟨saved, registration⟩ : UpdateOutcome) : Action UpdateOutcome).run s w₃ := by
    unfold update carryOut
    rw [run_bind_of_ok hprepare, run_bind_of_ok hstage, run_bind_of_ok hregister]
  rw [hrun]
  rcases run_commit { work with dataset := stampUpdate p.time d } s w₃ with
    ⟨e, failed, hcommit⟩ | ⟨hadmits, hcommit⟩
  · rw [run_bind_of_error hcommit]
    refine .uncommitted e _ (calls ++ [.store .commit failed]) hstore ?_ ?_
    · simp [World.record, hlog]
    · intro c hc
      rcases List.mem_append.mp hc with hc | hc
      · exact hcalls c hc
      · rw [List.mem_singleton.mp hc]
        rfl
  · generalize hstored : { w₃.record (.store .commit false) with
      store := w₃.store.applyWork { work with dataset := stampUpdate p.time d } } = w₄ at hcommit
    have hcount : w₄.count Event.isIndexing = w.count Event.isIndexing := by
      rw [← hstored]
      exact (count_record _ (.store .commit false) w₃).trans (count_of_log hlog hcalls)
    obtain ⟨v, hfollow, -, -⟩ := run_follow p.user p.time (stampUpdate p.time d) s w₄
    have hended := UpdateRun.saved p work d registration w₁ w₂ w₃ w₄ hprepare hstage hregister
      hstore hadmits (by rw [← hstored]) hcount
    rw [hfollow] at hended
    rw [run_bind_of_ok hcommit, run_bind_of_ok hfollow]
    exact hended

theorem updateRun (s : Surroundings) (w : World) (r : UpdateRequest) :
    UpdateRun s w r ((update r).run s w).1 ((update r).run s w).2 := by
  have hprepares : Confined .none Event.Prepares (prepare r) :=
    (confined_prepare r).mono (fun _ _ => id) fun _ => Event.Consults.prepares
  obtain ⟨hstore₁, calls₁, hlog₁, hcalls₁⟩ := hprepares s w
  cases hprepare : (prepare r).run s w with
  | mk prepared w₁ =>
    rw [hprepare] at hstore₁ hlog₁
    cases prepared with
    | error e =>
      have hrun : (update r).run s w = (.error e, w₁) := run_bind_of_error hprepare
      rw [hrun]
      exact .refused e w₁ calls₁ hstore₁.symm hlog₁ hcalls₁
    | ok p =>
      obtain ⟨hstore₂, calls₂, hlog₂, hcalls₂⟩ := confined_stage p s w₁
      have hcalls₁₂ : ∀ c ∈ calls₁ ++ calls₂, c.Prepares := by
        intro c hc
        rcases List.mem_append.mp hc with hc | hc
        · exact hcalls₁ c hc
        · exact hcalls₂ c hc
      cases hstage : (stage p).run s w₁ with
      | mk staged w₂ =>
        rw [hstage] at hstore₂ hlog₂
        cases staged with
        | error e =>
          -- So far only questions were asked, so this failure too is a refusal.
          have hrun : (update r).run s w = (.error e, w₂) := by
            unfold update carryOut
            rw [run_bind_of_ok hprepare, run_bind_of_error hstage]
          rw [hrun]
          refine .refused e w₂ (calls₁ ++ calls₂) (hstore₁.trans hstore₂).symm ?_ hcalls₁₂
          rw [hlog₂, hlog₁, List.append_assoc]
        | ok work =>
          -- Whatever the registry does, the update now comes to its commit.
          obtain ⟨hstore₃, calls₃, hlog₃, hcalls₃⟩ :=
            registering_confined.registerIfDue work.dataset s w₂
          obtain ⟨⟨d, registration⟩, w₃, hregister⟩ := succeeds_registerIfDue work.dataset s w₂
          rw [hregister] at hstore₃ hlog₃
          have hstore : StoreEffect.numbering.allows w.store w₃.store := by
            rw [show w.store = w₂.store from hstore₁.trans hstore₂]
            exact hstore₃
          have hlog : w₃.log = w.log ++ (calls₁ ++ calls₂ ++ calls₃) := by
            rw [hlog₃, hlog₂, hlog₁]
            simp only [List.append_assoc]
          refine updateRun_of_registered hprepare hstage hregister hstore hlog fun c hc => ?_
          rcases List.mem_append.mp hc with hc | hc
          · exact (hcalls₁₂ c hc).isIndexing
          · exact (hcalls₃ c hc).isIndexing

/-! ### All or nothing -/

/-- Nothing was changed, and neither the registry nor the index was called. -/
structure Untouched (w v : World) : Prop where
  store : v.store = w.store
  registry : v.count Event.isRegistration = w.count Event.isRegistration
  index : v.count Event.isIndexing = w.count Event.isIndexing

/-- Nothing but the sequence of numbers moved on, and the index was not called. -/
structure OnlyNumbered (w v : World) : Prop where
  store : v.store = { w.store with identifierSequence := v.store.identifierSequence }
  sequence : w.store.identifierSequence ≤ v.store.identifierSequence
  index : v.count Event.isIndexing = w.count Event.isIndexing

/-- What a saved update has changed: the dataset, the files deleted with it, the count of commits,
the sequence of numbers, and the time noted for the user under the draft. -/
structure SavedUpdate (s : Surroundings) (w : World) (r : UpdateRequest) (u : User)
    (o : UpdateOutcome) (v : World) : Prop where
  rest : v.store = { w.store with
    datasets := v.store.datasets
    versionUsers := v.store.versionUsers
    identifierSequence := v.store.identifierSequence
    hardDeletedFiles := v.store.hardDeletedFiles
    commits := v.store.commits }
  commits : v.store.commits = w.store.commits + 1
  stored : v.store.findDataset? r.dataset.id = some o.dataset
  others : ∀ id, id ≠ r.dataset.id → v.store.findDataset? id = w.store.findDataset? id
  deleted : ∃ files, v.store.hardDeletedFiles = w.store.hardDeletedFiles ++ files ∧
    (r.records = [] → r.file = none → files = []) ∧
    ∀ x ∈ files, ¬ o.dataset.Owns x ∧ ∀ d f, w.store.findDataset? r.dataset.id = some d →
      d.file? x = some f → f.isReleased = false
  sequence : w.store.identifierSequence ≤ v.store.identifierSequence
  visits : ∀ k, (∀ d, o.dataset.draft? = some d → k ≠ (d.id, u.id)) →
    v.store.versionUsers.get? k = w.store.versionUsers.get? k
  index : v.count Event.isIndexing = w.count Event.isIndexing + if s.index.isSome then 1 else 0

/-- What is saved was staged on the dataset of the request. -/
theorem stagedWork_of_saved {s : Surroundings} {r : UpdateRequest} {p : PreparedUpdate}
    {work : UnitOfWork} {d : Dataset} {registration : Option RegistrationReport}
    {w w₁ w₂ w₃ : World} (hprepare : (prepare r).run s w = (.ok p, w₁))
    (hstage : (stage p).run s w₁ = (.ok work, w₂))
    (hregister : (registerIfDue work.dataset).run s w₂ = (.ok (d, registration), w₃)) :
    StagedWork r.dataset p.records { work with dataset := stampUpdate p.time d } := by
  have hprepared := returns_prepare r s w p w₁ hprepare
  have hwork := returns_stage hprepared.hasDraft s w₁ work w₂ hstage
  have hregistered := returns_registerIfDue work.dataset s w₂ (d, registration) w₃ hregister
  have hidentified := staged_identify hwork.staged.hasDraft hregistered
  have hstamped := staged_stampUpdate hidentified.hasDraft p.time
  refine ⟨hprepared.trans (hwork.staged.trans (hidentified.trans hstamped)),
    fun hcoherent x hx => ?_, hwork.named⟩
  have hrevision := hprepared.revision hcoherent
  exact hrevision.owned x (hwork.owned hrevision.coherent x hx)

private theorem UpdateRun.of_error {s : Surroundings} {w v : World} {r : UpdateRequest}
    {e : Failure} (h : UpdateRun s w r (.error e) v) :
    (e.isPrecondition = true → Untouched w v) ∧ OnlyNumbered w v := by
  cases h with
  | refused _ _ calls hstore hlog hcalls =>
    have hindex := count_of_log hlog fun c hc => (hcalls c hc).isIndexing
    have hregistry := count_of_log hlog fun c hc => (hcalls c hc).isRegistration
    refine ⟨fun _ => ⟨hstore, hregistry, hindex⟩, ?_, ?_, hindex⟩
    · rw [hstore]
    · exact Int.le_of_eq (congrArg Store.identifierSequence hstore.symm)
  | uncommitted e _ calls hstore hlog hcalls =>
    refine ⟨fun he => ?_, hstore.1, hstore.2, count_of_log hlog hcalls⟩
    cases he

theorem UpdateRun.of_ok {s : Surroundings} {w v : World} {r : UpdateRequest} {o : UpdateOutcome}
    (h : UpdateRun s w r (.ok o) v) : ∃ u, Admitted w.store r u ∧ SavedUpdate s w r u o v := by
  cases h with
  | saved p work d registration w₁ w₂ w₃ w₄ hprepare hstage hregister hnumbered hadmits hstore hcount =>
    refine ⟨p.user, of_run_prepare_ok hprepare, ?_⟩
    have hwork := stagedWork_of_saved hprepare hstage hregister
    have hnamed := returns_prepare_records r s w p w₁ hprepare
    obtain ⟨hnumbered, hsequence⟩ := hnumbered
    obtain ⟨w₅, hfollow, ⟨hvisited, hvisits⟩, calls₅, hlog₅, hcalls₅⟩ :=
      run_follow p.user p.time (stampUpdate p.time d) s w₄
    have hcount₅ := count_of_log hlog₅ hcalls₅
    obtain ⟨hreindexed, hindexed⟩ := run_reindex (stampUpdate p.time d) true s w₅
    rw [hfollow]
    dsimp only
    generalize ((reindex (stampUpdate p.time d) true).run s w₅).2 = w₆ at hreindexed hindexed ⊢
    have hid := hwork.staged.id_eq
    have hfind (id : DatasetId) : w₆.store.findDataset? id =
        if id = r.dataset.id then some (stampUpdate p.time d) else w.store.findDataset? id := by
      rw [hreindexed, hvisited, hstore, hnumbered, ← hid]
      exact Store.findDataset?_applyWork _ _ id
    refine ⟨?_, ?_, ?_, ?_, ⟨work.deletedFiles, ?_, ?_, ?_⟩, ?_, ?_, ?_⟩
    · rw [hreindexed, hvisited, hstore, hnumbered]
      rfl
    · rw [hreindexed, hvisited, hstore, hnumbered]
      rfl
    · rw [hfind, if_pos rfl]
    · intro id hne
      rw [hfind, if_neg hne]
    · rw [hreindexed, hvisited, hstore, hnumbered]
      rfl
    · intro hrecords hfile
      exact hwork.named (hnamed hrecords hfile)
    · intro x hx
      refine ⟨fun howns => hadmits.notMem_of_owns howns hx, fun e f he hf => ?_⟩
      have hstored : w₃.store.findDataset? (stampUpdate p.time d).id = some e := by
        rw [hid, hnumbered]
        exact he
      exact (hadmits.respects e hstored).spares x hx f hf
    · rw [hreindexed, hvisited, hstore]
      exact hsequence
    · intro k hk
      rw [hreindexed]
      refine (hvisits k ?_).trans ?_
      · rintro ⟨e, he, hke⟩
        exact hk e he hke
      · rw [hstore, hnumbered]
        rfl
    · rw [hindexed, hcount₅, hcount]

/-- An update is all or nothing, and guarded. One that is refused changes nothing and calls
neither the registry nor the index; one that fails otherwise moves at most the sequence of numbers
on and does not call the index; one that succeeds had a caller who may edit and whom no lock under
a key of the dataset kept back, hence none of the dataset where locks stand under their own keys,
and has replaced that one dataset. -/
theorem update_all_or_nothing (s : Surroundings) (w : World) (r : UpdateRequest) :
    match (update r).run s w with
    | (.error e, v) => (e.isPrecondition = true → Untouched w v) ∧ OnlyNumbered w v
    | (.ok o, v) => ∃ u, Admitted w.store r u ∧
        (w.store.LocksKeyed → ∀ l ∈ w.store.locks.values, l.dataset = r.dataset.id →
          l.reason.blocksEdit (w.store.allows u r.dataset.id .publishDataset) = false) ∧
        SavedUpdate s w r u o v := by
  have h := updateRun s w r
  cases hrun : (update r).run s w with
  | mk result v =>
    rw [hrun] at h
    cases result with
    | error e => exact h.of_error
    | ok o =>
      obtain ⟨u, hadmitted, hsaved⟩ := h.of_ok
      exact ⟨u, hadmitted, hadmitted.unlocked_of_keyed, hsaved⟩

/-- A guest is refused. -/
example (s : Surroundings) (w : World) (d : Dataset) :
    ((update ⟨.guest, d, [], none, false⟩).run s w).1 =
      .error (.authorization "Only authenticated users can update datasets") := rfl

end Depository.Repository
