import Depository.Proofs.Repository.Framing

/-!
# Registering again

An update does not touch the registration of the copy that it starts from, and registers the
identifier of a copy without one. The store compares neither with what it holds, so a registration
lasts as long as the updates that are stored started from copies that have it.
-/

namespace Depository

/-- The identifier of a dataset and the time of its registration. -/
def Dataset.registration (d : Dataset) : Option GlobalId × Option Time.Instant :=
  (d.globalId, d.globalIdCreateTime)

private theorem Dataset.registration_of_frame {d e : Dataset} (h : e.frame = d.frame) :
    e.registration = d.registration := by
  obtain ⟨hid, htime, -⟩ := identifier_of_frame h
  rw [registration, hid, htime, registration]

/-- A dataset is stored with a registration. -/
def Store.HasRegistration (s : Store) (id : DatasetId)
    (registration : Option GlobalId × Option Time.Instant) : Prop :=
  ∃ d, s.findDataset? id = some d ∧ d.registration = registration

namespace Repository

open Depository.Action Depository.Dataset

/-! ### What a client brings to the store -/

/-- What a client that updates a copy of a dataset offers to the store. A stage may find another
world than the stage before has left, and services that answer otherwise, since other clients work
in between. -/
inductive Brought (copy : Dataset) : UnitOfWork → Prop where
  | saved {r : UpdateRequest} {p : PreparedUpdate} {work : UnitOfWork} {d : Dataset}
      {registration : Option RegistrationReport} {s₁ s₂ s₃ : Surroundings}
      {w₁ v₁ w₂ v₂ w₃ v₃ : World} :
      r.dataset = copy →
      (prepare r).run s₁ w₁ = (.ok p, v₁) →
      (stage p).run s₂ w₂ = (.ok work, v₂) →
      (registerIfDue work.dataset).run s₃ w₃ = (.ok (d, registration), v₃) →
      Brought copy { work with dataset := stampUpdate p.time d }

/-- The copy decides: if it is registered, its registration is what the client brings. -/
theorem Brought.registration {copy : Dataset} {w : UnitOfWork} (h : Brought copy w)
    (hcopy : copy.globalIdCreateTime.isSome = true) :
    w.dataset.registration = copy.registration := by
  cases h with
  | @saved r p work d registration s₁ s₂ s₃ w₁ v₁ w₂ v₂ w₃ v₃ hr hprepare hstage hregister =>
    subst hr
    have hframe := frame_of_stages hprepare hstage
    rcases of_run_registerIfDue_ok hregister with rfl | ⟨-, hnone⟩
    · exact registration_of_frame ((frame_stampUpdate p.time _).trans hframe)
    · -- A dataset that is registered is not registered again.
      rw [← (identifier_of_frame hframe).2.1, hnone] at hcopy
      cases hcopy

/-- What is admitted depends on the datasets that are stored. -/
private theorem admits_of_datasets {s t : Store} {w : UnitOfWork} (h : t.Admits w)
    (hdatasets : t.datasets = s.datasets) : s.Admits w := by
  refine ⟨h.oneDraft, h.detached, fun d hd => h.respects d ?_, fun g hg => ?_⟩
  · unfold Store.findDataset?
    rw [hdatasets]
    exact hd
  · have hunused := h.unused g hg
    unfold Store.identifierInUse at hunused ⊢
    rwa [hdatasets] at hunused

/-- An update that is saved is an offer of what its client brings. -/
private theorem brought_of_update {s : Surroundings} {w v : World} {r : UpdateRequest}
    {o : UpdateOutcome} (h : (update r).run s w = (.ok o, v)) :
    ∃ work, Brought r.dataset work ∧ work.dataset = o.dataset ∧ w.store.Admits work ∧
      v.store.datasets = (w.store.offer work).datasets := by
  obtain ⟨p, work, d, registration, w₁, w₂, w₃, w₄, hprepare, hstage, hregister, hcommit, hfollow,
    rfl⟩ := of_run_update_ok h
  obtain ⟨hnumbered, hadmits, hstored, hvisited⟩ :=
    store_of_run_stages hprepare hstage hregister hcommit hfollow
  have hdatasets : w₃.store.datasets = w.store.datasets := by rw [hnumbered]
  have hadmits' := admits_of_datasets hadmits hdatasets
  refine ⟨_, .saved rfl hprepare hstage hregister, rfl, hadmits', ?_⟩
  rw [Store.offer_of_admits hadmits', hvisited, hstored]
  show w₃.store.datasets.insert _ _ = w.store.datasets.insert _ _
  rw [hdatasets]

/-! ### Histories -/

private theorem hasRegistration_offer {s : Store} {w : UnitOfWork} {id : DatasetId}
    {registration : Option GlobalId × Option Time.Instant} (h : s.HasRegistration id registration)
    (hw : s.Admits w → w.dataset.id = id → w.dataset.registration = registration) :
    (s.offer w).HasRegistration id registration := by
  by_cases ha : s.Admits w
  · rw [Store.offer_of_admits ha]
    by_cases hid : w.dataset.id = id
    · exact ⟨w.dataset, by simp [hid], hw ha hid⟩
    · obtain ⟨d, hd, hreg⟩ := h
      exact ⟨d, by simpa [Ne.symm hid] using hd, hreg⟩
  · rwa [Store.offer_of_not_admits ha]

/-- A client brought a unit of work, on the copy of its dataset that was stored after the first
`taken` of some units of work. -/
structure BroughtFrom (start : Store) (works : List UnitOfWork) (taken : Nat) (copy : Dataset)
    (w : UnitOfWork) : Prop where
  brought : Brought copy w
  stored : (start.offerAll (works.take taken)).findDataset? w.dataset.id = some copy

private theorem hasRegistration_offerAll {s : Store} {works : List UnitOfWork} {id : DatasetId}
    {registration : Option GlobalId × Option Time.Instant} (h : s.HasRegistration id registration)
    (hw : ∀ n w, works[n]? = some w → (s.offerAll (works.take n)).Admits w → w.dataset.id = id →
      (∀ k ≤ n, (s.offerAll (works.take k)).HasRegistration id registration) →
      w.dataset.registration = registration) (n : Nat) :
    (s.offerAll (works.take n)).HasRegistration id registration := by
  -- A copy may be older than the last unit of work, so all stores before count.
  induction n using Nat.strongRecOn with
  | _ n ih =>
    cases n with
    | zero => simpa [Store.offerAll] using h
    | succ n =>
      have hbefore := ih n (Nat.lt_succ_self n)
      cases hn : works[n]? with
      | none => rwa [Store.offerAll_take_succ_of_none hn]
      | some w =>
        rw [Store.offerAll_take_succ hn]
        exact hasRegistration_offer hbefore fun ha hid =>
          hw n w hn ha hid fun k hk => ih k (Nat.lt_succ_of_le hk)

/-- In whatever order the updates of clients reach a store that began empty, each from a copy that
was stored before, the registration of a dataset stays exactly if every update that is stored
started from a copy with that registration, or from one that was not registered and came to the
same. In particular it stays if every copy was taken after the registration. -/
theorem registration_kept_iff {hasSequence : Bool} {works later : List UnitOfWork}
    {id : DatasetId} {d : Dataset} {copies : Nat → Dataset} {taken : Nat → Nat}
    (hd : ((Store.empty hasSequence).offerAll works).findDataset? id = some d)
    (htime : d.globalIdCreateTime.isSome = true)
    (hlater : ∀ n w, later[n]? = some w → w.dataset.id = id → taken n ≤ works.length + n ∧
      BroughtFrom (.empty hasSequence) (works ++ later) (taken n) (copies n) w) :
    ((∀ n, ((Store.empty hasSequence).offerAll (works ++ later.take n)).HasRegistration id
          d.registration) ↔
      ∀ n w, later[n]? = some w →
        ((Store.empty hasSequence).offerAll (works ++ later.take n)).Admits w →
        w.dataset.id = id →
        (copies n).registration = d.registration ∨
          (copies n).globalIdCreateTime = none ∧ w.dataset.registration = d.registration) ∧
    ((∀ n w, later[n]? = some w → w.dataset.id = id → works.length ≤ taken n) →
      ∀ n, ((Store.empty hasSequence).offerAll (works ++ later.take n)).HasRegistration id
        d.registration) := by
  have hstart : ((Store.empty hasSequence).offerAll works).HasRegistration id d.registration :=
    ⟨d, hd, rfl⟩
  have hkeeps {n : Nat} {w : UnitOfWork} (hn : later[n]? = some w) (hid : w.dataset.id = id)
      (hcopy : (copies n).registration = d.registration) :
      w.dataset.registration = d.registration := by
    have hregistered : (copies n).globalIdCreateTime.isSome = true := by
      rw [show (copies n).globalIdCreateTime = _ from congrArg Prod.snd hcopy]
      exact htime
    exact ((hlater n w hn hid).2.brought.registration hregistered).trans hcopy
  simp only [Store.offerAll_append]
  refine ⟨⟨fun hkept n w hn ha hid => ?_, fun hw => ?_⟩, fun hafter => ?_⟩
  · obtain ⟨e, he, hreg⟩ := hkept (n + 1)
    rw [Store.offerAll_take_succ hn, Store.offer_of_admits ha, Store.findDataset?_applyWork,
      if_pos hid.symm] at he
    cases he
    cases hcopy : (copies n).globalIdCreateTime with
    | none => exact Or.inr ⟨rfl, hreg⟩
    | some time =>
      have hsame := (hlater n w hn hid).2.brought.registration (by rw [hcopy]; rfl)
      exact Or.inl (hsame.symm.trans hreg)
  · refine hasRegistration_offerAll hstart fun n w hn ha hid _ => ?_
    rcases hw n w hn ha hid with hcopy | ⟨-, hsame⟩
    · exact hkeeps hn hid hcopy
    · exact hsame
  · refine hasRegistration_offerAll hstart fun n w hn _ hid hbefore => ?_
    obtain ⟨hearlier, hfrom⟩ := hlater n w hn hid
    -- The copy was stored after some of the later units of work, when the registration stood.
    obtain ⟨e, he, hreg⟩ := hbefore (taken n - works.length) (by omega)
    have hstored := hfrom.stored
    rw [List.take_append, List.take_of_length_le (hafter n w hn hid), Store.offerAll_append, hid,
      he] at hstored
    cases hstored
    exact hkeeps hn hid hreg

/-! ### A copy from before the registration -/

/-- A request to save a dataset as it is. -/
def savingRequest (d : Dataset) : UpdateRequest :=
  ⟨.authenticated (.new ⟨⟨2⟩⟩ "curator" "curator@example.org" true), d, [], none, false⟩

def registeredDraft : Dataset :=
  { titledDraft with
    globalId := some ⟨"doi", "10.5072", "FK2/A"⟩
    globalIdCreateTime := some .epoch
    identifierRegistered := true }

def storing (d : Dataset) : World := ((commit (.merge d)).run plainSurroundings emptyWorld).2

theorem registration_kept_when_read_after :
    ∃ w, Brought registeredDraft w ∧ w.dataset.id = registeredDraft.id ∧
      ((Store.empty true).offerAll [.merge registeredDraft]).Admits w ∧
      ∀ n, ((Store.empty true).offerAll ([.merge registeredDraft] ++ [w].take n)).HasRegistration
        registeredDraft.id registeredDraft.registration := by
  have hok : ((update (savingRequest registeredDraft)).run plainSurroundings
      (storing registeredDraft)).1.toOption.any (fun o => o.dataset.id == registeredDraft.id) =
      true := by decide +kernel
  have hstored : (storing registeredDraft).store =
      (Store.empty true).offerAll [.merge registeredDraft] := rfl
  have hd : ((Store.empty true).offerAll [.merge registeredDraft]).findDataset?
      registeredDraft.id = some registeredDraft := rfl
  cases hrun : (update (savingRequest registeredDraft)).run plainSurroundings
      (storing registeredDraft) with
  | mk result v =>
    rw [hrun] at hok
    cases result with
    | error e => cases hok
    | ok o =>
      obtain ⟨w, hbrought, hw, hadmits, -⟩ := brought_of_update hrun
      have hid : w.dataset.id = registeredDraft.id := by
        rw [hw]
        exact eq_of_beq hok
      have hlater (n : Nat) (u : UnitOfWork) (hn : [w][n]? = some u)
          (_ : u.dataset.id = registeredDraft.id) :
          1 ≤ [UnitOfWork.merge registeredDraft].length + n ∧
            BroughtFrom (.empty true) ([.merge registeredDraft] ++ [w]) 1 registeredDraft u := by
        obtain rfl : u = w := by
          cases n with
          | zero => exact (Option.some.inj hn).symm
          | succ n => cases hn
        refine ⟨Nat.le_add_right 1 n, hbrought, ?_⟩
        rw [hid]
        exact hd
      exact ⟨w, hbrought, hid, hstored ▸ hadmits,
        (registration_kept_iff hd rfl hlater).2 fun _ _ _ _ => Nat.le_refl 1⟩

/-- A second update from a copy that was read before the first one registers the dataset again,
under another identifier. -/
theorem registration_lost_to_stale_copy :
    let first := ((update (savingRequest titledDraft)).run plainSurroundings
      (storing titledDraft)).2
    let second := ((update (savingRequest titledDraft)).run plainSurroundings first).2
    (storing titledDraft).store.findDataset? titledDraft.id = some titledDraft ∧
      ∃ d e, first.store.findDataset? titledDraft.id = some d ∧
        d.globalIdCreateTime.isSome = true ∧
        second.store.findDataset? titledDraft.id = some e ∧ e.globalId ≠ d.globalId := by
  intro first second
  have hfirst : (first.store.findDataset? titledDraft.id).any
      (fun d => d.globalIdCreateTime.isSome) = true := by decide +kernel
  have hsecond : (second.store.findDataset? titledDraft.id).isSome = true := by decide +kernel
  have hother : (second.store.findDataset? titledDraft.id).map (·.globalId) ≠
      (first.store.findDataset? titledDraft.id).map (·.globalId) := by decide +kernel
  obtain ⟨d, hd, htime⟩ := (Option.any_eq_true _ _).mp hfirst
  obtain ⟨e, he⟩ := Option.isSome_iff_exists.mp hsecond
  refine ⟨rfl, d, e, hd, htime, he, fun hsame => hother ?_⟩
  rw [hd, he, Option.map_some, Option.map_some, hsame]

end Repository

end Depository
