import Depository.Proofs.Repository.Refusal
import Depository.Proofs.Text.Numerals
import Mathlib.Data.List.Nodup

/-!
# Local parts that are drawn

Identifiers that extend no other one have a random local part or the next number of the sequence.
Every candidate uses up what it draws, whether it turns out to be free or not, so that what is made
up later comes from a later draw.
-/

namespace Depository

namespace Repository

open Depository.Action

variable {s : Surroundings} {w v : World}

/-! ### Who draws -/

/-- From one world to another calls were made, but the store has at most given out numbers, and
local parts were at most taken from their supply. -/
structure Drawing (w v : World) : Prop where
  numbering : StoreEffect.numbering.allows w.store v.store
  log_extended : w.log <+: v.log
  stream_eq : v.localParts.stream = w.localParts.stream
  taken_le : w.localParts.taken ≤ v.localParts.taken

namespace Drawing

theorem refl (w : World) : Drawing w w :=
  ⟨StoreEffect.refl _ _, List.prefix_refl _, rfl, Nat.le_refl _⟩

theorem trans {u : World} (h : Drawing w u) (h' : Drawing u v) : Drawing w v :=
  ⟨StoreEffect.numbering.trans h.numbering h'.numbering, h.log_extended.trans h'.log_extended,
    h'.stream_eq.trans h.stream_eq, Nat.le_trans h.taken_le h'.taken_le⟩

theorem record (w : World) (e : Event) : Drawing w (w.record e) :=
  ⟨StoreEffect.refl _ _, List.prefix_append _ _, rfl, Nat.le_refl _⟩

end Drawing

section

variable {α β : Type}

/-- Every run at most draws. -/
def Draws (x : Action α) : Prop := ∀ s w, Drawing w (x.run s w).2

theorem Draws.drawing {x : Action α} {result : Except Failure α} (h : Draws x)
    (hrun : x.run s w = (result, v)) : Drawing w v := by
  have hdrawing := h s w
  rwa [hrun] at hdrawing

theorem Draws.bind {x : Action α} {f : α → Action β} (hx : Draws x) (hf : ∀ a, Draws (f a)) :
    Draws (x >>= f) := by
  intro s w
  cases hrun : x.run s w with
  | mk result v =>
    have hfirst := hx.drawing hrun
    cases result with
    | error e =>
      rw [run_bind_of_error hrun]
      exact hfirst
    | ok a =>
      rw [run_bind_of_ok hrun]
      exact hfirst.trans (hf a s v)

theorem draws_callStore {call : StoreCall} {op : Store → Except StoreFailure α × Store}
    (hop : ∀ t, StoreEffect.numbering.allows t (op t).2) : Draws (callStore call op) := by
  intro s w
  show Drawing w ((callStore call op) s w).2
  unfold callStore
  split
  · exact .record w _
  · exact ⟨hop w.store, List.prefix_append _ _, rfl, Nat.le_refl _⟩

theorem draws_askStore (call : StoreCall) (question : Store → α) :
    Draws (askStore call question) :=
  draws_callStore StoreEffect.numbering.refl

end

theorem registering_draws : RegisteringProperty Draws where
  pure _ _ w := .refl w
  fail _ _ w := .refl w
  surroundings _ w := .refl w
  now _ _ := ⟨StoreEffect.refl _ _, List.prefix_refl _, rfl, Nat.le_refl _⟩
  bind := Draws.bind
  outcome hx := hx
  freshLocalPart _ w :=
    ⟨StoreEffect.refl _ _, List.prefix_refl _, rfl, Nat.le_add_right w.localParts.taken 1⟩
  nextSequence := draws_callStore StoreEffect.numbering_nextSequence
  isLocallyUnique g s w :=
    (Drawing.record w (.candidate g)).trans (draws_askStore _ _ s (w.record (.candidate g)))
  submit _ _ w := .record w _

/-! ### What is drawn -/

/-- How many local parts were drawn before, or which number was drawn last. -/
def drawn (style : IdentifierStyle) (w : World) : Int :=
  match style with
  | .randomString => w.localParts.taken
  | .sequence => w.store.identifierSequence

/-- The local part that a draw after so many others gives. -/
def drawnText (style : IdentifierStyle) (w : World) (n : Int) : String :=
  match style with
  | .randomString => localText (w.localParts.stream n.toNat)
  | .sequence => toString (n + 1)

/-- The identifier that a draw after so many others gives. -/
def drawnIdentifier (settings : IdentifierSettings) (origin : String × String) (w : World)
    (n : Int) : GlobalId :=
  ⟨origin.1, origin.2, settings.shoulder ++ drawnText settings.identifierStyle w n⟩

namespace Drawing

private theorem drawn_le (h : Drawing w v) (style : IdentifierStyle) :
    drawn style w ≤ drawn style v := by
  cases style with
  | randomString => exact Int.ofNat_le.mpr h.taken_le
  | sequence => exact h.numbering.2

private theorem drawnText_eq (h : Drawing w v) (style : IdentifierStyle) (n : Int) :
    drawnText style v n = drawnText style w n := by
  cases style with
  | randomString => simp only [drawnText, h.stream_eq]
  | sequence => rfl

theorem drawnIdentifier_eq (h : Drawing w v) (settings : IdentifierSettings)
    (origin : String × String) (n : Int) :
    drawnIdentifier settings origin v n = drawnIdentifier settings origin w n := by
  unfold drawnIdentifier
  rw [h.drawnText_eq]

end Drawing

theorem of_run_nextLocal {style : IdentifierStyle} {text : String}
    (h : (nextLocal style).run s w = (.ok text, v)) :
    text = drawnText style w (drawn style w) ∧ drawn style w < drawn style v := by
  cases style with
  | randomString =>
    cases h
    refine ⟨?_, ?_⟩
    · simp [drawn, drawnText, Supply.next, Supply.ahead]
    · show (w.localParts.taken : Int) < (w.localParts.taken + 1 : Nat)
      omega
  | sequence =>
    obtain ⟨n, u, hnext, h⟩ := of_run_bind_ok h
    rcases run_changeStore .nextSequence (fun store => .ok store.nextSequence) s w with
      ⟨e, failed, hfailed⟩ | ⟨a, t, ht, hrun⟩
    · cases hnext.symm.trans hfailed
    · cases hnext.symm.trans hrun
      cases n with
      | none => cases h
      | some n =>
        cases h
        unfold Store.nextSequence at ht
        split at ht
        · cases ht
          exact ⟨rfl, Int.lt_succ w.store.identifierSequence⟩
        · cases ht

theorem of_run_candidate {protocol authority : String} {g : GlobalId}
    (h : (candidate protocol authority).run s w = (.ok g, v)) :
    g = drawnIdentifier s.identifiers (protocol, authority) w
        (drawn s.identifiers.identifierStyle w) ∧
      drawn s.identifiers.identifierStyle w < drawn s.identifiers.identifierStyle v := by
  unfold candidate at h
  rw [run_bind_of_ok (x := surroundings) rfl] at h
  obtain ⟨text, u, hnext, h⟩ := of_run_bind_ok h
  obtain ⟨rfl, hlt⟩ := of_run_nextLocal hnext
  unfold GlobalId.ofParts at h
  split at h
  · next id hid =>
    cases h
    dsimp only at hid
    split at hid
    · cases hid
    · cases hid
      exact ⟨rfl, hlt⟩
  · cases h

/-- What is found unused comes from one of the draws that were made for it. -/
theorem of_run_firstUnused {protocol authority : String} {tries : Nat} {g : GlobalId}
    (h : (firstUnused (candidate protocol authority) tries).run s w = (.ok (some g), v)) :
    ∃ n, drawn s.identifiers.identifierStyle w ≤ n ∧
      n < drawn s.identifiers.identifierStyle v ∧
      g = drawnIdentifier s.identifiers (protocol, authority) w n := by
  induction tries generalizing w with
  | zero => cases h
  | succ tries ih =>
    obtain ⟨c, u, hcandidate, h⟩ := of_run_bind_ok h
    obtain ⟨unused, u', hask, h⟩ := of_run_bind_ok h
    have hdrawing := (registering_draws.candidate _ _).drawing hcandidate
    have hasked := (registering_draws.isLocallyUnique c).drawing hask
    obtain ⟨hc, hlt⟩ := of_run_candidate hcandidate
    cases unused with
    | true =>
      cases h
      exact ⟨_, Int.le_refl _, Int.lt_of_lt_of_le hlt (hasked.drawn_le _), hc⟩
    | false =>
      obtain ⟨n, hle, hn, hg⟩ := ih h
      have hboth := hdrawing.trans hasked
      rw [hboth.drawnIdentifier_eq] at hg
      exact ⟨n, Int.le_trans (hboth.drawn_le _) hle, hn, hg⟩

/-- The protocol and the authority of what is made up. -/
def origin (settings : IdentifierSettings) (existing : Option GlobalId) : String × String :=
  match existing with
  | some id => (id.protocol, id.authority)
  | none => (settings.protocol, settings.authority)

/-- What is made up comes from one of the draws that were made for it. -/
theorem of_run_generate {existing : Option GlobalId} {g : GlobalId}
    (h : (generate existing).run s w = (.ok g, v)) :
    ∃ n, drawn s.identifiers.identifierStyle w ≤ n ∧
      n < drawn s.identifiers.identifierStyle v ∧
      g = drawnIdentifier s.identifiers (origin s.identifiers existing) w n := by
  unfold generate at h
  rw [run_bind_of_ok (x := surroundings) rfl] at h
  obtain ⟨found, u, hfirst, h⟩ := of_run_bind_ok h
  cases found with
  | none => cases h
  | some g' =>
    cases h
    exact of_run_firstUnused hfirst

/-! ### Later draws -/

/-- Some of the draws between two worlds, in their order. -/
structure Lots (style : IdentifierStyle) (w v : World) (lots : List Int) : Prop where
  increasing : lots.Pairwise (· < ·)
  inside : ∀ n ∈ lots, drawn style w ≤ n ∧ n < drawn style v

namespace Lots

variable {style : IdentifierStyle} {u : World} {lots later : List Int}

theorem nil : Lots style w v [] := ⟨.nil, by simp⟩

theorem single {n : Int} (hle : drawn style w ≤ n) (hlt : n < drawn style v) :
    Lots style w v [n] :=
  ⟨List.pairwise_singleton _ _, by simpa using ⟨hle, hlt⟩⟩

theorem widen {w' v' : World} (h : Lots style w v lots) (hbefore : Drawing w' w)
    (hafter : Drawing v v') : Lots style w' v' lots where
  increasing := h.increasing
  inside n hn :=
    ⟨Int.le_trans (hbefore.drawn_le style) (h.inside n hn).1,
      Int.lt_of_lt_of_le (h.inside n hn).2 (hafter.drawn_le style)⟩

theorem append (h : Lots style w u lots) (h' : Lots style u v later) (hwu : Drawing w u)
    (huv : Drawing u v) : Lots style w v (lots ++ later) where
  increasing := by
    refine List.pairwise_append.mpr ⟨h.increasing, h'.increasing, ?_⟩
    intro m hm n hn
    exact Int.lt_of_lt_of_le (h.inside m hm).2 (h'.inside n hn).1
  inside n hn := by
    rcases List.mem_append.mp hn with hn | hn
    · exact (h.widen (.refl w) huv).inside n hn
    · exact (h'.widen hwu (.refl v)).inside n hn

end Lots

/-! ### Different draws -/

theorem localText_injective {p q : LocalPart} (h : localText p = localText q) : p = q := by
  have hdistinct : localAlphabet.Nodup := by decide
  have hchars := String.ofList_injective h
  refine Vector.toList_inj.mp (List.map_injective_iff.mpr ?_ hchars)
  intro i j hij
  exact Fin.ext (Fin.mk.inj (hdistinct.injective_get hij))

private theorem drawnText_of_drawnIdentifier {settings : IdentifierSettings}
    {origin : String × String}
    {m n : Int} (h : drawnIdentifier settings origin w m = drawnIdentifier settings origin w n) :
    drawnText settings.identifierStyle w m = drawnText settings.identifierStyle w n := by
  exact (String.append_right_inj settings.shoulder).mp (congrArg GlobalId.identifier h)

/-- Numbers of the sequence give different identifiers. -/
private theorem drawnIdentifier_injective {settings : IdentifierSettings} {origin : String × String}
    (hstyle : settings.identifierStyle = .sequence) {m n : Int}
    (h : drawnIdentifier settings origin w m = drawnIdentifier settings origin w n) : m = n := by
  have htext := drawnText_of_drawnIdentifier h
  rw [hstyle] at htext
  have hsame : m + 1 = n + 1 := Text.toString_int_injective htext
  omega

/-- Identifiers are apart if they have different numbers, or random local parts that differ. -/
theorem Lots.nodup {settings : IdentifierSettings} {lots : List Int}
    (h : Lots settings.identifierStyle w v lots)
    (hapart : settings.identifierStyle = .sequence ∨
      ∀ m n, drawn settings.identifierStyle w ≤ m → m < n →
        n < drawn settings.identifierStyle v →
        drawnText settings.identifierStyle w m ≠ drawnText settings.identifierStyle w n)
    (origin : String × String) : (lots.map (drawnIdentifier settings origin w)).Nodup := by
  apply List.pairwise_map.mpr
  apply h.increasing.imp_of_mem
  intro m n hm hn hlt hsame
  rcases hapart with hstyle | hdiffer
  · exact Int.ne_of_lt hlt (drawnIdentifier_injective hstyle hsame)
  · exact hdiffer m n (h.inside m hm).1 hlt (h.inside n hn).2 (drawnText_of_drawnIdentifier hsame)

end Repository

end Depository
