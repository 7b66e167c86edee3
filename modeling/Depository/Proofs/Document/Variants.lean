import Depository.Json.Record
import Depository.Text.Ascii
import Mathlib.Data.List.Forall2

/-!
# Documents that say the same

A document is not always handed back as it was written. Members that are null may be missing, members
may come in another order and with others among them, and the names of kinds of notification may be
in any case of their letters. What is read of a record is put together from what is read of its
members, so a reader gives the value that was written for each of these documents if its readers of
the members do.
-/

namespace Depository

namespace Json

/-- The members that hold names of kinds of notification. -/
def kindMembers : List String := ["muted_emails", "muted_notifications", "notification_type"]

/-- Names in any case of their letters. -/
inductive Recased : Json → Json → Prop where
  | same (j : Json) : Recased j j
  | name {s s' : String} (h : Text.sameIgnoringCase s s' = true) : Recased (.str s) (.str s')
  | names {items items' : List Json} (h : List.Forall₂ Recased items items') :
      Recased (.arr items) (.arr items')

/-- Documents that say the same as the one that was written. -/
inductive Variant : Json → Json → Prop where
  | same (j : Json) : Variant j j
  | items {items items' : List Json} (h : List.Forall₂ Variant items items') :
      Variant (.arr items) (.arr items')
  | members {ms ms' : List (String × Json)} (hnames : (ms'.map (·.1)).Nodup)
      (hmissing : ∀ m ∈ ms, ms'.lookup m.1 = none → m.2 = .null)
      (hkinds : ∀ m ∈ ms, ∀ v, m.1 ∈ kindMembers → ms'.lookup m.1 = some v → Recased m.2 v)
      (hothers : ∀ m ∈ ms, ∀ v, m.1 ∉ kindMembers → ms'.lookup m.1 = some v → Variant m.2 v) :
      Variant (.obj ms) (.obj ms')

private theorem Variant.eq_null_iff {j j' : Json} (h : Variant j j') : j' = .null ↔ j = .null := by
  cases h with
  | same => rfl
  | items => simp
  | members => simp

variable {α β : Type} {R : Json → Json → Prop} {read : Json → Option α} {a : α}

/-- A document that is not null is read as a value, and so is each that stands for it. -/
def ReadsAs (R : Json → Json → Prop) (read : Json → Option α) (j : Json) (a : α) : Prop :=
  j ≠ .null ∧ ∀ j', R j j' → read j' = some a

/-! ### Scalars and lists -/

theorem readsAs_str {s : String} (h : read (.str s) = some a) : ReadsAs Variant read (.str s) a := by
  refine ⟨nofun, fun j' hj' => ?_⟩
  cases hj'
  exact h

theorem readsAs_text (s : String) : ReadsAs Variant asText? (.str s) s := readsAs_str rfl

theorem readsAs_bool (b : Bool) : ReadsAs Variant asBool? (.bool b) b := by
  refine ⟨nofun, fun j' hj' => ?_⟩
  cases hj'
  rfl

theorem readsAs_int {n : Int} (h : read (.int n) = some a) : ReadsAs Variant read (.int n) a := by
  refine ⟨nofun, fun j' hj' => ?_⟩
  cases hj'
  exact h

private theorem mapM_of_forall₂ {write : α → Json} {as : List α} {items : List Json}
    (h : ∀ a ∈ as, ReadsAs R read (write a) a) (hitems : List.Forall₂ R (as.map write) items) :
    items.mapM read = some as := by
  induction as generalizing items with
  | nil =>
    cases hitems
    rfl
  | cons a rest ih =>
    cases hitems with
    | cons hitem hitems =>
      have hfirst := (h a List.mem_cons_self).2 _ hitem
      have hrest := ih (fun b hb => h b (List.mem_cons_of_mem a hb)) hitems
      simp [List.mapM_cons, hfirst, hrest]

theorem readsAs_list {write : α → Json} {as : List α}
    (h : ∀ a ∈ as, ReadsAs Variant read (write a) a) :
    ReadsAs Variant (asList? read) (ofList write as) as := by
  refine ⟨nofun, fun j' hj' => ?_⟩
  cases hj' with
  | same => exact mapM_of_forall₂ h (List.forall₂_same.mpr fun j _ => .same j)
  | items hitems => exact mapM_of_forall₂ h hitems

theorem readsAs_texts (texts : List String) :
    ReadsAs Variant (asList? asText?) (ofTexts texts) texts :=
  readsAs_list fun s _ => readsAs_text s

theorem readsAs_recased_list {write : α → Json} {as : List α}
    (h : ∀ a ∈ as, ReadsAs Recased read (write a) a) :
    ReadsAs Recased (asList? read) (ofList write as) as := by
  refine ⟨nofun, fun j' hj' => ?_⟩
  cases hj' with
  | same => exact mapM_of_forall₂ h (List.forall₂_same.mpr fun j _ => .same j)
  | names hitems => exact mapM_of_forall₂ h hitems

/-! ### Records -/

/-- The members of a document that says the same as one with the given members. -/
structure Faithful (ms ms' : List (String × Json)) : Prop where
  missing : ∀ name v, ms.lookup name = some v → ms'.lookup name = none → v = .null
  kinds : ∀ name v v', name ∈ kindMembers → ms.lookup name = some v →
    ms'.lookup name = some v' → Recased v v'
  others : ∀ name v v', name ∉ kindMembers → ms.lookup name = some v →
    ms'.lookup name = some v' → Variant v v'

theorem readsAs_record {ms : List (String × Json)} {fields : Nat} {next : Record → Option α}
    (h : ∀ ms', Faithful ms ms' → next (.named ms') = some a) :
    ReadsAs Variant (fun j => asRecord? fields j >>= next) (.obj ms) a := by
  refine ⟨nofun, fun j' hj' => ?_⟩
  cases hj' with
  | same =>
    refine h ms ⟨fun name v hv hnone => ?_, fun name v v' _ hv hv' => ?_,
      fun name v v' _ hv hv' => ?_⟩
    · cases hv.symm.trans hnone
    · cases hv.symm.trans hv'
      exact .same v
    · cases hv.symm.trans hv'
      exact .same v
  | @members _ ms' _ hmissing hkinds hothers =>
    have hmem {name : String} {v : Json} (hv : ms.lookup name = some v) : (name, v) ∈ ms := by
      obtain ⟨before, after, rfl, -⟩ := List.lookup_eq_some_iff.mp hv
      exact List.mem_append_right before List.mem_cons_self
    exact h ms' ⟨fun name v hv => hmissing _ (hmem hv),
      fun name v v' hname hv => hkinds _ (hmem hv) v' hname,
      fun name v v' hname hv => hothers _ (hmem hv) v' hname⟩

namespace Faithful

variable {ms ms' : List (String × Json)} {v : Json} {name : String} {place : Nat}
  {f : α → Option β} {b : β}

/-- A member that is not null is there. -/
private theorem exists_lookup (h : Faithful ms ms') (hv : ms.lookup name = some v)
    (hnull : v ≠ .null) :
    ∃ v', ms'.lookup name = some v' := by
  cases hv' : ms'.lookup name with
  | none => exact absurd (h.missing name v hv hv') hnull
  | some v' => exact ⟨v', rfl⟩

private theorem required_of_related (h : Faithful ms ms') (hv : ms.lookup name = some v)
    (hrelated : ∀ v', ms'.lookup name = some v' → R v v') (hread : ReadsAs R read v a)
    (hrest : f a = some b) : ((Record.named ms').required read place name >>= f) = some b := by
  obtain ⟨v', hv'⟩ := h.exists_lookup hv hread.1
  have hvalue : read v' = some a := hread.2 v' (hrelated v' hv')
  simpa [Record.required, Record.value?, hv', hvalue] using hrest

theorem required (h : Faithful ms ms') (hv : ms.lookup name = some v) (hname : name ∉ kindMembers)
    (hread : ReadsAs Variant read v a) (hrest : f a = some b) :
    ((Record.named ms').required read place name >>= f) = some b :=
  h.required_of_related hv (fun v' => h.others name v v' hname hv) hread hrest

/-- A member that holds names of kinds. -/
theorem requiredKinds (h : Faithful ms ms') (hv : ms.lookup name = some v)
    (hname : name ∈ kindMembers) (hread : ReadsAs Recased read v a) (hrest : f a = some b) :
    ((Record.named ms').required read place name >>= f) = some b :=
  h.required_of_related hv (fun v' => h.kinds name v v' hname hv) hread hrest

/-- A member that may be null or missing. -/
theorem optional {write : α → Json} {o : Option α} {f : Option α → Option β}
    (h : Faithful ms ms') (hv : ms.lookup name = some (ofOption write o))
    (hname : name ∉ kindMembers) (hread : ∀ a ∈ o, ReadsAs Variant read (write a) a)
    (hrest : f o = some b) :
    ((Record.named ms').optional read place name >>= f) = some b := by
  cases o with
  | none =>
    cases hv' : ms'.lookup name with
    | none => simpa [Record.optional, Record.value?, hv'] using hrest
    | some v' =>
      have hnull : v' = .null := (h.others name _ v' hname hv hv').eq_null_iff.mpr rfl
      simpa [Record.optional, Record.value?, hv', hnull] using hrest
  | some a =>
    have hreads := hread a rfl
    obtain ⟨v', hv'⟩ := h.exists_lookup hv hreads.1
    have hvariant := h.others name _ v' hname hv hv'
    have hnull : v' ≠ .null := mt hvariant.eq_null_iff.mp hreads.1
    simpa [Record.optional, Record.value?, hv', hreads.2 v' hvariant, hnull] using hrest

theorem optionalText {o : Option String} {f : Option String → Option β} (h : Faithful ms ms')
    (hv : ms.lookup name = some (ofText? o)) (hname : name ∉ kindMembers) (hrest : f o = some b) :
    ((Record.named ms').optional asText? place name >>= f) = some b := by
  have hwritten : ofText? o = ofOption .str o := by cases o <;> rfl
  rw [hwritten] at hv
  exact h.optional hv hname (fun s _ => readsAs_text s) hrest

end Faithful

end Json

end Depository
