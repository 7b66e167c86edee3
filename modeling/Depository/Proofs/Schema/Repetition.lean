import Depository.Proofs.Schema.Repairing

/-!
# Types with several fields

A list may hold several fields of one type. A schema speaks of a type as a whole, but each field is
judged by itself, and only the first field of a type is repaired. Where no type is repeated the
list is judged and repaired as the schema says; in general it is exactly where the fields that
repeat a type do no harm.
-/

namespace Depository.Schema

variable {s : Schema} {t : FieldType} {f : Field} {fields : List Field}

/-! ### What the types ask for -/

/-- The values that are not blank in all fields of a name together. -/
def valuesOf (fields : List Field) (name : String) : List String :=
  (fields.filter fun f => f.typeName == name).flatMap Field.present

/-- The values of a field that are not blank are of the kind that its type says. -/
def Usable (s : Schema) (f : Field) : Prop :=
  ∀ t ∈ s.fields, t.name = f.typeName → ∀ value ∈ f.present, t.kind.accepts value = true

/-- All fields of a type together are as the type says. -/
structure Satisfied (s : Schema) (fields : List Field) : Prop where
  known : ∀ f ∈ fields, ∃ t ∈ s.fields, t.name = f.typeName
  hasValue : ∀ t ∈ s.fields, t.required = true → valuesOf fields t.name ≠ []
  single : ∀ t ∈ s.fields, t.multiple = false → (valuesOf fields t.name).length ≤ 1
  usable : ∀ f ∈ fields, s.Usable f

/-- A field by itself is as its type says. -/
structure SatisfiedBy (s : Schema) (f : Field) : Prop where
  known : ∃ t ∈ s.fields, t.name = f.typeName
  hasValue : ∀ t ∈ s.fields, t.name = f.typeName → t.required = true → f.present ≠ []
  single : ∀ t ∈ s.fields, t.name = f.typeName → t.multiple = false → f.present.length ≤ 1
  usable : s.Usable f

/-- Every field of a required type has a value. -/
def Filled (s : Schema) (fields : List Field) : Prop :=
  ∀ f ∈ fields, ∀ t ∈ s.fields, t.name = f.typeName → t.required = true → f.present ≠ []

/-- The fields of a type that takes a single value have no more than one together. -/
def Gathered (s : Schema) (fields : List Field) : Prop :=
  ∀ t ∈ s.fields, t.multiple = false → (valuesOf fields t.name).length ≤ 1

private theorem present_sublist_valuesOf (hf : f ∈ fields) :
    f.present.Sublist (valuesOf fields f.typeName) := by
  have hmem : f ∈ fields.filter fun g => g.typeName == f.typeName :=
    List.mem_filter.mpr ⟨hf, beq_self_eq_true _⟩
  rw [valuesOf, List.flatMap_def]
  exact List.sublist_flatten_of_mem (List.mem_map_of_mem hmem)

private theorem valuesOf_ne_nil_iff {name : String} :
    valuesOf fields name ≠ [] ↔ ∃ f ∈ fields, f.typeName = name ∧ f.present ≠ [] := by
  simp [valuesOf, List.flatMap_eq_nil_iff]

/-! ### Judged field by field -/

private theorem DistinctNames.eq_of_fieldType? (hs : s.DistinctNames) {name : String}
    (htype : s.fieldType? name = some t) {u : FieldType} (hu : u ∈ s.fields)
    (hname : u.name = name) : u = t := by
  have hsome := hs.fieldType? hu
  rw [hname, htype] at hsome
  exact (Option.some.inj hsome).symm

private theorem typeViolations_eq_nil_iff : typeViolations t f = [] ↔
    (t.required = true → f.present ≠ []) ∧ (t.multiple = false → f.present.length ≤ 1) ∧
      ∀ value ∈ f.present, t.kind.accepts value = true := by
  rw [List.eq_nil_iff_forall_not_mem]
  constructor
  · intro h
    refine ⟨?_, ?_, ?_⟩
    · intro hrequired hnone
      exact h _ (mem_typeViolations.mpr (Or.inl ⟨hrequired, hnone, rfl⟩))
    · intro hsingle
      by_contra hmany
      exact h _ (mem_typeViolations.mpr (Or.inr (Or.inl ⟨hsingle, by omega, rfl⟩)))
    · intro value hvalue
      by_contra haccepts
      rw [Bool.not_eq_true] at haccepts
      exact h _ (mem_typeViolations.mpr (Or.inr (Or.inr ⟨value, hvalue, haccepts, rfl⟩)))
  · rintro ⟨hvalue, hsingle, husable⟩ v hv
    rcases mem_typeViolations.mp hv with ⟨hrequired, hnone, -⟩ | ⟨hmany, hlength, -⟩ |
      ⟨value, hmem, hrefused, -⟩
    · exact hvalue hrequired hnone
    · have := hsingle hmany
      omega
    · rw [husable value hmem] at hrefused
      cases hrefused

private theorem fieldViolations_eq_nil_iff (hs : s.DistinctNames) :
    s.fieldViolations f = [] ↔ s.SatisfiedBy f := by
  unfold fieldViolations
  cases htype : s.fieldType? f.typeName with
  | none =>
    constructor
    · intro h
      cases h
    · intro h
      obtain ⟨t, ht, hname⟩ := h.known
      rw [← hname, hs.fieldType? ht] at htype
      cases htype
  | some t =>
    obtain ⟨ht, hname⟩ := fieldType?_eq_some htype
    have hunique {u : FieldType} (hu : u ∈ s.fields) (huname : u.name = f.typeName) : u = t :=
      hs.eq_of_fieldType? htype hu huname
    show typeViolations t f = [] ↔ _
    rw [typeViolations_eq_nil_iff]
    constructor
    · rintro ⟨hvalue, hsingle, husable⟩
      refine ⟨⟨t, ht, hname⟩, ?_, ?_, ?_⟩
      · intro u hu huname
        rwa [hunique hu huname]
      · intro u hu huname
        rwa [hunique hu huname]
      · intro u hu huname
        rwa [hunique hu huname]
    · intro h
      exact ⟨h.hasValue t ht hname, h.single t ht hname, h.usable t ht hname⟩

/-- What is judged: each field by itself, and whether each required type is named. -/
private theorem validate_eq_nil_iff_each (hs : s.DistinctNames) :
    s.validate fields = [] ↔ (∀ f ∈ fields, s.SatisfiedBy f) ∧
      ∀ t ∈ s.fields, t.required = true → t.name ∈ fields.map (·.typeName) := by
  simp only [validate_eq_nil_iff, fieldViolations_eq_nil_iff hs]

/-- A list without violations has a value for each required type. -/
private theorem satisfied_of_validate (hs : s.DistinctNames) (h : s.validate fields = [])
    (hgathered : s.Gathered fields) : s.Satisfied fields := by
  obtain ⟨heach, hnamed⟩ := (validate_eq_nil_iff_each hs).mp h
  refine ⟨fun f hf => (heach f hf).known, ?_, hgathered, fun f hf => (heach f hf).usable⟩
  intro t ht hrequired
  obtain ⟨f, hf, hname⟩ := List.mem_map.mp (hnamed t ht hrequired)
  exact valuesOf_ne_nil_iff.mpr ⟨f, hf, hname, (heach f hf).hasValue t ht hname.symm hrequired⟩

theorem Satisfied.validate (hs : s.DistinctNames) (h : s.Satisfied fields)
    (hfilled : s.Filled fields) : s.validate fields = [] := by
  rw [validate_eq_nil_iff_each hs]
  constructor
  · intro f hf
    refine ⟨h.known f hf, hfilled f hf, ?_, h.usable f hf⟩
    intro t ht hname hsingle
    have hall := h.single t ht hsingle
    rw [hname] at hall
    exact Nat.le_trans (present_sublist_valuesOf hf).length_le hall
  · intro t ht hrequired
    obtain ⟨f, hf, hname, -⟩ := valuesOf_ne_nil_iff.mp (h.hasValue t ht hrequired)
    exact List.mem_map.mpr ⟨f, hf, hname⟩

/-! ### One field of each type -/

private theorem valuesOf_of_nodup (h : (fields.map (·.typeName)).Nodup) (hf : f ∈ fields) :
    valuesOf fields f.typeName = f.present := by
  have hfilter : (fields.filter fun g => g.typeName == f.typeName) = [f] := by
    induction fields with
    | nil => cases hf
    | cons g rest ih =>
      obtain ⟨hg, hrest⟩ := List.nodup_cons.mp h
      rcases List.mem_cons.mp hf with rfl | hf
      · have hnone : (rest.filter fun g => g.typeName == f.typeName) = [] := by
          rw [List.filter_eq_nil_iff]
          intro k hk hname
          exact hg (List.mem_map.mpr ⟨k, hk, beq_iff_eq.mp hname⟩)
        rw [List.filter_cons, if_pos (beq_self_eq_true _), hnone]
      · have hne : ¬ (g.typeName == f.typeName) = true := by
          intro hname
          exact hg (List.mem_map.mpr ⟨f, hf, (beq_iff_eq.mp hname).symm⟩)
        rw [List.filter_cons, if_neg hne, ih hrest hf]
  rw [valuesOf, hfilter, List.flatMap_singleton]

private theorem gathered_of_nodup (h : (fields.map (·.typeName)).Nodup)
    (heach : ∀ f ∈ fields, s.SatisfiedBy f) : s.Gathered fields := by
  intro t ht hsingle
  by_cases hvalues : valuesOf fields t.name = []
  · simp [hvalues]
  · obtain ⟨f, hf, hname, -⟩ := valuesOf_ne_nil_iff.mp hvalues
    rw [← hname, valuesOf_of_nodup h hf]
    exact (heach f hf).single t ht hname.symm hsingle

private theorem Satisfied.filled_of_nodup (h : s.Satisfied fields)
    (hfields : (fields.map (·.typeName)).Nodup) : s.Filled fields := by
  intro f hf t ht hname hrequired
  have hvalue := h.hasValue t ht hrequired
  rwa [hname, valuesOf_of_nodup hfields hf] at hvalue

/-! ### Judged type by type -/

/-- No violation is found exactly if each field by itself is as its type says and each required
type is named. This is the judgement of the types themselves exactly if a list without violations
has no single-valued type with several values in different fields, and a list that is as its types
say has no blank field of a required type; so it is for lists that repeat no type. -/
theorem validate_judges_types_iff (hs : s.DistinctNames) (fields : List Field) :
    (s.validate fields = [] ↔ (∀ f ∈ fields, s.SatisfiedBy f) ∧
        ∀ t ∈ s.fields, t.required = true → t.name ∈ fields.map (·.typeName)) ∧
      ((s.validate fields = [] ↔ s.Satisfied fields) ↔
        (s.validate fields = [] → s.Gathered fields) ∧
          (s.Satisfied fields → s.Filled fields)) ∧
      ((fields.map (·.typeName)).Nodup → (s.validate fields = [] ↔ s.Satisfied fields)) := by
  have heach : s.validate fields = [] ↔ _ := validate_eq_nil_iff_each hs
  have hexact : (s.validate fields = [] ↔ s.Satisfied fields) ↔
      (s.validate fields = [] → s.Gathered fields) ∧ (s.Satisfied fields → s.Filled fields) := by
    constructor
    · intro h
      refine ⟨fun hvalid => (h.mp hvalid).single, fun hsatisfied f hf => ?_⟩
      exact ((heach.mp (h.mpr hsatisfied)).1 f hf).hasValue
    · rintro ⟨hgathered, hfilled⟩
      exact ⟨fun h => satisfied_of_validate hs h (hgathered h), fun h => h.validate hs (hfilled h)⟩
  refine ⟨heach, hexact, ?_⟩
  intro hfields
  rw [hexact]
  exact ⟨fun h => gathered_of_nodup hfields (heach.mp h).1, fun h => h.filled_of_nodup hfields⟩

/-- Contacts in two fields, where several are allowed. -/
def twoContacts : List Field :=
  [⟨"title", ["Tides"]⟩, ⟨"contact", ["ada@example.org"]⟩, ⟨"language", ["en"]⟩,
   ⟨"contact", ["", "grace@example.org"]⟩]

theorem validate_judges_types_of_contacts :
    coastal.DistinctNames ∧ ¬ (twoContacts.map (·.typeName)).Nodup ∧
      valuesOf twoContacts "contact" = ["ada@example.org", "grace@example.org"] ∧
      coastal.validate twoContacts = [] ∧ coastal.Satisfied twoContacts := by
  have hs : coastal.DistinctNames := by
    unfold DistinctNames
    decide
  have hvalid : coastal.validate twoContacts = [] := by decide +kernel
  have hgathered : coastal.Gathered twoContacts := by
    unfold Gathered
    decide +kernel
  have hfilled : coastal.Filled twoContacts := by
    unfold Filled
    decide +kernel
  have hjudged := (validate_judges_types_iff hs twoContacts).2.1.mpr
    ⟨fun _ => hgathered, fun _ => hfilled⟩
  exact ⟨hs, by decide, by decide +kernel, hvalid, hjudged.mp hvalid⟩

def twoTitles : List Field := [⟨"title", ["Tides"]⟩, ⟨"title", ["Waves"]⟩, ⟨"language", ["en"]⟩]

/-- A title after a blank field for it. -/
def lateTitle : List Field := [⟨"title", [""]⟩, ⟨"title", ["Tides"]⟩, ⟨"language", ["en"]⟩]

/-- The two titles are not found, and the late title is missed. -/
theorem titles_judged_apart :
    coastal.DistinctNames ∧
      (coastal.validate twoTitles = [] ∧ ¬ coastal.Satisfied twoTitles) ∧
      (coastal.validate lateTitle = [missingValue "title"] ∧ coastal.Satisfied lateTitle) ∧
      ¬ ∀ (s : Schema) (fields : List Field), s.DistinctNames →
        (s.validate fields = [] ↔ s.Satisfied fields) := by
  have hs : coastal.DistinctNames := by
    unfold DistinctNames
    decide
  have hvalid : coastal.validate twoTitles = [] := by decide +kernel
  have hmany : ¬ coastal.Satisfied twoTitles := by
    intro h
    have htitles := h.single ⟨"title", .text, true, false⟩ (by decide) rfl
    revert htitles
    decide +kernel
  have hmissed : coastal.validate lateTitle = [missingValue "title"] := by decide +kernel
  have hsatisfied : coastal.Satisfied lateTitle := by
    constructor
    · decide
    · decide +kernel
    · decide +kernel
    · unfold Usable
      decide +kernel
  exact ⟨hs, ⟨hvalid, hmany⟩, ⟨hmissed, hsatisfied⟩, fun h => hmany ((h _ _ hs).mp hvalid)⟩

/-! ### Repaired at the first field -/

/-- A field of the list that comes after another one of its type. -/
def Repeats (fields : List Field) (f : Field) : Prop :=
  ∃ before after, fields = before ++ f :: after ∧ f.typeName ∈ before.map (·.typeName)

private theorem mem_mendFirsts {done : List String} {g : Field} :
    g ∈ s.mendFirsts done fields ↔ ∃ before f after, fields = before ++ f :: after ∧
      g = if f.typeName ∈ done ++ before.map (·.typeName) then f else s.mended f := by
  induction fields generalizing done with
  | nil => simp [mendFirsts]
  | cons k rest ih =>
    rw [mendFirsts, List.mem_cons, ih]
    constructor
    · rintro (rfl | ⟨before, f, after, rfl, rfl⟩)
      · exact ⟨[], k, rest, rfl, by simp⟩
      · exact ⟨k :: before, f, after, rfl, by simp⟩
    · rintro ⟨before, f, after, hsplit, rfl⟩
      cases before with
      | nil =>
        obtain ⟨rfl, rfl⟩ := List.cons.inj hsplit
        exact Or.inl (by simp)
      | cons b before =>
        obtain ⟨rfl, rfl⟩ := List.cons.inj hsplit
        exact Or.inr ⟨before, f, after, rfl, by simp⟩

private theorem Lasting.value_eq_none {v : Violation} (h : s.Lasting v) : v.value = none := by
  cases h <;> rfl

private theorem usable_iff (hs : s.DistinctNames) :
    s.Usable f ↔ ∀ v ∈ s.fieldViolations f, v.value = none := by
  unfold fieldViolations
  cases htype : s.fieldType? f.typeName with
  | none =>
    constructor
    · intro _ v hv
      rw [List.mem_singleton.mp hv]
      rfl
    · intro _ t ht hname
      rw [← hname, hs.fieldType? ht] at htype
      cases htype
  | some t =>
    obtain ⟨ht, hname⟩ := fieldType?_eq_some htype
    constructor
    · intro h v hv
      rcases mem_typeViolations.mp hv with ⟨-, -, rfl⟩ | ⟨-, -, rfl⟩ | ⟨value, hmem, hrefused, -⟩
      · rfl
      · rfl
      · rw [h t ht hname value hmem] at hrefused
        cases hrefused
    · intro h u hu huname value hvalue
      rw [hs.eq_of_fieldType? htype hu huname]
      by_contra hrefused
      rw [Bool.not_eq_true] at hrefused
      have hfound := h _ (mem_typeViolations.mpr (Or.inr (Or.inr ⟨value, hvalue, hrefused, rfl⟩)))
      cases hfound

private theorem usable_iff_validate (hs : s.DistinctNames) :
    (∀ f ∈ fields, s.Usable f) ↔ ∀ v ∈ s.validate fields, v.value = none := by
  simp only [usable_iff hs, validate, List.mem_append, List.mem_flatMap, List.mem_map]
  constructor
  · rintro h v (⟨f, hf, hv⟩ | ⟨t, -, rfl⟩)
    · exact h f hf v hv
    · rfl
  · intro h f hf v hv
    exact h v (Or.inl ⟨f, hf, hv⟩)

/-- What is found in a value after the repair was found in a field that repeats its type. -/
private theorem mem_validate_repaired (hs : s.DistinctNames) {v : Violation} (hv : v.value ≠ none) :
    v ∈ s.validate (s.applyPlaceholders fields (s.validate fields)) ↔
      ∃ f, Repeats fields f ∧ v ∈ s.fieldViolations f := by
  rw [applyPlaceholders_firsts hs]
  simp only [validate, List.mem_append, List.mem_flatMap, List.mem_map]
  constructor
  · rintro (⟨g, hg | ⟨t, ht, rfl⟩, hfound⟩ | ⟨t, -, rfl⟩)
    · obtain ⟨before, f, after, hsplit, rfl⟩ := mem_mendFirsts.mp hg
      split at hfound
      · next hrepeats => exact ⟨f, ⟨before, after, hsplit, hrepeats⟩, hfound⟩
      · -- What lasts in a field that was mended are no values.
        rw [fieldViolations_mended] at hfound
        have hlasting : s.Lasting v := by simpa using (List.mem_filter.mp hfound).2
        exact absurd hlasting.value_eq_none hv
    · rw [fieldViolations_placeholder hs (List.mem_filter.mp ht).1] at hfound
      cases hfound
    · exact absurd rfl hv
  · rintro ⟨f, ⟨before, after, hsplit, hrepeats⟩, hfound⟩
    refine Or.inl ⟨f, Or.inl (mem_mendFirsts.mpr ⟨before, f, after, hsplit, ?_⟩), hfound⟩
    rw [List.nil_append, if_pos hrepeats]

private theorem usable_repaired_iff (hs : s.DistinctNames) :
    (∀ v ∈ s.validate (s.applyPlaceholders fields (s.validate fields)), v.value = none) ↔
      ∀ f, Repeats fields f → s.Usable f := by
  simp only [usable_iff hs]
  constructor
  · intro h f hf v hv
    by_contra hvalue
    exact hvalue (h v ((mem_validate_repaired hs hvalue).mpr ⟨f, hf, hv⟩))
  · intro h v hv
    by_contra hvalue
    obtain ⟨f, hf, hfound⟩ := (mem_validate_repaired hs hvalue).mp hv
    exact hvalue (h f hf v hfound)

private theorem eq_of_judge_lenient {v : Version} {message : String} {violations : List Violation}
    (h : (s.judge true v).1 = some (.validation message violations)) :
    violations = s.validate (s.applyPlaceholders v.fields (s.validate v.fields)) := by
  rw [judge_lenient] at h
  split at h
  · cases h
  · dsimp only at h
    split at h
    · cases h
    · cases h
      rfl

/-- What is found in a value after the lenient way repaired a list was found in a field that comes
after another one of its type. So all that is left is usable, no violation carries a value, and no
version with these fields fails for a value, exactly if every field that repeats a type was usable
before. -/
theorem lenient_values_usable_iff (hs : s.DistinctNames) (fields : List Field) :
    (∀ v : Violation, v.value ≠ none →
      (v ∈ s.validate (s.applyPlaceholders fields (s.validate fields)) ↔
        ∃ f, Repeats fields f ∧ v ∈ s.fieldViolations f)) ∧
      ((∀ f ∈ s.applyPlaceholders fields (s.validate fields), s.Usable f) ↔
        ∀ f, Repeats fields f → s.Usable f) ∧
      ((∀ v ∈ s.validate (s.applyPlaceholders fields (s.validate fields)), v.value = none) ↔
        ∀ f, Repeats fields f → s.Usable f) ∧
      ∀ (v : Version) (message : String) (violations : List Violation), v.fields = fields →
        (s.judge true v).1 = some (.validation message violations) →
          ((∀ x ∈ violations, x.value = none) ↔ ∀ f, Repeats fields f → s.Usable f) := by
  refine ⟨fun v hv => mem_validate_repaired hs hv, ?_, usable_repaired_iff hs, ?_⟩
  · rw [usable_iff_validate hs, usable_repaired_iff hs]
  · rintro v message violations rfl hfailed
    rw [eq_of_judge_lenient hfailed, usable_repaired_iff hs]

/-- A contact that is none before another one, and a year that is none. -/
def badContact : List Field :=
  [⟨"title", ["Tides"]⟩, ⟨"contact", ["nobody"]⟩, ⟨"year", ["2021-13"]⟩,
   ⟨"contact", ["ada@example.org"]⟩, ⟨"language", ["en"]⟩]

theorem lenient_values_usable_of_contacts :
    coastal.DistinctNames ∧ Repeats badContact ⟨"contact", ["ada@example.org"]⟩ ∧
      coastal.applyPlaceholders badContact (coastal.validate badContact) =
        [⟨"title", ["Tides"]⟩, ⟨"contact", ["N/A"]⟩, ⟨"year", ["N/A"]⟩,
         ⟨"contact", ["ada@example.org"]⟩, ⟨"language", ["en"]⟩] ∧
      (∀ f, Repeats badContact f → coastal.Usable f) ∧
      ∀ f ∈ coastal.applyPlaceholders badContact (coastal.validate badContact),
        coastal.Usable f := by
  have hs : coastal.DistinctNames := by
    unfold DistinctNames
    decide
  have hrepaired : coastal.applyPlaceholders badContact (coastal.validate badContact) =
      [⟨"title", ["Tides"]⟩, ⟨"contact", ["N/A"]⟩, ⟨"year", ["N/A"]⟩,
       ⟨"contact", ["ada@example.org"]⟩, ⟨"language", ["en"]⟩] := by decide +kernel
  have hvalid : coastal.validate
      (coastal.applyPlaceholders badContact (coastal.validate badContact)) = [] := by
    decide +kernel
  have hrepeats : Repeats badContact ⟨"contact", ["ada@example.org"]⟩ :=
    ⟨badContact.take 3, [⟨"language", ["en"]⟩], rfl, by decide⟩
  obtain ⟨-, husable, hfound, -⟩ := lenient_values_usable_iff hs badContact
  have hnone := hfound.mp (by simp [hvalid])
  exact ⟨hs, hrepeats, hrepaired, hnone, husable.mpr hnone⟩

/-- A contact that is none after another one. -/
def lateContact : List Field :=
  [⟨"title", ["Tides"]⟩, ⟨"contact", ["ada@example.org"]⟩, ⟨"contact", ["nobody"]⟩,
   ⟨"language", ["en"]⟩]

def lateContactDraft : Version := { Version.draft ⟨⟨2⟩⟩ with fields := lateContact }

/-- The repair looks for the contact in the first field only, so the version is refused for it. -/
theorem late_contact_left :
    coastal.DistinctNames ∧
      coastal.validate lateContact = [unacceptable ⟨"contact", .email, false, true⟩ "nobody"] ∧
      coastal.applyPlaceholders lateContact (coastal.validate lateContact) = lateContact ∧
      ¬ coastal.Usable ⟨"contact", ["nobody"]⟩ ∧
      (coastal.judge true lateContactDraft).1 = some (invalidFields
        [unacceptable ⟨"contact", .email, false, true⟩ "nobody"] " after repair") ∧
      ¬ ∀ (s : Schema) (fields : List Field), s.DistinctNames →
        (∀ f ∈ s.applyPlaceholders fields (s.validate fields), s.Usable f) ∧
          ∀ v ∈ s.validate (s.applyPlaceholders fields (s.validate fields)), v.value = none := by
  have hs : coastal.DistinctNames := by
    unfold DistinctNames
    decide
  have hfound : coastal.validate lateContact =
      [unacceptable ⟨"contact", .email, false, true⟩ "nobody"] := by decide +kernel
  have hleft : coastal.applyPlaceholders lateContact (coastal.validate lateContact) =
      lateContact := by decide +kernel
  have hunusable : ¬ coastal.Usable ⟨"contact", ["nobody"]⟩ := by
    unfold Usable
    decide +kernel
  have hjudged : (coastal.judge true lateContactDraft).1 = some (invalidFields
      [unacceptable ⟨"contact", .email, false, true⟩ "nobody"] " after repair") := by
    rw [judge_lenient, lateContactDraft, hleft, hfound]
    rfl
  refine ⟨hs, hfound, hleft, hunusable, hjudged, ?_⟩
  intro h
  obtain ⟨husable, -⟩ := h coastal lateContact hs
  rw [hleft] at husable
  exact hunusable (husable _ (by decide))

end Depository.Schema
