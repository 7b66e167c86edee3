import Depository.Schema.Draft
import Mathlib.Data.List.Nodup

/-!
# Fields that are settled

Fields are completed, arranged, judged and perhaps repaired before they are saved, and saved
without blank values. What is saved still satisfies the schema, and going through all of this once
more gives it back as it is.
-/

namespace Depository

/-! ### Tidying -/

private theorem Field.present_tidied (f : Field) : f.tidied.present = f.present := by
  simp [Field.tidied, Field.present, List.filter_filter]

private theorem mem_tidyFields {f : Field} {fields : List Field} :
    f ∈ tidyFields fields ↔ ∃ g ∈ fields, g.present ≠ [] ∧ g.tidied = f := by
  simp only [tidyFields, List.mem_filter, List.mem_map, Bool.not_eq_true', List.isEmpty_eq_false_iff]
  constructor
  · rintro ⟨⟨g, hg, rfl⟩, hvalues⟩
    exact ⟨g, hg, hvalues, rfl⟩
  · rintro ⟨g, hg, hpresent, rfl⟩
    exact ⟨⟨g, hg, rfl⟩, hpresent⟩

private theorem tidyFields_eq (fields : List Field) :
    tidyFields fields = (fields.filter fun f => !f.present.isEmpty).map Field.tidied := by
  unfold tidyFields
  rw [List.filter_map]
  rfl

/-- Tidied fields have values, and no blank ones. -/
def Tidy (fields : List Field) : Prop :=
  ∀ f ∈ fields, f.values ≠ [] ∧ ∀ value ∈ f.values, Text.isBlankText value = false

private theorem tidy_tidyFields (fields : List Field) : Tidy (tidyFields fields) := by
  intro f hf
  obtain ⟨g, -, hpresent, rfl⟩ := mem_tidyFields.mp hf
  refine ⟨hpresent, ?_⟩
  intro value hvalue
  have hfilter : value ∈ g.values.filter fun v => !Text.isBlankText v := hvalue
  simpa using (List.mem_filter.mp hfilter).2

theorem Tidy.tidied {fields : List Field} (h : Tidy fields) {f : Field} (hf : f ∈ fields) :
    f.tidied = f ∧ f.present ≠ [] := by
  obtain ⟨hvalues, hblank⟩ := h f hf
  have hpresent : f.present = f.values := by
    unfold Field.present
    rw [List.filter_eq_self]
    intro value hvalue
    simp [hblank value hvalue]
  refine ⟨?_, by rw [hpresent]; exact hvalues⟩
  unfold Field.tidied
  rw [hpresent]

private theorem names_tidyFields (fields : List Field) :
    ((tidyFields fields).map (·.typeName)).Sublist (fields.map (·.typeName)) := by
  rw [tidyFields_eq, List.map_map]
  exact List.filter_sublist.map _

namespace Schema

/-! ### Validity -/

/-- No two types of a schema have one name. -/
def DistinctNames (s : Schema) : Prop := (s.fields.map (·.name)).Nodup

theorem fieldType?_eq_some {s : Schema} {name : String} {t : FieldType}
    (h : s.fieldType? name = some t) : t ∈ s.fields ∧ t.name = name := by
  refine ⟨List.mem_of_find?_eq_some h, ?_⟩
  simpa using List.find?_some h

theorem DistinctNames.fieldType? {s : Schema} (hs : s.DistinctNames) {t : FieldType}
    (ht : t ∈ s.fields) : s.fieldType? t.name = some t := by
  cases h : s.fieldType? t.name with
  | none =>
    have hnone := List.find?_eq_none.mp h t ht
    simp at hnone
  | some u =>
    obtain ⟨hu, hname⟩ := fieldType?_eq_some h
    rw [List.inj_on_of_nodup_map hs hu ht hname]

theorem hasField_iff {fields : List Field} {name : String} :
    hasField fields name = true ↔ name ∈ fields.map (·.typeName) := by
  simp [hasField]

/-- The fields satisfy a schema if each of them does and every required type has one. -/
theorem validate_eq_nil_iff {s : Schema} {fields : List Field} :
    s.validate fields = [] ↔ (∀ f ∈ fields, s.fieldViolations f = []) ∧
      ∀ t ∈ s.fields, t.required = true → t.name ∈ fields.map (·.typeName) := by
  unfold validate
  rw [List.append_eq_nil_iff, List.flatMap_eq_nil_iff, List.map_eq_nil_iff,
    List.filter_eq_nil_iff]
  simp only [Bool.and_eq_true, Bool.not_eq_true', not_and, Bool.not_eq_false, hasField_iff]

private theorem fieldViolations_tidied (s : Schema) (f : Field) :
    s.fieldViolations f.tidied = s.fieldViolations f := by
  unfold fieldViolations typeViolations
  rw [Field.present_tidied]
  rfl

/-- A required field without violations has a value. -/
private theorem present_ne_nil_of_required {s : Schema} (hs : s.DistinctNames) {t : FieldType}
    (ht : t ∈ s.fields) (hrequired : t.required = true) {f : Field} (hname : f.typeName = t.name)
    (hf : s.fieldViolations f = []) : f.present ≠ [] := by
  intro hnone
  unfold fieldViolations at hf
  rw [hname, hs.fieldType? ht] at hf
  simp [typeViolations, hrequired, hnone] at hf

/-- Blank values are not missed. -/
private theorem validate_tidyFields {s : Schema} (hs : s.DistinctNames) {fields : List Field}
    (h : s.validate fields = []) : s.validate (tidyFields fields) = [] := by
  obtain ⟨hfields, hrequired⟩ := validate_eq_nil_iff.mp h
  rw [validate_eq_nil_iff]
  refine ⟨?_, ?_⟩
  · intro f hf
    obtain ⟨g, hg, -, rfl⟩ := mem_tidyFields.mp hf
    rw [fieldViolations_tidied]
    exact hfields g hg
  · intro t ht hreq
    obtain ⟨g, hg, hname⟩ := List.mem_map.mp (hrequired t ht hreq)
    have hpresent := present_ne_nil_of_required hs ht hreq hname (hfields g hg)
    exact List.mem_map.mpr ⟨g.tidied, mem_tidyFields.mpr ⟨g, hg, hpresent, rfl⟩, hname⟩

/-! ### Completing and arranging -/

private theorem complete_cons (t : FieldType) (rest : List FieldType) (fields : List Field) :
    complete (t :: rest) fields =
      complete rest (if hasField fields t.name then fields else fields ++ [⟨t.name, []⟩]) := rfl

def unfilled (name : String) : Field := ⟨name, []⟩

/-- The names of some types that no field of a list has, each of them once. -/
structure Missing (types : List FieldType) (fields : List Field) (names : List String) :
    Prop where
  nodup : names.Nodup
  mem_iff : ∀ name, name ∈ names ↔ name ∈ types.map (·.name) ∧ name ∉ fields.map (·.typeName)

private theorem Missing.cons_of_mem {t : FieldType} {types : List FieldType} {fields : List Field}
    {names : List String} (h : Missing types fields names) (ht : t.name ∈ fields.map (·.typeName)) :
    Missing (t :: types) fields names := by
  refine ⟨h.nodup, fun name => ?_⟩
  rw [h.mem_iff, List.map_cons, List.mem_cons]
  constructor
  · rintro ⟨htype, hfield⟩
    exact ⟨.inr htype, hfield⟩
  · rintro ⟨rfl | htype, hfield⟩
    · exact absurd ht hfield
    · exact ⟨htype, hfield⟩

private theorem Missing.cons_of_notMem {t : FieldType} {types : List FieldType}
    {fields : List Field}
    {names : List String} (h : Missing types (fields ++ [unfilled t.name]) names)
    (ht : t.name ∉ fields.map (·.typeName)) : Missing (t :: types) fields (t.name :: names) := by
  have hnames : (fields ++ [unfilled t.name]).map (·.typeName) =
      fields.map (·.typeName) ++ [t.name] := by
    rw [List.map_append]
    rfl
  constructor
  · rw [List.nodup_cons, h.mem_iff, hnames]
    exact ⟨fun hmem => hmem.2 (List.mem_append_right _ List.mem_cons_self), h.nodup⟩
  · intro name
    rw [List.mem_cons, h.mem_iff, hnames, List.map_cons, List.mem_cons, List.mem_append,
      List.mem_singleton]
    by_cases hname : name = t.name
    · simp [hname, ht]
    · simp [hname]

/-- Completing adds a field for each name that is missing, behind the given fields. -/
theorem exists_missing (types : List FieldType) (fields : List Field) :
    ∃ names, Missing types fields names ∧
      complete types fields = fields ++ names.map unfilled := by
  induction types generalizing fields with
  | nil => exact ⟨[], ⟨List.nodup_nil, by simp⟩, by simp [complete]⟩
  | cons t rest ih =>
    rw [complete_cons]
    by_cases ht : hasField fields t.name = true
    · obtain ⟨names, hmissing, hcomplete⟩ := ih fields
      rw [if_pos ht]
      exact ⟨names, hmissing.cons_of_mem (hasField_iff.mp ht), hcomplete⟩
    · obtain ⟨names, hmissing, hcomplete⟩ := ih (fields ++ [unfilled t.name])
      rw [if_neg ht]
      rw [hasField_iff] at ht
      refine ⟨t.name :: names, hmissing.cons_of_notMem ht, ?_⟩
      exact hcomplete.trans (List.append_assoc _ _ _)

/-- Completing adds fields without values, for types that had none. -/
private theorem complete_eq (types : List FieldType) (fields : List Field) :
    ∃ added, complete types fields = fields ++ added ∧
      ∀ f ∈ added, ∃ t ∈ types, f = ⟨t.name, []⟩ ∧ t.name ∉ fields.map (·.typeName) := by
  obtain ⟨names, hmissing, hcomplete⟩ := exists_missing types fields
  refine ⟨names.map unfilled, hcomplete, ?_⟩
  intro f hf
  obtain ⟨name, hname, rfl⟩ := List.mem_map.mp hf
  obtain ⟨htype, hfield⟩ := (hmissing.mem_iff name).mp hname
  obtain ⟨t, ht, rfl⟩ := List.mem_map.mp htype
  exact ⟨t, ht, rfl, hfield⟩

/-- After completing, every type has a field. -/
private theorem name_mem_complete {types : List FieldType} {fields : List Field} {t : FieldType}
    (ht : t ∈ types) : t.name ∈ (complete types fields).map (·.typeName) := by
  obtain ⟨names, hmissing, hcomplete⟩ := exists_missing types fields
  rw [hcomplete, List.map_append, List.mem_append]
  by_cases hfield : t.name ∈ fields.map (·.typeName)
  · exact .inl hfield
  · have hname : t.name ∈ names := (hmissing.mem_iff t.name).mpr ⟨List.mem_map_of_mem ht, hfield⟩
    exact .inr (List.mem_map.mpr ⟨unfilled t.name, List.mem_map_of_mem hname, rfl⟩)

/-- Fields in the order of a schema. -/
def Ordered (s : Schema) (fields : List Field) : Prop :=
  fields.Pairwise fun f g => s.rank f.typeName ≤ s.rank g.typeName

private theorem ordered_iff {s : Schema} {fields : List Field} :
    s.Ordered fields ↔ (fields.map (·.typeName)).Pairwise fun a b => s.rank a ≤ s.rank b := by
  unfold Ordered
  rw [List.pairwise_map]

private theorem rank_trans (s : Schema) (f g k : Field)
    (hfg : decide (s.rank f.typeName ≤ s.rank g.typeName) = true)
    (hgk : decide (s.rank g.typeName ≤ s.rank k.typeName) = true) :
    decide (s.rank f.typeName ≤ s.rank k.typeName) = true := by
  simp only [decide_eq_true_eq] at *
  omega

private theorem rank_total (s : Schema) (f g : Field) :
    (decide (s.rank f.typeName ≤ s.rank g.typeName) ||
      decide (s.rank g.typeName ≤ s.rank f.typeName)) = true := by
  simp only [Bool.or_eq_true, decide_eq_true_eq]
  omega

theorem ordered_arrange (s : Schema) (fields : List Field) : s.Ordered (s.arrange fields) := by
  have h := List.pairwise_mergeSort (rank_trans s) (rank_total s) (complete s.fields fields)
  exact h.imp fun hfg => of_decide_eq_true hfg

theorem arrange_perm (s : Schema) (fields : List Field) :
    (s.arrange fields).Perm (complete s.fields fields) := List.mergeSort_perm _ _

/-- Fields that are in order already stay so. -/
theorem sublist_arrange {s : Schema} {fields part : List Field} (hordered : s.Ordered part)
    (hpart : part.Sublist (complete s.fields fields)) : part.Sublist (s.arrange fields) :=
  List.sublist_mergeSort (rank_trans s) (rank_total s)
    (hordered.imp fun hfg => decide_eq_true hfg) hpart

theorem name_mem_arrange {s : Schema} {fields : List Field} {t : FieldType} (ht : t ∈ s.fields) :
    t.name ∈ (s.arrange fields).map (·.typeName) :=
  ((s.arrange_perm fields).map _).mem_iff.mpr (name_mem_complete ht)

/-! ### Repairs -/

private theorem names_updateFirst (name : String) (change : Field → Field)
    (h : ∀ f, (change f).typeName = f.typeName) (fields : List Field) :
    (updateFirst name change fields).map (·.typeName) = fields.map (·.typeName) := by
  induction fields with
  | nil => rfl
  | cons f rest ih =>
    unfold updateFirst
    by_cases hf : f.typeName = name
    · simp [hf, h]
    · simp [hf, ih]

/-- Where every type has a field, a repair changes values only. -/
private theorem names_repair {s : Schema} {fields : List Field}
    (h : ∀ t ∈ s.fields, t.name ∈ fields.map (·.typeName)) (v : Violation) :
    (s.repair fields v).map (·.typeName) = fields.map (·.typeName) := by
  have hblank (f : Field) : (fillBlank f).typeName = f.typeName := by
    unfold fillBlank
    split <;> rfl
  unfold repair
  split
  · rfl
  · next t ht =>
    have hfield := hasField_iff.mpr (h t (fieldType?_eq_some ht).1)
    split
    · next bad _ => exact names_updateFirst t.name (replaceValue bad) (fun _ => rfl) fields
    · rw [if_pos hfield]
      split
      · rfl
      · exact names_updateFirst t.name fillBlank hblank fields

private theorem names_applyPlaceholders {s : Schema} {fields : List Field}
    (h : ∀ t ∈ s.fields, t.name ∈ fields.map (·.typeName)) (violations : List Violation) :
    (s.applyPlaceholders fields violations).map (·.typeName) = fields.map (·.typeName) := by
  unfold applyPlaceholders
  induction violations generalizing fields with
  | nil => rfl
  | cons v rest ih =>
    have hv := names_repair h v
    rw [List.foldl_cons, ih (by rwa [hv]), hv]

/-! ### Judging -/

/-- A version that stands satisfies the schema, as it was or as it was repaired. -/
private theorem of_judge_eq_none {s : Schema} {lenient : Bool} {v judged : Version}
    (h : s.judge lenient v = (none, judged)) :
    s.validate judged.fields = [] ∧ (judged.fields = v.fields ∨
      judged.fields = s.applyPlaceholders v.fields (s.validate v.fields)) := by
  unfold judge at h
  split at h
  · next hvalid =>
    cases h
    exact ⟨hvalid, Or.inl rfl⟩
  · next violations hne =>
    split at h
    · dsimp only at h
      split at h
      · next hvalid =>
        cases h
        exact ⟨hvalid, Or.inr rfl⟩
      · cases h
    · cases h

theorem judge_of_valid {s : Schema} {v : Version} (h : s.validate v.fields = []) (lenient : Bool) :
    s.judge lenient v = (none, v) := by
  unfold judge
  rw [h]

/-- Fields as they are saved: they satisfy the schema, are tidy, and stand in its order. -/
structure Settled (s : Schema) (fields : List Field) : Prop where
  valid : s.validate fields = []
  tidy : Tidy fields
  ordered : s.Ordered fields

/-- What is saved of a version that was arranged and stands is settled. -/
theorem settled_of_judge {s : Schema} (hs : s.DistinctNames) {lenient : Bool}
    {v judged : Version}
    (h : s.judge lenient { v with fields := s.arrange v.fields } = (none, judged)) :
    s.Settled (tidyFields judged.fields) := by
  obtain ⟨hvalid, hfields⟩ := of_judge_eq_none h
  have hnames : judged.fields.map (·.typeName) = (s.arrange v.fields).map (·.typeName) := by
    rcases hfields with hsame | hrepaired
    · rw [hsame]
    · rw [hrepaired]
      exact names_applyPlaceholders (fun t ht => name_mem_arrange ht) _
  have hordered : s.Ordered judged.fields := by
    rw [ordered_iff, hnames, ← ordered_iff]
    exact s.ordered_arrange v.fields
  refine ⟨validate_tidyFields hs hvalid, tidy_tidyFields judged.fields, ?_⟩
  rw [ordered_iff] at hordered ⊢
  exact hordered.sublist (names_tidyFields judged.fields)

/-! ### Once more -/

/-- A field that is added has no violation, since its type is not required. -/
theorem Settled.validate_arrange {s : Schema} (hs : s.DistinctNames) {fields : List Field}
    (h : s.Settled fields) : s.validate (s.arrange fields) = [] := by
  obtain ⟨hfields, hrequired⟩ := validate_eq_nil_iff.mp h.valid
  obtain ⟨added, hcomplete, hadded⟩ := complete_eq s.fields fields
  rw [validate_eq_nil_iff]
  refine ⟨?_, fun t ht _ => name_mem_arrange ht⟩
  intro f hf
  rw [(s.arrange_perm fields).mem_iff, hcomplete, List.mem_append] at hf
  rcases hf with hf | hf
  · exact hfields f hf
  · obtain ⟨t, ht, rfl, hmissing⟩ := hadded f hf
    have hoptional : t.required = false := by
      by_contra hreq
      exact hmissing (hrequired t ht (by simpa using hreq))
    unfold fieldViolations
    rw [hs.fieldType? ht]
    simp [typeViolations, Field.present, hoptional]

/-- The sort keeps settled fields together in their order, and what was added for it goes. -/
theorem Settled.tidyFields_arrange {s : Schema} {fields : List Field} (h : s.Settled fields) :
    tidyFields (s.arrange fields) = fields := by
  obtain ⟨added, hcomplete, hadded⟩ := complete_eq s.fields fields
  have hkept : (fields.filter fun f => !f.present.isEmpty) = fields := by
    rw [List.filter_eq_self]
    intro f hf
    simpa using (h.tidy.tidied hf).2
  have hdropped : (added.filter fun f => !f.present.isEmpty) = [] := by
    rw [List.filter_eq_nil_iff]
    intro f hf
    obtain ⟨t, -, rfl, -⟩ := hadded f hf
    simp [Field.present]
  have hsub : fields.Sublist (s.arrange fields) := by
    apply sublist_arrange h.ordered
    rw [hcomplete]
    exact List.sublist_append_left fields added
  have hfilter : ((s.arrange fields).filter fun f => !f.present.isEmpty) = fields := by
    have hsub' := hsub.filter fun f => !f.present.isEmpty
    rw [hkept] at hsub'
    symm
    apply hsub'.eq_of_length
    rw [((s.arrange_perm fields).filter _).length_eq, hcomplete, List.filter_append, hkept,
      hdropped, List.append_nil]
  have htidied : fields.map Field.tidied = fields := by
    have hsame : fields.map Field.tidied = fields.map id := by
      apply List.map_congr_left
      intro f hf
      exact (h.tidy.tidied hf).1
    rw [hsame, List.map_id]
  rw [tidyFields_eq, hfilter, htidied]

end Schema

end Depository
