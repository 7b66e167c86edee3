import Depository.Proofs.Schema.Mending

/-!
# Fields that are repaired

What the lenient way makes of a list with one field of each type at most. Every value that cannot
be used and every required value that is missing gives way to the placeholder; values that are
accepted stay. Judged again, the list has exactly the violations that no placeholder settles.
-/

namespace Depository.Schema

variable {s : Schema} {t : FieldType} {f : Field} {fields : List Field}

/-! ### Violations that last -/

/-- The violations that no placeholder settles: a type that the schema does not know, and more
than one value where a single one is accepted. -/
inductive Lasting (s : Schema) : Violation → Prop where
  | unknownType {name : String} : s.fieldType? name = none → Lasting s (s.unknownType name)
  | tooManyValues {t : FieldType} {count : Nat} : t ∈ s.fields → t.multiple = false →
      1 < count → Lasting s (tooManyValues t.name count)

private theorem not_lasting_missingValue (name : String) : ¬ s.Lasting (missingValue name) := by
  intro h
  generalize hv : missingValue name = v at h
  have hmessage := congrArg (fun v => v.message.toList.head?) hv
  cases h with
  | unknownType _ => simp [missingValue, Schema.unknownType] at hmessage
  | tooManyValues _ _ _ => simp [missingValue, Schema.tooManyValues] at hmessage

private theorem not_lasting_unacceptable (t : FieldType) (value : String) :
    ¬ s.Lasting (unacceptable t value) := by
  intro h
  generalize hv : unacceptable t value = v at h
  have hvalue := congrArg Violation.value hv
  cases h <;> cases hvalue

open Classical in
/-- Of the violations of a field those stay that last. -/
private theorem typeViolations_mendedAs (ht : t ∈ s.fields) (f : Field) :
    typeViolations t (mendedAs t f) = (typeViolations t f).filter fun v => s.Lasting v := by
  have hvalues : (typeViolations t (mendedAs t f)) =
      if !t.multiple && 1 < f.present.length then
        [Schema.tooManyValues t.name f.present.length] else [] := by
    unfold typeViolations
    rw [present_mendedAs]
    split
    · next hmissing =>
      simp only [Bool.and_eq_true, List.isEmpty_iff] at hmissing
      simp [hmissing.2, FieldKind.accepts_notApplicable]
    · next hmissing =>
      have hbads : ((f.present.map fun v =>
          if t.kind.accepts v = true then v else notApplicable).filter
            fun v => !t.kind.accepts v) = [] := by
        rw [List.filter_eq_nil_iff]
        intro v hv
        obtain ⟨u, -, rfl⟩ := List.mem_map.mp hv
        split
        · next haccepts => simp [haccepts]
        · simp [FieldKind.accepts_notApplicable]
      rw [hbads]
      simp only [List.isEmpty_map, List.length_map, hmissing, Bool.false_eq_true, if_false,
        List.nil_append, List.map_nil, List.append_nil]
  have hmissing : (if t.required && f.present.isEmpty then [missingValue t.name] else []).filter
      (fun v => s.Lasting v) = [] := by
    split
    · simp [not_lasting_missingValue]
    · rfl
  have hcount : (if !t.multiple && 1 < f.present.length then
      [Schema.tooManyValues t.name f.present.length] else []).filter (fun v => s.Lasting v) =
      if !t.multiple && 1 < f.present.length then
        [Schema.tooManyValues t.name f.present.length] else [] := by
    split
    · next hmany =>
      simp only [Bool.and_eq_true, Bool.not_eq_true', decide_eq_true_eq] at hmany
      simp [Lasting.tooManyValues ht hmany.1 hmany.2]
    · rfl
  have hbads : ((f.present.filter fun v => !t.kind.accepts v).map (unacceptable t)).filter
      (fun v => s.Lasting v) = [] := by
    rw [List.filter_eq_nil_iff]
    intro v hv
    obtain ⟨value, -, rfl⟩ := List.mem_map.mp hv
    simp [not_lasting_unacceptable]
  rw [hvalues]
  simp only [typeViolations, List.filter_append, hmissing, hcount, hbads, List.nil_append,
    List.append_nil]

open Classical in
theorem fieldViolations_mended (s : Schema) (f : Field) :
    s.fieldViolations (s.mended f) = (s.fieldViolations f).filter fun v => s.Lasting v := by
  unfold fieldViolations
  rw [typeName_mended]
  unfold mended
  cases htype : s.fieldType? f.typeName with
  | none => simp [Lasting.unknownType htype]
  | some t => exact typeViolations_mendedAs (fieldType?_eq_some htype).1 f

/-! ### Judged again -/

open Classical in
/-- What a repair leaves are the violations that last. -/
private theorem validate_repaired (hs : s.DistinctNames)
    (hfields : (fields.map (·.typeName)).Nodup) :
    s.validate (s.applyPlaceholders fields (s.validate fields)) =
      (s.validate fields).filter fun v => s.Lasting v := by
  have hmended : (fields.map s.mended).flatMap s.fieldViolations =
      (fields.flatMap s.fieldViolations).filter fun v => s.Lasting v := by
    rw [List.flatMap_map, List.filter_flatMap]
    exact List.flatMap_congr fun f _ => fieldViolations_mended s f
  have hadded : ((s.absent fields).map placeholder).flatMap s.fieldViolations = [] := by
    rw [List.flatMap_eq_nil_iff]
    intro f hf
    obtain ⟨t, ht, rfl⟩ := List.mem_map.mp hf
    exact fieldViolations_placeholder hs (List.mem_filter.mp ht).1
  have hnames : (fields.map s.mended).map (·.typeName) = fields.map (·.typeName) := by
    rw [List.map_map]
    exact List.map_congr_left fun f _ => typeName_mended s f
  have hnone : s.absent (fields.map s.mended ++ (s.absent fields).map placeholder) = [] := by
    unfold absent
    rw [List.filter_eq_nil_iff]
    intro t ht
    -- A required type is named by a field that there was, or by one that was added.
    by_cases habsent : t ∈ s.absent fields
    · have hadded : placeholder t ∈ (s.absent fields).map placeholder :=
        List.mem_map_of_mem habsent
      simp only [Bool.and_eq_true, Bool.not_eq_true', not_and, Bool.not_eq_false, hasField_iff]
      intro _
      rw [List.map_append]
      exact List.mem_append_right _ (List.mem_map_of_mem hadded)
    · simp only [absent, List.mem_filter, ht, true_and, Bool.and_eq_true, Bool.not_eq_true',
        not_and, Bool.not_eq_false, hasField_iff] at habsent
      simp only [Bool.and_eq_true, Bool.not_eq_true', not_and, Bool.not_eq_false, hasField_iff]
      intro hrequired
      rw [List.map_append, hnames]
      exact List.mem_append_left _ (habsent hrequired)
  have hmissing : ((s.absent fields).map fun t => missingValue t.name).filter
      (fun v => s.Lasting v) = [] := by
    rw [List.filter_eq_nil_iff]
    intro v hv
    obtain ⟨t, -, rfl⟩ := List.mem_map.mp hv
    simp [not_lasting_missingValue]
  have hvalidate (l : List Field) : s.validate l =
      l.flatMap s.fieldViolations ++ (s.absent l).map fun t => missingValue t.name := rfl
  rw [applyPlaceholders_validate hs hfields, hvalidate, hnone, hvalidate fields,
    List.flatMap_append, hmended, hadded, List.filter_append, hmissing]
  simp

/-- Every value that is not blank and, where its type is known, is accepted has its place in
another field. -/
structure KeepsAccepted (s : Schema) (f g : Field) : Prop where
  typeName_eq : g.typeName = f.typeName
  value : ∀ (j : Nat) (v : String), f.values[j]? = some v → Text.isBlankText v = false →
    (∀ t, s.fieldType? f.typeName = some t → t.kind.accepts v = true) → g.values[j]? = some v

private theorem keepsAccepted_mended (s : Schema) (f : Field) : s.KeepsAccepted f (s.mended f) := by
  refine ⟨typeName_mended s f, ?_⟩
  intro j v hv hblank haccepts
  unfold mended
  cases htype : s.fieldType? f.typeName with
  | none => exact hv
  | some t =>
    have hpresent : v ∈ f.present :=
      List.mem_filter.mpr ⟨List.mem_of_getElem? hv, by simp [hblank]⟩
    have hsome : f.present.isEmpty = false := by
      rw [List.isEmpty_eq_false_iff]
      exact List.ne_nil_of_mem hpresent
    have hstay : mayStay t v = true := by simp [mayStay, haccepts t htype]
    simp [mendedAs, hsome, hv, hstay]

/-- The lenient way ends with what the repaired fields are found to violate, and records what was
found before, if that was anything. -/
theorem judge_lenient (s : Schema) (v : Version) :
    s.judge true v =
      if s.validate v.fields = [] then (none, v)
      else
        let repaired := s.applyPlaceholders v.fields (s.validate v.fields)
        (if s.validate repaired = [] then none
          else some (invalidFields (s.validate repaired) " after repair"),
          { v with fields := repaired, validationProblems := s.validate v.fields }) := by
  unfold judge
  cases hfound : s.validate v.fields with
  | nil => rfl
  | cons x rest =>
    simp only [if_true, List.cons_ne_nil, if_false]
    cases s.validate (s.applyPlaceholders v.fields (x :: rest)) <;> rfl

open Classical in
/-- The lenient way repairs all that a placeholder can settle and nothing else: judged again, the
fields have the violations that last, as they were and in their order, and every value that was
accepted is in its place. A version stands if and only if none of its violations lasts; what was
found is recorded, and a version that does not stand fails with those that last. -/
theorem lenient_repair_exact (hs : s.DistinctNames) (hfields : (fields.map (·.typeName)).Nodup) :
    s.validate (s.applyPlaceholders fields (s.validate fields)) =
        (s.validate fields).filter (fun x => s.Lasting x) ∧
      (∀ (i : Nat) (f : Field), fields[i]? = some f →
        ∃ g, (s.applyPlaceholders fields (s.validate fields))[i]? = some g ∧
          s.KeepsAccepted f g) ∧
      ∀ v : Version, v.fields = fields →
        ((s.judge true v).1 = none ↔ ∀ x ∈ s.validate fields, ¬ s.Lasting x) ∧
        ((∃ x ∈ s.validate fields, s.Lasting x) → (s.judge true v).1 =
          some (invalidFields ((s.validate fields).filter fun x => s.Lasting x)
            " after repair")) ∧
        (s.judge true v).2 =
          if s.validate fields = [] then v
          else { v with
            fields := s.applyPlaceholders fields (s.validate fields)
            validationProblems := s.validate fields } := by
  have hleft := validate_repaired hs hfields
  refine ⟨hleft, ?_, ?_⟩
  · intro i f hf
    refine ⟨s.mended f, ?_, keepsAccepted_mended s f⟩
    have hmended : (fields.map s.mended)[i]? = some (s.mended f) := by
      rw [List.getElem?_map, hf, Option.map_some]
    rw [applyPlaceholders_validate hs hfields, List.getElem?_append_left, hmended]
    exact (List.getElem?_eq_some_iff.mp hmended).1
  · rintro v rfl
    have hnil : (s.validate v.fields).filter (fun x => s.Lasting x) = [] ↔
        ∀ x ∈ s.validate v.fields, ¬ s.Lasting x := by
      simp [List.filter_eq_nil_iff]
    rw [judge_lenient]
    by_cases hfound : s.validate v.fields = []
    · simp [hfound]
    · simp only [hfound, if_false, hleft]
      refine ⟨?_, ?_, trivial⟩
      · rw [← hnil]
        split
        · next h => simp [h]
        · next h => simp [h]
      · rintro ⟨x, hx, hlasting⟩
        rw [if_neg]
        intro h
        exact hnil.mp h x hx hlasting

/-! ### A list with every fault -/

/-- A block with types of several kinds. -/
def coastal : Schema where
  name := "coastal"
  fields :=
    [⟨"title", .text, true, false⟩, ⟨"contact", .email, false, true⟩,
     ⟨"year", .date, false, false⟩, ⟨"language", .text, true, false⟩]

/-- A title that is blank, a contact that is none, two years of which one is none, a type that
the block does not know, and no language. -/
def faulty : List Field :=
  [⟨"title", ["", " "]⟩, ⟨"contact", ["ada@example.org", "nobody"]⟩,
   ⟨"year", ["2020", "2021-13"]⟩, ⟨"colour", ["blue"]⟩]

def faultyDraft : Version := { Version.draft ⟨⟨2⟩⟩ with fields := faulty }

/-- The count of the years and the unknown type last. -/
theorem lenient_repair_exact_when_faulty :
    coastal.DistinctNames ∧ (faulty.map (·.typeName)).Nodup ∧
      (coastal.validate faulty).length = 6 ∧
      coastal.applyPlaceholders faulty (coastal.validate faulty) =
        [⟨"title", ["N/A"]⟩, ⟨"contact", ["ada@example.org", "N/A"]⟩,
         ⟨"year", ["2020", "N/A"]⟩, ⟨"colour", ["blue"]⟩, ⟨"language", ["N/A"]⟩] ∧
      (coastal.judge true faultyDraft).1 =
        some (invalidFields [tooManyValues "year" 2, coastal.unknownType "colour"]
          " after repair") ∧
      (coastal.judge true faultyDraft).2.validationProblems = coastal.validate faulty := by
  have hs : coastal.DistinctNames := by
    unfold DistinctNames
    decide
  have hfields : (faulty.map (·.typeName)).Nodup := by decide
  have hrepaired : coastal.applyPlaceholders faulty (coastal.validate faulty) =
      [⟨"title", ["N/A"]⟩, ⟨"contact", ["ada@example.org", "N/A"]⟩,
       ⟨"year", ["2020", "N/A"]⟩, ⟨"colour", ["blue"]⟩, ⟨"language", ["N/A"]⟩] := by
    decide +kernel
  have hlength : (coastal.validate faulty).length = 6 := by decide +kernel
  have hleft : coastal.validate (coastal.applyPlaceholders faulty (coastal.validate faulty)) =
      [tooManyValues "year" 2, coastal.unknownType "colour"] := by decide +kernel
  obtain ⟨hexact, -, hjudged⟩ := lenient_repair_exact hs hfields
  obtain ⟨-, hfails, hrecorded⟩ := hjudged faultyDraft rfl
  rw [hleft] at hexact
  have hlasting : ∃ x ∈ coastal.validate faulty, coastal.Lasting x := by
    refine ⟨coastal.unknownType "colour", ?_, .unknownType (by decide)⟩
    have hmem : coastal.unknownType "colour" ∈
        [tooManyValues "year" 2, coastal.unknownType "colour"] := by simp
    rw [hexact] at hmem
    exact (List.mem_filter.mp hmem).1
  have hfound : coastal.validate faulty ≠ [] := by
    intro h
    rw [h] at hlength
    cases hlength
  refine ⟨hs, hfields, hlength, hrepaired, ?_, ?_⟩
  · rw [hfails hlasting, ← hexact]
  · rw [hrecorded, if_neg hfound]

end Depository.Schema
