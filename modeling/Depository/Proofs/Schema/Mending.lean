import Depository.Proofs.Schema.Settling

/-!
# Fields that are mended

What the violations of a list make of it. In the first field of each type, every value that
cannot be used and every required value that is missing gives way to the placeholder; a field
that comes after another one of its type is passed over; and a required type without a field gets
one.
-/

namespace Depository.Schema

variable {s : Schema} {t : FieldType} {f : Field} {fields : List Field}

/-! ### One field -/

/-- What a repair makes of the field that a violation is about. -/
def mend (t : FieldType) (f : Field) (v : Violation) : Field :=
  match v.value with
  | some bad => replaceValue bad f
  | none => if t.required then fillBlank f else f

/-- Whether a value may stay: it is blank, or one of the kind. -/
def mayStay (t : FieldType) (value : String) : Bool :=
  Text.isBlankText value || t.kind.accepts value

/-- A field of a known type with the placeholder for what is missing or unusable. -/
def mendedAs (t : FieldType) (f : Field) : Field :=
  if t.required && f.present.isEmpty then { f with values := [notApplicable] }
  else { f with values := f.values.map fun v => if mayStay t v then v else notApplicable }

/-- A field with the placeholder for what is missing or unusable, if its type is known. -/
def mended (s : Schema) (f : Field) : Field :=
  match s.fieldType? f.typeName with
  | none => f
  | some t => mendedAs t f

private theorem typeName_mend (t : FieldType) (f : Field) (v : Violation) :
    (mend t f v).typeName = f.typeName := by
  unfold mend fillBlank
  repeat' split
  all_goals rfl

theorem typeName_mended (s : Schema) (f : Field) : (s.mended f).typeName = f.typeName := by
  unfold mended mendedAs
  repeat' split
  all_goals rfl

private theorem typeName_ite_mended (s : Schema) (f : Field) (p : Prop) [Decidable p] :
    (if p then f else s.mended f).typeName = f.typeName := by
  split
  · rfl
  · exact typeName_mended s f

theorem mem_typeViolations {v : Violation} :
    v ∈ typeViolations t f ↔
      (t.required = true ∧ f.present = [] ∧ v = missingValue t.name) ∨
      (t.multiple = false ∧ 1 < f.present.length ∧
        v = Schema.tooManyValues t.name f.present.length) ∨
      ∃ value ∈ f.present, t.kind.accepts value = false ∧ v = unacceptable t value := by
  have hmissing : v ∈ (if t.required && f.present.isEmpty then [missingValue t.name] else []) ↔
      t.required = true ∧ f.present = [] ∧ v = missingValue t.name := by
    split
    · next h =>
      simp only [Bool.and_eq_true, List.isEmpty_iff] at h
      simp [h]
    · next h =>
      simp only [Bool.and_eq_true, List.isEmpty_iff, not_and] at h
      simpa using fun hrequired hnone => absurd hnone (h hrequired)
  have hmany : v ∈ (if !t.multiple && 1 < f.present.length then
        [Schema.tooManyValues t.name f.present.length] else []) ↔
      t.multiple = false ∧ 1 < f.present.length ∧
        v = Schema.tooManyValues t.name f.present.length := by
    split
    · next h =>
      simp only [Bool.and_eq_true, Bool.not_eq_true', decide_eq_true_eq] at h
      simp [h]
    · next h =>
      simp only [Bool.and_eq_true, Bool.not_eq_true', decide_eq_true_eq, not_and] at h
      simpa using fun hsingle hlength => absurd hlength (h hsingle)
  have hbad : v ∈ (f.present.filter fun v => !t.kind.accepts v).map (unacceptable t) ↔
      ∃ value ∈ f.present, t.kind.accepts value = false ∧ v = unacceptable t value := by
    simp only [List.mem_map, List.mem_filter, Bool.not_eq_true', and_assoc, eq_comm (a := v)]
  unfold typeViolations
  rw [List.mem_append, List.mem_append, hmissing, hmany, hbad, or_assoc]

private theorem fieldType_of_mem_typeViolations {v : Violation} (h : v ∈ typeViolations t f) :
    v.fieldType = t.name := by
  rcases mem_typeViolations.mp h with ⟨-, -, rfl⟩ | ⟨-, -, rfl⟩ | ⟨value, -, -, rfl⟩ <;> rfl

/-- A value that is found in a field is neither blank nor accepted. -/
private theorem mayStay_of_mem_typeViolations {v : Violation} (h : v ∈ typeViolations t f)
    {bad : String} (hbad : v.value = some bad) : mayStay t bad = false := by
  rcases mem_typeViolations.mp h with ⟨-, -, rfl⟩ | ⟨-, -, rfl⟩ | ⟨value, hvalue, haccepts, rfl⟩
  · cases hbad
  · cases hbad
  · cases hbad
    have hblank := (List.mem_filter.mp hvalue).2
    rw [Bool.not_eq_true'] at hblank
    simp [mayStay, hblank, haccepts]

private theorem isBlank_iff : f.isBlank = true ↔ f.present = [] := by
  simp [Field.isBlank, Field.present, List.filter_eq_nil_iff]

/-- Replacing one value after another replaces all of them. -/
private theorem foldl_replaceValue (bads : List String) (f : Field) :
    bads.foldl (fun f bad => replaceValue bad f) f =
      { f with values := f.values.map fun v => if v ∈ bads then notApplicable else v } := by
  induction bads generalizing f with
  | nil => simp
  | cons bad rest ih =>
    rw [List.foldl_cons, ih]
    simp only [replaceValue, List.map_map, Field.mk.injEq, true_and]
    apply List.map_congr_left
    intro v _
    by_cases hv : v = bad
    · simp [hv]
    · simp [hv]

/-- A blank field has no unusable values, so all that can be missing is a value. -/
private theorem foldl_mend_of_blank (t : FieldType) (hnone : f.present = []) :
    (typeViolations t f).foldl (mend t) f = mendedAs t f := by
  have hstay : (f.values.map fun v => if mayStay t v then v else notApplicable) = f.values := by
    have hblank := List.filter_eq_nil_iff.mp hnone
    rw [List.map_congr_left (g := id), List.map_id]
    intro v hv
    have hv' := hblank v hv
    simp only [Bool.not_eq_true', Bool.not_eq_false] at hv'
    simp [mayStay, hv']
  cases hrequired : t.required with
  | true =>
    have hfilled : fillBlank f = { f with values := [notApplicable] } := by
      rw [fillBlank, if_pos (isBlank_iff.mpr hnone)]
    simp [typeViolations, mendedAs, hrequired, hnone, mend, missingValue, hfilled]
  | false => simp [typeViolations, mendedAs, hrequired, hnone, hstay]

/-- A field that is not blank loses its unusable values, and too many values are left alone. -/
private theorem foldl_mend_of_present (t : FieldType) (hsome : f.present ≠ []) :
    (typeViolations t f).foldl (mend t) f = mendedAs t f := by
  have hblank : ¬ f.isBlank = true := fun h => hsome (isBlank_iff.mp h)
  have hmissing : (t.required && f.present.isEmpty) = false := by simp [hsome]
  have hmany : (if (!t.multiple && decide (1 < f.present.length)) = true then
      [Schema.tooManyValues t.name f.present.length] else []).foldl (mend t) f = f := by
    split
    · simp [mend, Schema.tooManyValues, fillBlank, hblank]
    · rfl
  have hbads : ((f.present.filter fun v => !t.kind.accepts v).map (unacceptable t)).foldl
      (mend t) f = (f.present.filter fun v => !t.kind.accepts v).foldl
        (fun g bad => replaceValue bad g) f := by
    rw [List.foldl_map]
    rfl
  simp only [typeViolations, mendedAs, hmissing, Bool.false_eq_true, if_false, List.nil_append,
    List.foldl_append]
  rw [hmany, hbads, foldl_replaceValue]
  congr 1
  apply List.map_congr_left
  intro v hv
  have hbad : (v ∈ f.present.filter fun v => !t.kind.accepts v) ↔ ¬ mayStay t v = true := by
    simp [Field.present, mayStay, hv, and_comm]
  by_cases hstay : mayStay t v = true
  · simp only [hbad, hstay, not_true, if_false, if_true]
  · simp only [hbad, hstay, not_false_eq_true, if_true, Bool.false_eq_true, if_false]

/-- The repairs that the violations of a field ask for, one after another. -/
private theorem foldl_mend_typeViolations (t : FieldType) (f : Field) :
    (typeViolations t f).foldl (mend t) f = mendedAs t f := by
  by_cases hnone : f.present = []
  · exact foldl_mend_of_blank t hnone
  · exact foldl_mend_of_present t hnone

/-- Only unusable values are replaced, and none of them is blank. -/
theorem present_mendedAs (t : FieldType) (f : Field) :
    (mendedAs t f).present =
      if t.required && f.present.isEmpty then [notApplicable]
      else f.present.map fun v => if t.kind.accepts v then v else notApplicable := by
  have hplaceholder : Text.isBlankText notApplicable = false := by decide
  unfold mendedAs
  split
  · simp [Field.present, hplaceholder]
  · simp only [Field.present, List.filter_map]
    have hsame : (fun v => !Text.isBlankText v) ∘
        (fun v => if mayStay t v = true then v else notApplicable) =
          fun v => !Text.isBlankText v := by
      funext v
      cases hblank : Text.isBlankText v <;> cases haccepts : t.kind.accepts v <;>
        simp [mayStay, hblank, haccepts, hplaceholder]
    rw [hsame]
    apply List.map_congr_left
    intro v hv
    have hblank := (List.mem_filter.mp hv).2
    simp only [Bool.not_eq_true'] at hblank
    simp [mayStay, hblank]

/-! ### Nothing left to mend -/

/-- A field with a value where one is required, and no value that is unusable. -/
structure Whole (t : FieldType) (f : Field) : Prop where
  hasValue : t.required = true → f.present ≠ []
  stays : ∀ v ∈ f.values, mayStay t v = true

private theorem whole_mendedAs (t : FieldType) (f : Field) : Whole t (mendedAs t f) := by
  constructor
  · intro hrequired
    rw [present_mendedAs]
    split
    · simp
    · next hmissing => simpa [hrequired] using hmissing
  · unfold mendedAs
    split
    · simp [mayStay, FieldKind.accepts_notApplicable]
    · intro v hv
      obtain ⟨u, -, rfl⟩ := List.mem_map.mp hv
      split
      · assumption
      · simp [mayStay, FieldKind.accepts_notApplicable]

/-- A whole field is not changed by what was found in another field of its type. -/
private theorem Whole.mend_eq {g : Field} (h : Whole t g) {v : Violation}
    (hv : v ∈ typeViolations t f) :
    mend t g v = g := by
  unfold mend
  split
  · next bad hbad =>
    have hstay := mayStay_of_mem_typeViolations hv hbad
    have hnone : bad ∉ g.values := by
      intro hmem
      rw [h.stays bad hmem] at hstay
      cases hstay
    have hvalues : (g.values.map fun v => if v = bad then notApplicable else v) = g.values := by
      rw [List.map_congr_left (g := id), List.map_id]
      intro v hmem
      have hne : v ≠ bad := fun h => hnone (h ▸ hmem)
      rw [if_neg hne, id]
    rw [replaceValue, hvalues]
  · split
    · next hrequired =>
      have hblank : ¬ g.isBlank = true := fun hblank =>
        h.hasValue hrequired (isBlank_iff.mp hblank)
      rw [fillBlank, if_neg hblank]
    · rfl

/-! ### Lists of fields -/

private theorem applyPlaceholders_append (s : Schema) (fields : List Field)
    (vs ws : List Violation) :
    s.applyPlaceholders fields (vs ++ ws) =
      s.applyPlaceholders (s.applyPlaceholders fields vs) ws := List.foldl_append

private theorem applyPlaceholders_eq_self {violations : List Violation}
    (h : ∀ v ∈ violations, s.repair fields v = fields) :
    s.applyPlaceholders fields violations = fields := by
  induction violations with
  | nil => rfl
  | cons v rest ih =>
    rw [List.forall_mem_cons] at h
    show s.applyPlaceholders (s.repair fields v) rest = fields
    rw [h.1, ih h.2]

private theorem updateFirst_append {name : String} {change : Field → Field}
    {before after : List Field}
    (hbefore : name ∉ before.map (·.typeName)) (hname : f.typeName = name) :
    updateFirst name change (before ++ f :: after) = before ++ change f :: after := by
  induction before with
  | nil => simp [updateFirst, hname]
  | cons g rest ih =>
    simp only [List.map_cons, List.mem_cons, not_or] at hbefore
    have hg : ¬ g.typeName = name := fun h => hbefore.1 h.symm
    simp [updateFirst, hg, ih hbefore.2]

/-- Where no field before it has its type, a field is the one that is repaired. -/
private theorem repair_append {before after : List Field}
    (hbefore : f.typeName ∉ before.map (·.typeName))
    (htype : s.fieldType? f.typeName = some t) {v : Violation} (hv : v.fieldType = f.typeName) :
    s.repair (before ++ f :: after) v = before ++ mend t f v :: after := by
  obtain ⟨-, hname⟩ := fieldType?_eq_some htype
  have hfield : hasField (before ++ f :: after) t.name = true := by simp [hasField, hname]
  rw [← hname] at hbefore
  unfold repair mend
  rw [hv, htype]
  cases v.value with
  | some bad => exact updateFirst_append hbefore hname.symm
  | none =>
    cases hrequired : t.required with
    | true => simpa [hfield, hrequired] using updateFirst_append hbefore hname.symm
    | false => simp [hrequired]

private theorem applyPlaceholders_about {before after : List Field}
    (hbefore : f.typeName ∉ before.map (·.typeName))
    (htype : s.fieldType? f.typeName = some t) {violations : List Violation}
    (habout : ∀ v ∈ violations, v.fieldType = f.typeName) :
    s.applyPlaceholders (before ++ f :: after) violations =
      before ++ violations.foldl (mend t) f :: after := by
  induction violations generalizing f with
  | nil => rfl
  | cons v rest ih =>
    rw [List.forall_mem_cons] at habout
    have hstep : s.repair (before ++ f :: after) v = before ++ mend t f v :: after :=
      repair_append hbefore htype habout.1
    have hname := typeName_mend t f v
    rw [← hname] at hbefore htype habout
    show s.applyPlaceholders (s.repair (before ++ f :: after) v) rest = _
    rw [hstep, ih hbefore htype habout.2, List.foldl_cons]

/-- The violations of a field repair this field and no other. -/
private theorem applyPlaceholders_fieldViolations {before after : List Field}
    (hbefore : f.typeName ∉ before.map (·.typeName)) :
    s.applyPlaceholders (before ++ f :: after) (s.fieldViolations f) =
      before ++ s.mended f :: after := by
  unfold fieldViolations mended
  cases htype : s.fieldType? f.typeName with
  | none => simp [applyPlaceholders, repair, Schema.unknownType, htype]
  | some t =>
    obtain ⟨-, hname⟩ := fieldType?_eq_some htype
    have habout (v : Violation) (hv : v ∈ typeViolations t f) : v.fieldType = f.typeName :=
      (fieldType_of_mem_typeViolations hv).trans hname
    dsimp only
    rw [applyPlaceholders_about hbefore htype habout, foldl_mend_typeViolations]

private theorem updateFirst_eq_self {name : String} {change : Field → Field} {g : Field}
    (hfirst : fields.find? (fun f => f.typeName == name) = some g) (hchange : change g = g) :
    updateFirst name change fields = fields := by
  induction fields with
  | nil => rfl
  | cons f rest ih =>
    unfold updateFirst
    by_cases hf : f.typeName = name
    · simp only [List.find?_cons, hf, beq_self_eq_true, Option.some.injEq] at hfirst
      rw [if_pos hf, hfirst, hchange]
    · simp only [List.find?_cons, beq_eq_false_iff_ne.mpr hf] at hfirst
      rw [if_neg hf, ih hfirst]

/-- A repair looks at the first field of its type only. -/
private theorem repair_of_whole {g : Field} (htype : s.fieldType? f.typeName = some t)
    (hfirst : fields.find? (fun g => g.typeName == f.typeName) = some g) (hwhole : Whole t g)
    {v : Violation} (hv : v ∈ typeViolations t f) : s.repair fields v = fields := by
  obtain ⟨-, hname⟩ := fieldType?_eq_some htype
  have habout : v.fieldType = f.typeName := (fieldType_of_mem_typeViolations hv).trans hname
  have hfield : hasField fields t.name = true := by
    rw [hasField_iff, hname]
    have hg := List.find?_some hfirst
    rw [beq_iff_eq] at hg
    exact List.mem_map.mpr ⟨g, List.mem_of_find?_eq_some hfirst, hg⟩
  have hmend := hwhole.mend_eq hv
  rw [← hname] at hfirst
  unfold repair
  unfold mend at hmend
  rw [habout, htype]
  cases hvalue : v.value with
  | some bad =>
    rw [hvalue] at hmend
    exact updateFirst_eq_self hfirst hmend
  | none =>
    rw [hvalue] at hmend
    cases hrequired : t.required with
    | true =>
      simp only [hrequired, if_true] at hmend
      simpa [hfield, hrequired] using updateFirst_eq_self hfirst hmend
    | false => simp [hrequired]

/-- In no known type the first field has anything left to mend. -/
def FirstsWhole (s : Schema) (fields : List Field) : Prop :=
  ∀ (t : FieldType) (name : String) (g : Field), s.fieldType? name = some t →
    fields.find? (fun f => f.typeName == name) = some g → Whole t g

/-- The first field of each type mended, the types in `done` having had one before. -/
def mendFirsts (s : Schema) : List String → List Field → List Field
  | _, [] => []
  | done, f :: rest =>
    (if f.typeName ∈ done then f else s.mended f) :: mendFirsts s (done ++ [f.typeName]) rest

private theorem names_mendFirsts (s : Schema) (done : List String) (fields : List Field) :
    (s.mendFirsts done fields).map (·.typeName) = fields.map (·.typeName) := by
  induction fields generalizing done with
  | nil => rfl
  | cons f rest ih => rw [mendFirsts, List.map_cons, List.map_cons, ih, typeName_ite_mended]

private theorem mendFirsts_of_nodup {done : List String}
    (h : (done ++ fields.map (·.typeName)).Nodup) :
    s.mendFirsts done fields = fields.map s.mended := by
  induction fields generalizing done with
  | nil => rfl
  | cons f rest ih =>
    have hdone : f.typeName ∉ done := by
      intro hmem
      exact (List.nodup_append.mp h).2.2 _ hmem _ List.mem_cons_self rfl
    have hrest : ((done ++ [f.typeName]) ++ rest.map (·.typeName)).Nodup := by
      rw [List.append_assoc]
      exact h
    rw [mendFirsts, if_neg hdone, ih hrest, List.map_cons]

/-- What the violations of a field do after the fields before it are done: the first field of its
type is mended, and any other one is passed over. -/
private theorem applyPlaceholders_field {before after : List Field}
    (hbefore : s.FirstsWhole before) :
    s.applyPlaceholders (before ++ f :: after) (s.fieldViolations f) =
      before ++ (if f.typeName ∈ before.map (·.typeName) then f else s.mended f) :: after := by
  split
  · next hmem =>
    cases htype : s.fieldType? f.typeName with
    | none =>
      simp [fieldViolations, applyPlaceholders, repair, Schema.unknownType, htype]
    | some t =>
      obtain ⟨g, hg⟩ : ∃ g, before.find? (fun g => g.typeName == f.typeName) = some g := by
        rw [← Option.isSome_iff_exists, List.find?_isSome]
        obtain ⟨g, hg, hname⟩ := List.mem_map.mp hmem
        exact ⟨g, hg, beq_iff_eq.mpr hname⟩
      have hfirst : (before ++ f :: after).find? (fun g => g.typeName == f.typeName) = some g := by
        rw [List.find?_append, hg, Option.some_or]
      have hsame (v : Violation) (hv : v ∈ typeViolations t f) :
          s.repair (before ++ f :: after) v = before ++ f :: after :=
        repair_of_whole htype hfirst (hbefore t _ g htype hg) hv
      unfold fieldViolations
      rw [htype]
      exact applyPlaceholders_eq_self hsame
  · next hmem => exact applyPlaceholders_fieldViolations hmem

theorem FirstsWhole.concat {before : List Field} (hbefore : s.FirstsWhole before) (f : Field) :
    s.FirstsWhole (before ++ [if f.typeName ∈ before.map (·.typeName) then f else s.mended f]) := by
  intro t name g htype hg
  rw [List.find?_append, Option.or_eq_some_iff] at hg
  rcases hg with hg | ⟨hnone, hg⟩
  · exact hbefore t name g htype hg
  · obtain rfl := List.mem_singleton.mp (List.mem_of_find?_eq_some hg)
    have hname := List.find?_some hg
    rw [beq_iff_eq, typeName_ite_mended] at hname
    have hfirst : f.typeName ∉ before.map (·.typeName) := by
      rintro hmem
      obtain ⟨b, hb, hbname⟩ := List.mem_map.mp hmem
      have hother := List.find?_eq_none.mp hnone b hb
      simp [hbname, hname] at hother
    rw [if_neg hfirst, mended, hname, htype]
    exact whole_mendedAs t f

/-- The fields are repaired one after another; those in front are done. -/
private theorem applyPlaceholders_flatMap {before : List Field} (hbefore : s.FirstsWhole before) :
    s.applyPlaceholders (before ++ fields) (fields.flatMap s.fieldViolations) =
      before ++ s.mendFirsts (before.map (·.typeName)) fields := by
  induction fields generalizing before with
  | nil => simp [applyPlaceholders, mendFirsts]
  | cons f rest ih =>
    rw [List.flatMap_cons, applyPlaceholders_append, applyPlaceholders_field hbefore]
    have hdone := ih (hbefore.concat f)
    have hnames : (before ++ [if f.typeName ∈ before.map (·.typeName) then f else
        s.mended f]).map (·.typeName) = before.map (·.typeName) ++ [f.typeName] := by
      rw [List.map_append, List.map_singleton, typeName_ite_mended]
    rw [hnames, List.append_assoc, List.append_assoc] at hdone
    exact hdone

/-- The required types that a list of fields does not name. -/
def absent (s : Schema) (fields : List Field) : List FieldType :=
  s.fields.filter fun t => t.required && !hasField fields t.name

/-- A field with nothing but the placeholder. -/
def placeholder (t : FieldType) : Field := ⟨t.name, [notApplicable]⟩

theorem fieldViolations_placeholder (hs : s.DistinctNames) (ht : t ∈ s.fields) :
    s.fieldViolations (placeholder t) = [] := by
  have hpresent : (placeholder t).present = [notApplicable] := by
    have hplaceholder : Text.isBlankText notApplicable = false := by decide
    simp [placeholder, Field.present, hplaceholder]
  have htype : s.fieldType? (placeholder t).typeName = some t := hs.fieldType? ht
  unfold fieldViolations typeViolations
  rw [htype, hpresent]
  simp [FieldKind.accepts_notApplicable]

/-- A required type without a field gets one. -/
private theorem applyPlaceholders_missing (hs : s.DistinctNames) {types : List FieldType}
    (hnames : (types.map (·.name)).Nodup)
    (h : ∀ t ∈ types, t ∈ s.fields ∧ t.required = true ∧ t.name ∉ fields.map (·.typeName)) :
    s.applyPlaceholders fields (types.map fun t => missingValue t.name) =
      fields ++ types.map placeholder := by
  induction types generalizing fields with
  | nil => simp [applyPlaceholders]
  | cons t rest ih =>
    rw [List.map_cons, List.nodup_cons] at hnames
    rw [List.forall_mem_cons] at h
    obtain ⟨⟨ht, hrequired, hmissing⟩, hrest⟩ := h
    have hfield : hasField fields t.name = false := by
      rw [Bool.eq_false_iff, Ne, hasField_iff]
      exact hmissing
    have hstep : s.repair fields (missingValue t.name) = fields ++ [placeholder t] := by
      simp [repair, missingValue, hs.fieldType? ht, hrequired, hfield, placeholder]
    have hrest' (u : FieldType) (hu : u ∈ rest) : u ∈ s.fields ∧ u.required = true ∧
        u.name ∉ (fields ++ [placeholder t]).map (·.typeName) := by
      obtain ⟨hmem, hrequired, hmissing⟩ := hrest u hu
      refine ⟨hmem, hrequired, ?_⟩
      rw [List.map_append, List.mem_append, not_or]
      refine ⟨hmissing, ?_⟩
      intro hsame
      have hname : u.name = t.name := List.mem_singleton.mp hsame
      exact hnames.1 (hname ▸ List.mem_map_of_mem hu)
    show s.applyPlaceholders (s.repair fields (missingValue t.name)) _ = _
    rw [hstep, ih hnames.2 hrest', List.append_assoc]
    rfl

/-- A repair by the violations that were found mends the first field of each type and adds those
that are required. -/
theorem applyPlaceholders_firsts (hs : s.DistinctNames) (fields : List Field) :
    s.applyPlaceholders fields (s.validate fields) =
      s.mendFirsts [] fields ++ (s.absent fields).map placeholder := by
  have hempty : s.FirstsWhole [] := fun _ _ _ _ h => by cases h
  have hmended : s.applyPlaceholders ([] ++ fields) (fields.flatMap s.fieldViolations) =
      [] ++ s.mendFirsts [] fields := applyPlaceholders_flatMap hempty
  rw [List.nil_append, List.nil_append] at hmended
  unfold validate
  rw [applyPlaceholders_append, hmended]
  apply applyPlaceholders_missing hs
  · exact (List.filter_sublist.map _).nodup hs
  · intro t ht
    obtain ⟨hmem, hcond⟩ := List.mem_filter.mp ht
    simp only [Bool.and_eq_true, Bool.not_eq_true', Bool.eq_false_iff, Ne, hasField_iff] at hcond
    exact ⟨hmem, hcond.1, by rw [names_mendFirsts]; exact hcond.2⟩

theorem applyPlaceholders_validate (hs : s.DistinctNames)
    (hfields : (fields.map (·.typeName)).Nodup) :
    s.applyPlaceholders fields (s.validate fields) =
      fields.map s.mended ++ (s.absent fields).map placeholder := by
  rw [applyPlaceholders_firsts hs, mendFirsts_of_nodup (by simpa using hfields)]

end Depository.Schema
