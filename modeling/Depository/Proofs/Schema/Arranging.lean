import Depository.Proofs.Schema.Settling

/-!
# Fields arranged for a schema

Arranging keeps the given fields as they are, adds a field without values for each name of the
schema that none of them has, and orders all by the place at which their names first stand in the
schema, with the unknown ones at the end. Fields that this does not tell apart stay in the order in
which they were given, and arranged fields are left as they are.
-/

namespace Depository

namespace Schema

/-- The names of the types of a schema in its order; a name may be repeated. -/
def typeNames (s : Schema) : List String := s.fields.map (·.name)

/-! ### The order -/

/-- The rank of a name is the first place at which it stands in the schema, and the end for unknown
names. -/
private theorem rank_eq_idxOf (s : Schema) (name : String) :
    s.rank name = s.typeNames.idxOf name := by
  unfold rank typeNames
  rw [List.idxOf, List.findIdx_map]
  rfl

private theorem mem_typeNames_of_rank_le {s : Schema} {name other : String}
    (h : s.rank name ≤ s.rank other) (hother : other ∈ s.typeNames) : name ∈ s.typeNames := by
  rw [rank_eq_idxOf, rank_eq_idxOf] at h
  exact List.idxOf_lt_length_iff.mp (Nat.lt_of_le_of_lt h (List.idxOf_lt_length_iff.mpr hother))

/-- Given fields that the order of the schema does not tell apart from each other, but from those that
are added, stay as they are. -/
private theorem filter_arrange {s : Schema} {fields : List Field} {tied : Field → Bool}
    (htied : ∀ f g, tied f = true → tied g = true → s.rank f.typeName = s.rank g.typeName)
    (hadded : ∀ name ∈ s.typeNames, name ∉ fields.map (·.typeName) → tied (unfilled name) = false) :
    (s.arrange fields).filter tied = fields.filter tied := by
  have hordered : s.Ordered ((complete s.fields fields).filter tied) :=
    List.pairwise_filter.mpr <| List.pairwise_of_forall fun f g hf hg =>
      Nat.le_of_eq (htied f g hf hg)
  have hsub := (sublist_arrange hordered List.filter_sublist).filter tied
  rw [List.filter_filter] at hsub
  simp only [Bool.and_self] at hsub
  have hkept : (s.arrange fields).filter tied = (complete s.fields fields).filter tied :=
    (hsub.eq_of_length ((s.arrange_perm fields).filter tied).length_eq.symm).symm
  obtain ⟨names, hmissing, hcomplete⟩ := exists_missing s.fields fields
  have hnone : (names.map unfilled).filter tied = [] := by
    rw [List.filter_eq_nil_iff]
    intro f hf
    obtain ⟨name, hname, rfl⟩ := List.mem_map.mp hf
    obtain ⟨htype, hfield⟩ := (hmissing.mem_iff name).mp hname
    rw [hadded name htype hfield]
    exact Bool.false_ne_true
  rw [hkept, hcomplete, List.filter_append, hnone, List.append_nil]

private theorem complete_of_forall_mem {types : List FieldType} {fields : List Field}
    (h : ∀ t ∈ types, t.name ∈ fields.map (·.typeName)) : complete types fields = fields := by
  obtain ⟨names, hmissing, hcomplete⟩ := exists_missing types fields
  have hnone : names = [] := by
    rw [List.eq_nil_iff_forall_not_mem]
    intro name hname
    obtain ⟨htype, hfield⟩ := (hmissing.mem_iff name).mp hname
    obtain ⟨t, ht, rfl⟩ := List.mem_map.mp htype
    exact hfield (h t ht)
  rw [hcomplete, hnone, List.map_nil, List.append_nil]

/-- Fields in the order of the schema that lack none of its names are arranged already. -/
private theorem arrange_of_ordered {s : Schema} {fields : List Field} (hordered : s.Ordered fields)
    (hnames : ∀ t ∈ s.fields, t.name ∈ fields.map (·.typeName)) : s.arrange fields = fields := by
  have hsub : fields.Sublist (s.arrange fields) := by
    apply sublist_arrange hordered
    rw [complete_of_forall_mem hnames]
  apply (hsub.eq_of_length _).symm
  rw [(s.arrange_perm fields).length_eq, complete_of_forall_mem hnames]

/-! ### Arranged fields -/

/-- Some fields completed and put in the order of a schema: the given fields and one without values
for each name that none of them had, known types by the first place of their name and before the
unknown ones, fields of one type and those of unknown types in the order in which they were given. -/
structure StableCompletion (s : Schema) (fields arranged : List Field) : Prop where
  entries : ∃ missing, Missing s.fields fields missing ∧
    arranged.Perm (fields ++ missing.map unfilled)
  ordered : arranged.Pairwise fun f g => g.typeName ∈ s.typeNames →
    f.typeName ∈ s.typeNames ∧ s.typeNames.idxOf f.typeName ≤ s.typeNames.idxOf g.typeName
  ofType : ∀ f ∈ fields, arranged.filter (·.typeName = f.typeName) =
    fields.filter (·.typeName = f.typeName)
  unknown : arranged.filter (·.typeName ∉ s.typeNames) = fields.filter (·.typeName ∉ s.typeNames)

private theorem stableCompletion_arrange (s : Schema) (fields : List Field) :
    s.StableCompletion fields (s.arrange fields) := by
  obtain ⟨missing, hmissing, hcomplete⟩ := exists_missing s.fields fields
  refine ⟨⟨missing, hmissing, hcomplete ▸ s.arrange_perm fields⟩, ?_, fun f hf => ?_, ?_⟩
  · apply (s.ordered_arrange fields).imp
    intro f g hfg hg
    refine ⟨mem_typeNames_of_rank_le hfg hg, ?_⟩
    rwa [← rank_eq_idxOf, ← rank_eq_idxOf]
  · apply filter_arrange
    · intro g k hg hk
      rw [of_decide_eq_true hg, of_decide_eq_true hk]
    · intro name _ hfield
      apply decide_eq_false
      rintro rfl
      exact hfield (List.mem_map_of_mem hf)
  · apply filter_arrange
    · -- All unknown names rank at the end.
      intro g k hg hk
      rw [rank_eq_idxOf, rank_eq_idxOf, List.idxOf_of_notMem (of_decide_eq_true hg),
        List.idxOf_of_notMem (of_decide_eq_true hk)]
    · intro name hname _
      exact decide_eq_false (not_not_intro hname)

/-- Arranging completes fields stably, and arranging them again changes nothing. -/
theorem arrange_completes_stably (s : Schema) (fields : List Field) :
    s.StableCompletion fields (s.arrange fields) ∧
      s.arrange (s.arrange fields) = s.arrange fields := by
  refine ⟨s.stableCompletion_arrange fields, ?_⟩
  exact arrange_of_ordered (s.ordered_arrange fields) fun t ht => name_mem_arrange ht

/-- A name that the schema repeats, and fields of one type apart from each other. -/
example :
    arrange ⟨"block", [⟨"title", .text, true, false⟩, ⟨"author", .text, true, true⟩,
        ⟨"title", .text, false, true⟩]⟩
      [⟨"note", ["n"]⟩, ⟨"author", ["b"]⟩, ⟨"mark", []⟩, ⟨"author", ["a"]⟩] =
    [⟨"title", []⟩, ⟨"author", ["b"]⟩, ⟨"author", ["a"]⟩, ⟨"note", ["n"]⟩, ⟨"mark", []⟩] := by
  cbv

end Schema

end Depository
