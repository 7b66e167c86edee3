import Depository.Schema.Field

/-!
# Metadata schemas

A schema names the field types of a block in order. It completes a field list, judges it, and
repairs what can be repaired with the placeholder.
-/

namespace Depository

/-- The field types of a block of metadata. -/
structure Schema where
  name : String
  fields : List FieldType
  deriving DecidableEq

namespace Schema

/-- The block of metadata by which datasets are cited. -/
def citation : Schema where
  name := "citation"
  fields :=
    [⟨"title", .text, true, false⟩,
     ⟨"subtitle", .text, false, false⟩,
     ⟨"author", .text, true, true⟩,
     ⟨"datasetContactEmail", .email, true, true⟩,
     ⟨"dsDescription", .text, true, true⟩,
     ⟨"subject", .text, true, true⟩,
     ⟨"keyword", .text, false, true⟩,
     ⟨"productionDate", .date, false, false⟩,
     ⟨"distributionDate", .date, false, false⟩,
     ⟨"dateOfDeposit", .date, false, false⟩,
     ⟨"alternativeURL", .url, false, false⟩,
     ⟨"relatedMaterial", .text, false, true⟩,
     ⟨"sampleSize", .integer, false, false⟩,
     ⟨"northLatitude", .float, false, false⟩]

instance : Inhabited Schema := ⟨citation⟩

/-- The type of the given name; the first, if the name is repeated. -/
def fieldType? (s : Schema) (name : String) : Option FieldType :=
  s.fields.find? fun t => t.name == name

/-- The place of a name in the schema; unknown names come after all others. -/
def rank (s : Schema) (name : String) : Nat := s.fields.findIdx fun t => t.name == name

/-- Whether a field of the given name is in a list. -/
def hasField (fields : List Field) (name : String) : Bool :=
  fields.any fun f => f.typeName == name

/-- Adds a field without values for each type that has no field. -/
def complete (types : List FieldType) (fields : List Field) : List Field :=
  types.foldl (fun fields t =>
    if hasField fields t.name then fields else fields ++ [⟨t.name, []⟩]) fields

/-- The fields completed and in the order of the schema; fields that tie keep their order. -/
def arrange (s : Schema) (fields : List Field) : List Field :=
  (complete s.fields fields).mergeSort fun f g => s.rank f.typeName ≤ s.rank g.typeName

def missingValue (name : String) : Violation := ⟨name, none, "required field has no value"⟩

def tooManyValues (name : String) (count : Nat) : Violation :=
  ⟨name, none, "accepts a single value, found " ++ toString count⟩

def unacceptable (t : FieldType) (value : String) : Violation :=
  ⟨t.name, some value, "not a valid " ++ t.kind.name ++ " value"⟩

def unknownType (s : Schema) (name : String) : Violation :=
  ⟨name, none, "not defined in the " ++ s.name ++ " block"⟩

/-- The violations of a field of a known type. -/
def typeViolations (t : FieldType) (f : Field) : List Violation :=
  (if t.required && f.present.isEmpty then [missingValue t.name] else []) ++
    (if !t.multiple && 1 < f.present.length then [tooManyValues t.name f.present.length] else []) ++
    ((f.present.filter fun v => !t.kind.accepts v).map (unacceptable t))

/-- The violations of one field. -/
def fieldViolations (s : Schema) (f : Field) : List Violation :=
  match s.fieldType? f.typeName with
  | none => [s.unknownType f.typeName]
  | some t => typeViolations t f

/-- The violations of a field list: those of each field in order, then the required types that
the list does not name. -/
def validate (s : Schema) (fields : List Field) : List Violation :=
  fields.flatMap s.fieldViolations ++
    ((s.fields.filter fun t => t.required && !hasField fields t.name).map fun t =>
      missingValue t.name)

/-- Changes the first field of the given name. -/
def updateFirst (name : String) (change : Field → Field) : List Field → List Field
  | [] => []
  | f :: rest => if f.typeName = name then change f :: rest else f :: updateFirst name change rest

/-- The field with each occurrence of a value replaced by the placeholder. -/
def replaceValue (bad : String) (f : Field) : Field :=
  { f with values := f.values.map fun v => if v = bad then notApplicable else v }

/-- The field with the placeholder as its value, if it was blank. -/
def fillBlank (f : Field) : Field := if f.isBlank then { f with values := [notApplicable] } else f

/-- Repairs one violation of a known type: an unusable value is replaced, and a required field
without value gets the placeholder. -/
def repair (s : Schema) (fields : List Field) (v : Violation) : List Field :=
  match s.fieldType? v.fieldType with
  | none => fields
  | some t =>
    match v.value with
    | some bad => updateFirst t.name (replaceValue bad) fields
    | none =>
      if !t.required then fields
      else if hasField fields t.name then updateFirst t.name fillBlank fields
      else fields ++ [⟨t.name, [notApplicable]⟩]

/-- Repairs violations one after another. -/
def applyPlaceholders (s : Schema) (fields : List Field) (violations : List Violation) :
    List Field :=
  violations.foldl s.repair fields

end Schema

end Depository
