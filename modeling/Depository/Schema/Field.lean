import Depository.Schema.Kind

/-!
# Metadata fields

The fields of a version with their values, the types that a schema gives to fields, and the
violations found in them.
-/

namespace Depository

/-- What a schema says about the fields of one name. -/
structure FieldType where
  name : String
  kind : FieldKind
  required : Bool
  multiple : Bool
  deriving DecidableEq

/-- A field of a version: the name of its type and its values. -/
structure Field where
  typeName : String
  values : List String
  deriving DecidableEq

/-- One fault of a field. -/
structure Violation where
  fieldType : String
  value : Option String
  message : String
  deriving DecidableEq

def Violation.text (v : Violation) : String :=
  match v.value with
  | some value => v.fieldType ++ " ('" ++ value ++ "'): " ++ v.message
  | none => v.fieldType ++ ": " ++ v.message

namespace Field

/-- The values that are not blank. -/
def present (f : Field) : List String := f.values.filter fun v => !Text.isBlankText v

/-- A field is blank when all its values are. -/
def isBlank (f : Field) : Bool := f.values.all Text.isBlankText

/-- The field without its blank values. -/
def tidied (f : Field) : Field := { f with values := f.present }

end Field

/-- The fields without blank values, those left without a value dropped. -/
def tidyFields (fields : List Field) : List Field :=
  (fields.map Field.tidied).filter fun f => !f.values.isEmpty

end Depository
