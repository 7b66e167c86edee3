import Depository.Dataset.Version
import Depository.Failure
import Depository.Schema.Basic

/-!
# Judging a version

A version is judged by a schema strictly or leniently. The lenient way repairs the fields first,
records what it found, and fails only for what the repair left.
-/

namespace Depository

/-- A failure for violations that were found. -/
def invalidFields (violations : List Violation) (remark : String) : Failure :=
  .validation (toString violations.length ++ " field(s) failed validation" ++ remark) violations

/-- The version after it was judged, and the failure if it does not stand. -/
def Schema.judge (s : Schema) (lenient : Bool) (v : Version) : Option Failure × Version :=
  match s.validate v.fields with
  | [] => (none, v)
  | violations =>
    if lenient then
      let repaired :=
        { v with
          fields := s.applyPlaceholders v.fields violations
          validationProblems := violations }
      match s.validate repaired.fields with
      | [] => (none, repaired)
      | remaining => (some (invalidFields remaining " after repair"), repaired)
    else (some (invalidFields violations ""), v)

end Depository
