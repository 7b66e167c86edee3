import Depository.Identifier.EntityId
import Depository.Text.Numeral

/-!
# Summaries

The counts of a run over all datasets, and the share of successes among the datasets that were
worked on.
-/

namespace Depository

/-- A dataset that failed in a run, and why. -/
structure DatasetFailure where
  dataset : DatasetId
  message : String
  deriving DecidableEq

/-- The counts of a run. -/
structure RunSummary where
  total : Nat
  processed : Nat
  succeeded : Nat
  failed : Nat
  skipped : Nat
  failures : List DatasetFailure
  deriving DecidableEq

namespace RunSummary

/-- The summary of a run over as many datasets before the first of them. -/
def start (total : Nat) : RunSummary := ⟨total, 0, 0, 0, 0, []⟩

def addSuccess (s : RunSummary) : RunSummary :=
  { s with processed := s.processed + 1, succeeded := s.succeeded + 1 }

def addFailure (dataset : DatasetId) (message : String) (s : RunSummary) : RunSummary :=
  { s with
    processed := s.processed + 1
    failed := s.failed + 1
    failures := s.failures ++ [⟨dataset, message⟩] }

def addSkipped (s : RunSummary) : RunSummary := { s with skipped := s.skipped + 1 }

def isSuccessful (s : RunSummary) : Bool := s.failed == 0

/-- The quotient rounded to a whole number, a half to the even neighbour. -/
def roundedRatio (numerator denominator : Nat) : Nat :=
  let q := numerator / denominator
  let r := numerator % denominator
  if denominator < 2 * r ∨ (2 * r = denominator ∧ q % 2 = 1) then q + 1 else q

/-- The successes in millionths of a percent of the datasets worked on; a run without work is
wholly successful. -/
def successMillionths (s : RunSummary) : Nat :=
  if s.processed = 0 then 100000000 else roundedRatio (s.succeeded * 100000000) s.processed

/-- A number of millionths with `places` of its six decimals. -/
def decimalText (places : Nat) (millionths : Nat) : String :=
  let unit := Nat.pow 10 places
  let value := roundedRatio (millionths * unit) 1000000
  toString (value / unit) ++ "." ++ Text.padded places (value % unit)

/-- The success rate in percent with six decimals. -/
def successRate (s : RunSummary) : String := decimalText 6 s.successMillionths

end RunSummary

end Depository
