import Mathlib.Algebra.Order.Ring.Unbundled.Rat
import Athena.Python.Datetime
import Athena.Python.Uuid

/-!
# Evidence: immutable, structured observations
-/

namespace Athena

/-- What was observed. -/
inductive EvidenceType
  | dataType
  | nullRate
  | cardinality
  | uniqueness
  | namePattern
  | valueRange
  | temporalPattern
  | duplicatePattern
  deriving DecidableEq, Repr

/-- Who supplied the evidence. -/
inductive EvidenceSource
  | system
  | user
  deriving DecidableEq, Repr

/-- The values that the profiler puts into `details`. -/
inductive DetailValue
  | int (value : Int)
  | float (value : ℚ)
  | str (value : String)
  | bool (value : Bool)
  deriving DecidableEq

abbrev Details := List (String × DetailValue)

structure Evidence where
  id : UUID
  datasetId : UUID
  analysisRunId : UUID
  /-- None for evidence about the whole dataset. -/
  columnName : Option String
  evidenceType : EvidenceType
  source : EvidenceSource
  producer : String
  details : Details
  description : String
  createdAt : Datetime
  deriving DecidableEq

/-- What an item says, its provenance aside. -/
abbrev Observation := EvidenceType × Option String × Details

def Evidence.observation (item : Evidence) : Observation :=
  (item.evidenceType, item.columnName, item.details)

end Athena
