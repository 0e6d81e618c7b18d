import Mathlib.Algebra.Order.Ring.Unbundled.Rat

/-!
# The immutable models produced by profiling

Percentages are exact rationals.
-/

namespace Athena

structure DatasetSummary where
  reference : String
  name : String
  rowCount : Int
  columnCount : Int
  estimatedSizeBytes : Int
  deriving DecidableEq

structure ColumnProfile where
  name : String
  dataType : String
  nullCount : Int
  nullPercentage : ℚ
  distinctCount : Int
  distinctPercentage : ℚ
  deriving DecidableEq

structure DataQualityProfile where
  totalCellCount : Int
  nullCellCount : Int
  nullPercentage : ℚ
  duplicateRowCount : Int
  duplicateRowPercentage : ℚ
  emptyColumnCount : Int
  deriving DecidableEq

structure ProfileRecommendations where
  potentialPrimaryKeys : List String
  identifierColumns : List String
  categoricalColumns : List String
  numericMeasures : List String
  dateDimensions : List String
  deriving DecidableEq

structure ProfileResult where
  summary : DatasetSummary
  columns : List ColumnProfile
  dataQuality : DataQualityProfile
  recommendations : ProfileRecommendations
  deriving DecidableEq

end Athena
