import Mathlib.Algebra.Order.Field.Rat
import Mathlib.Tactic.FieldSimp
import Mathlib.Tactic.Linarith
import Mathlib.Tactic.Positivity
import Mathlib.Tactic.Ring
import Athena.Profiling.RowCounts

/-!
# How the counts of a profile fit together

The counts of the columns, of all cells and of the duplicate rows are aggregated apart, each over a
total of its own. Every percentage is that of a part of its total, and the totals are zero only
where `_percentage` does not divide; for a table with rows the share of null cells is the mean of
the columns' shares, and a column is empty exactly if its share is the whole.
-/

namespace Athena.DatasetProfiler

open Library

/-! ### Percentages -/

variable {numerator denominator : Int}

theorem percentage_nonneg (hnumerator : 0 ≤ numerator) (hle : numerator ≤ denominator) :
    0 ≤ percentage numerator denominator := by
  have hdenominator : 0 ≤ denominator := le_trans hnumerator hle
  rw [percentage_eq]
  split
  · exact le_refl 0
  · positivity

theorem percentage_le_hundred (hnumerator : 0 ≤ numerator) (hle : numerator ≤ denominator) :
    percentage numerator denominator ≤ 100 := by
  rw [percentage_eq]
  split
  · norm_num
  · rename_i hzero
    have hpositive : (0 : ℚ) < denominator := by
      exact_mod_cast lt_of_le_of_ne (le_trans hnumerator hle) (Ne.symm hzero)
    have hshare : (numerator : ℚ) / denominator ≤ 1 := by
      rw [div_le_one hpositive]
      exact_mod_cast hle
    linarith

theorem percentage_eq_hundred_iff (hdenominator : denominator ≠ 0) :
    percentage numerator denominator = 100 ↔ numerator = denominator := by
  have hnonzero : (denominator : ℚ) ≠ 0 := by exact_mod_cast hdenominator
  rw [percentage_eq, if_neg hdenominator, mul_eq_right₀ (by norm_num), div_eq_one_iff_eq hnonzero]
  exact Int.cast_inj

/-- Shares of one total add up. -/
theorem sum_percentage (numerators : List Int) (denominator : Int) :
    (numerators.map fun numerator => percentage numerator denominator).sum =
      percentage numerators.sum denominator := by
  induction numerators with
  | nil => simp [percentage_eq]
  | cons numerator numerators ih =>
      rw [List.map_cons, List.sum_cons, List.sum_cons, ih]
      simp only [percentage_eq]
      split
      · exact add_zero 0
      · push_cast
        ring

theorem percentage_mul (hdenominator : denominator ≠ 0) {parts : Int} (hparts : parts ≠ 0) :
    percentage numerator (denominator * parts) = percentage numerator denominator / parts := by
  have hnonzero : (denominator : ℚ) ≠ 0 := by exact_mod_cast hdenominator
  have hnonzero' : (parts : ℚ) ≠ 0 := by exact_mod_cast hparts
  rw [percentage_eq, percentage_eq, if_neg hdenominator, if_neg (mul_ne_zero hdenominator hparts)]
  push_cast
  field_simp

/-! ### The profile -/

/-- The calls of `_percentage`: numerator, denominator and what is reported. -/
def percentageCalls (profiled : ProfileResult) : List (Int × Int × ℚ) :=
  profiled.columns.flatMap (fun column =>
    [(column.nullCount, profiled.summary.rowCount, column.nullPercentage),
      (column.distinctCount, profiled.summary.rowCount, column.distinctPercentage)]) ++
  [(profiled.dataQuality.nullCellCount, profiled.dataQuality.totalCellCount,
    profiled.dataQuality.nullPercentage),
    (profiled.dataQuality.duplicateRowCount, profiled.summary.rowCount,
      profiled.dataQuality.duplicateRowPercentage)]

structure CountsFit (profiled : ProfileResult) : Prop where
  nulls_and_values : ∀ column ∈ profiled.columns,
    column.nullCount + column.distinctCount ≤ profiled.summary.rowCount
  no_value_iff : 0 < profiled.summary.rowCount → ∀ column ∈ profiled.columns,
    (column.distinctCount = 0 ↔ column.nullCount = profiled.summary.rowCount)
  division_defined :
    ∀ call ∈ percentageCalls profiled, checkedPercentage call.1 call.2.1 = some call.2.2
  in_range : ∀ call ∈ percentageCalls profiled, 0 ≤ call.2.2 ∧ call.2.2 ≤ 100
  mean : 0 < profiled.summary.rowCount → profiled.dataQuality.nullPercentage =
    (profiled.columns.map ColumnProfile.nullPercentage).sum / profiled.columns.length
  empty_columns : 0 < profiled.summary.rowCount → profiled.dataQuality.emptyColumnCount =
    profiled.columns.countP fun column => column.nullPercentage = 100
  duplicates_lt : 0 < profiled.summary.rowCount → 0 < profiled.summary.columnCount →
    profiled.dataQuality.duplicateRowCount < profiled.summary.rowCount

variable {V : Type} [DecidableEq V]

/-! ### One column -/

/-- What is reported of a column of a table with so many rows. -/
structure ColumnFits (rowCount : Int) (column : ColumnProfile) : Prop where
  nullCount_nonneg : 0 ≤ column.nullCount
  distinctCount_nonneg : 0 ≤ column.distinctCount
  counts_le : column.nullCount + column.distinctCount ≤ rowCount
  no_value_iff : column.distinctCount = 0 ↔ column.nullCount = rowCount
  nullPercentage_eq : column.nullPercentage = percentage column.nullCount rowCount
  distinctPercentage_eq : column.distinctPercentage = percentage column.distinctCount rowCount

variable (polars : Polars) (dataframe : DataFrame V)

theorem columnFits_describeAs (i : Fin dataframe.width) :
    ColumnFits dataframe.height (describeAs polars dataframe i i) where
  nullCount_nonneg := Int.natCast_nonneg _
  distinctCount_nonneg := Int.natCast_nonneg _
  counts_le := by
    have hcounts := dataframe.distinctCount_add_nullCount_le i
    show (dataframe.nullCount i : Int) + dataframe.distinctCount i ≤ dataframe.height
    omega
  no_value_iff := by
    show (dataframe.distinctCount i : Int) = 0 ↔ (dataframe.nullCount i : Int) = dataframe.height
    rw [Int.natCast_eq_zero, Int.ofNat_inj]
    exact dataframe.distinctCount_eq_zero_iff i
  nullPercentage_eq := rfl
  distinctPercentage_eq := rfl

theorem columnFits_of_mem :
    ∀ column ∈ described polars dataframe, ColumnFits dataframe.height column := by
  intro column hcolumn
  obtain ⟨i, -, rfl⟩ := List.mem_map.mp hcolumn
  exact columnFits_describeAs polars dataframe i

/-! ### The whole table -/

theorem nullCellCount_nonneg :
    0 ≤ ((described polars dataframe).map ColumnProfile.nullCount).sum := by
  apply List.sum_nonneg
  intro nullCount hmem
  obtain ⟨column, hcolumn, rfl⟩ := List.mem_map.mp hmem
  exact (columnFits_of_mem polars dataframe column hcolumn).nullCount_nonneg

theorem nullCellCount_le :
    ((described polars dataframe).map ColumnProfile.nullCount).sum ≤
      dataframe.height * dataframe.width := by
  have hbound : ∀ nullCount ∈ (described polars dataframe).map ColumnProfile.nullCount,
      nullCount ≤ dataframe.height := by
    intro nullCount hmem
    obtain ⟨column, hcolumn, rfl⟩ := List.mem_map.mp hmem
    have hfits := columnFits_of_mem polars dataframe column hcolumn
    have hdistinct := hfits.distinctCount_nonneg
    have hle := hfits.counts_le
    omega
  have hsum := List.sum_le_card_nsmul _ _ hbound
  rw [List.length_map, length_described, nsmul_eq_mul, mul_comm] at hsum
  exact hsum

theorem sum_nullPercentage :
    ((described polars dataframe).map ColumnProfile.nullPercentage).sum =
      percentage ((described polars dataframe).map ColumnProfile.nullCount).sum
        dataframe.height := by
  rw [← sum_percentage, List.map_map]
  apply congrArg List.sum
  apply List.map_congr_left
  intro column hcolumn
  exact (columnFits_of_mem polars dataframe column hcolumn).nullPercentage_eq

section Result

variable (tables : CaseTables) (result : TabularLoadResult V)

/-- Every call is on a part and its total. -/
theorem percentageCalls_describedResult :
    ∀ call ∈ percentageCalls (describedResult tables polars result),
      0 ≤ call.1 ∧ call.1 ≤ call.2.1 ∧ call.2.2 = percentage call.1 call.2.1 := by
  intro call hcall
  rw [percentageCalls, List.mem_append, List.mem_flatMap] at hcall
  rcases hcall with ⟨column, hcolumn, hcall⟩ | hcall
  · obtain ⟨hnull, hdistinct, hle, -, hnullPercentage, hdistinctPercentage⟩ :=
      columnFits_of_mem polars result.dataframe column hcolumn
    have hnullLe : column.nullCount ≤ result.dataframe.height := by omega
    have hdistinctLe : column.distinctCount ≤ result.dataframe.height := by omega
    simp only [List.mem_cons, List.not_mem_nil, or_false] at hcall
    rcases hcall with rfl | rfl
    · exact ⟨hnull, hnullLe, hnullPercentage⟩
    · exact ⟨hdistinct, hdistinctLe, hdistinctPercentage⟩
  · simp only [List.mem_cons, List.not_mem_nil, or_false] at hcall
    rcases hcall with rfl | rfl
    · exact ⟨nullCellCount_nonneg polars result.dataframe,
        nullCellCount_le polars result.dataframe, rfl⟩
    · have hunique := result.dataframe.uniqueHeight_le_height
      show (0 : Int) ≤ result.dataframe.height - result.dataframe.uniqueHeight ∧
        (result.dataframe.height : Int) - result.dataframe.uniqueHeight ≤
          result.dataframe.height ∧ _
      exact ⟨by omega, by omega, rfl⟩

theorem mean_describedResult (hrows : 0 < result.dataframe.height) :
    (describedResult tables polars result).dataQuality.nullPercentage =
      ((described polars result.dataframe).map ColumnProfile.nullPercentage).sum /
        (described polars result.dataframe).length := by
  have hheight : (result.dataframe.height : Int) ≠ 0 := by omega
  have hwidth : (result.dataframe.width : Int) ≠ 0 := by
    have hpositive := DataFrame.width_pos_of_height_pos hrows
    omega
  show percentage ((described polars result.dataframe).map ColumnProfile.nullCount).sum
    (result.dataframe.height * result.dataframe.width) = _
  rw [sum_nullPercentage, length_described, percentage_mul hheight hwidth, Int.cast_natCast]

theorem emptyColumnCount_describedResult (hrows : 0 < result.dataframe.height) :
    (describedResult tables polars result).dataQuality.emptyColumnCount =
      (described polars result.dataframe).countP fun column => column.nullPercentage = 100 := by
  have hheight : (result.dataframe.height : Int) ≠ 0 := by omega
  show (if (result.dataframe.height : Int) = 0 then (0 : Int) else
    (described polars result.dataframe).countP fun column =>
      column.nullCount = (result.dataframe.height : Int)) = _
  rw [if_neg hheight]
  apply congrArg
  apply List.countP_congr
  intro column hcolumn
  rw [decide_eq_true_eq, decide_eq_true_eq,
    (columnFits_of_mem polars _ column hcolumn).nullPercentage_eq]
  exact (percentage_eq_hundred_iff hheight).symm

theorem countsFit_describedResult : CountsFit (describedResult tables polars result) where
  nulls_and_values :=
    fun column hcolumn => (columnFits_of_mem polars result.dataframe column hcolumn).counts_le
  no_value_iff :=
    fun _ column hcolumn => (columnFits_of_mem polars result.dataframe column hcolumn).no_value_iff
  division_defined := by
    intro call hcall
    obtain ⟨-, -, hpercentage⟩ := percentageCalls_describedResult polars tables result call hcall
    rw [checkedPercentage_eq, hpercentage]
  in_range := by
    intro call hcall
    obtain ⟨hnumerator, hle, hpercentage⟩ :=
      percentageCalls_describedResult polars tables result call hcall
    rw [hpercentage]
    exact ⟨percentage_nonneg hnumerator hle, percentage_le_hundred hnumerator hle⟩
  mean := fun hrows => mean_describedResult polars tables result (Int.natCast_pos.mp hrows)
  empty_columns :=
    fun hrows => emptyColumnCount_describedResult polars tables result (Int.natCast_pos.mp hrows)
  duplicates_lt := by
    intro hrows _
    have hunique := DataFrame.uniqueHeight_pos (Int.natCast_pos.mp hrows)
    show (result.dataframe.height : Int) - result.dataframe.uniqueHeight < result.dataframe.height
    omega

end Result

/-- **The counts of a profile fit together.** -/
theorem profile_counts_fit (tables : CaseTables) (polars : Polars) {result : TabularLoadResult V}
    (hliteral : result.dataframe.LiteralNames) :
    ∃ profiled, profile tables polars result = .ok profiled ∧
      profiled.summary.rowCount = result.dataframe.height ∧
      profiled.summary.columnCount = result.dataframe.width ∧
      profiled.columns.length = result.dataframe.width ∧ CountsFit profiled :=
  ⟨_, profile_of_literal tables polars hliteral, rfl, rfl, length_described polars result.dataframe,
    countsFit_describedResult polars tables result⟩

theorem profile_counts_fit_sample :
    ∃ profiled, profile CaseTables.ascii ⟨anchoredLiteral, fun _ => ""⟩ sampleTable = .ok profiled ∧
      profiled.summary.rowCount = 2 ∧ profiled.summary.columnCount = 3 ∧
      profiled.columns.length = 3 ∧
      CountsFit profiled :=
  profile_counts_fit CaseTables.ascii ⟨anchoredLiteral, fun _ => ""⟩
    (by decide : sampleTable.dataframe.LiteralNames)

end Athena.DatasetProfiler
