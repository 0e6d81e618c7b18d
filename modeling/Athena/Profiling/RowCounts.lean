import Mathlib.Algebra.BigOperators.Fin
import Athena.Evidence.Recommendations

/-!
# How the column counts bound the number of distinct rows

Whole-row uniqueness keeps nulls, the distinct count of a column drops them. With a null counted as
one more value, the number of distinct rows lies between the largest count of a column and both the
number of rows and the product of the columns' counts.
-/

namespace Athena.DatasetProfiler

open Library

/-- The distinct values of a column, null being one. -/
def valueCount (column : ColumnProfile) : Int :=
  column.distinctCount + if 0 < column.nullCount then 1 else 0

/-- The rows that `unique` leaves. -/
def uniqueRowCount (profiled : ProfileResult) : Int :=
  profiled.summary.rowCount - profiled.dataQuality.duplicateRowCount

variable {V : Type} [DecidableEq V]

theorem valueCount_describeAs (polars : Polars) (dataframe : DataFrame V)
    (i : Fin dataframe.width) :
    valueCount (describeAs polars dataframe i i) = (dataframe.column i).dedup.length := by
  have hnull : (0 < (dataframe.nullCount i : Int)) ↔ none ∈ dataframe.column i := by
    rw [Int.natCast_pos]
    exact List.count_pos_iff
  rw [dedup_length_option, valueCount]
  change (dataframe.distinctCount i : Int) +
    (if 0 < (dataframe.nullCount i : Int) then 1 else 0) = _
  rw [if_congr hnull rfl rfl]
  push_cast
  rfl

theorem uniqueRowCount_describedResult (tables : CaseTables) (polars : Polars)
    (result : TabularLoadResult V) :
    uniqueRowCount (describedResult tables polars result) = result.dataframe.uniqueHeight := by
  change (result.dataframe.height : Int) -
    (result.dataframe.height - result.dataframe.uniqueHeight) = _
  omega

theorem column_le_uniqueHeight (dataframe : DataFrame V) (i : Fin dataframe.width) :
    (dataframe.column i).dedup.length ≤ dataframe.uniqueHeight :=
  dedup_length_map_le (fun row : Fin dataframe.width → Option V => row i) dataframe.rows

theorem uniqueHeight_le_prod (dataframe : DataFrame V) :
    dataframe.uniqueHeight ≤ ∏ i, (dataframe.column i).dedup.length :=
  dedup_length_rows_le_prod dataframe.rows

theorem valueCount_le_uniqueRowCount (tables : CaseTables) (polars : Polars)
    (result : TabularLoadResult V) :
    ∀ column ∈ (describedResult tables polars result).columns,
      valueCount column ≤ uniqueRowCount (describedResult tables polars result) := by
  intro column hcolumn
  obtain ⟨i, -, rfl⟩ := List.mem_map.mp hcolumn
  rw [valueCount_describeAs, uniqueRowCount_describedResult]
  exact_mod_cast column_le_uniqueHeight result.dataframe i

theorem uniqueRowCount_le_rowCount (tables : CaseTables) (polars : Polars)
    (result : TabularLoadResult V) :
    uniqueRowCount (describedResult tables polars result) ≤
      (describedResult tables polars result).summary.rowCount := by
  rw [uniqueRowCount_describedResult]
  exact Int.ofNat_le.mpr result.dataframe.uniqueHeight_le_height

theorem uniqueRowCount_le_prod (tables : CaseTables) (polars : Polars)
    (result : TabularLoadResult V) :
    uniqueRowCount (describedResult tables polars result) ≤
      ((describedResult tables polars result).columns.map valueCount).prod := by
  have hcounts : (describedResult tables polars result).columns.map valueCount =
      (List.finRange result.dataframe.width).map fun i =>
        ((result.dataframe.column i).dedup.length : Int) := by
    change (described polars result.dataframe).map valueCount = _
    rw [described, List.map_map]
    exact List.map_congr_left fun i _ => valueCount_describeAs polars result.dataframe i
  rw [uniqueRowCount_describedResult, hcounts, ← Fin.prod_univ_def]
  exact_mod_cast uniqueHeight_le_prod result.dataframe

theorem duplicateRowCount_eq_zero (tables : CaseTables) (polars : Polars)
    (result : TabularLoadResult V) {i : Fin result.dataframe.width}
    (h : result.dataframe.distinctCount i = result.dataframe.height) :
    (describedResult tables polars result).dataQuality.duplicateRowCount = 0 := by
  have hcolumn := column_le_uniqueHeight result.dataframe i
  have hrows := result.dataframe.uniqueHeight_le_height
  rw [dedup_length_option] at hcolumn
  have hdistinct : result.dataframe.distinctCount i ≤ result.dataframe.uniqueHeight :=
    Nat.le_trans (Nat.le_add_right _ _) hcolumn
  change (result.dataframe.height : Int) - result.dataframe.uniqueHeight = 0
  omega

theorem duplicateRowCount_of_column {tables : CaseTables} {polars : Polars}
    {result : TabularLoadResult V}
    {column : ColumnProfile} (hcolumn : column ∈ (describedResult tables polars result).columns)
    (hdistinct : column.distinctCount = result.dataframe.height) :
    (describedResult tables polars result).dataQuality.duplicateRowCount = 0 := by
  obtain ⟨i, -, rfl⟩ := List.mem_map.mp hcolumn
  exact duplicateRowCount_eq_zero tables polars result (Int.ofNat_inj.mp hdistinct)

theorem distinctCount_of_mem_keys {tables : CaseTables} {polars : Polars} {dataframe : DataFrame V}
    {name : String} (h : name ∈ (recommendations tables polars dataframe).potentialPrimaryKeys) :
    ∃ i, dataframe.distinctCount i = dataframe.height := by
  rw [recommendations] at h
  split at h
  · exact absurd h List.not_mem_nil
  · obtain ⟨i, hi, -⟩ := List.mem_map.mp h
    have hkey := (List.mem_filter.mp hi).2
    simp only [isKey, isUnique, Bool.and_eq_true, decide_eq_true_eq] at hkey
    exact ⟨i, hkey.1.2⟩

/-- **Distinct rows against distinct values.** -/
theorem profile_unique_rows_bounds (tables : CaseTables) (polars : Polars) (now : Datetime)
    (uuid4 : Nat → UUID) (datasetId analysisRunId : UUID) {result : TabularLoadResult V}
    (hliteral : result.dataframe.LiteralNames) :
    ∃ profiled, profile tables polars result = .ok profiled ∧ Covers profiled result.dataframe ∧
      (∀ column ∈ profiled.columns, valueCount column ≤ uniqueRowCount profiled) ∧
      uniqueRowCount profiled ≤
        min profiled.summary.rowCount (profiled.columns.map valueCount).prod ∧
      (∀ column ∈ profiled.columns, 0 < profiled.summary.rowCount →
        column.distinctCount = profiled.summary.rowCount →
          profiled.dataQuality.duplicateRowCount = 0) ∧
      (profiled.recommendations.potentialPrimaryKeys ≠ [] →
        profiled.dataQuality.duplicateRowCount = 0) ∧
      ((∃ item ∈ collectEvidence tables now uuid4 datasetId analysisRunId profiled,
        item.evidenceType = .uniqueness) →
        profiled.dataQuality.duplicateRowCount = 0) ∧
      ∀ column, profiled.columns = [column] → uniqueRowCount profiled = valueCount column := by
  have hupper := uniqueRowCount_le_prod tables polars result
  refine ⟨_, profile_of_literal tables polars hliteral, covers_describedResult tables polars result,
    valueCount_le_uniqueRowCount tables polars result,
      le_min (uniqueRowCount_le_rowCount tables polars result) hupper, ?_, ?_, ?_, ?_⟩
  · intro column hcolumn _ hdistinct
    exact duplicateRowCount_of_column hcolumn hdistinct
  · intro hkeys
    obtain ⟨name, hname⟩ := List.exists_mem_of_ne_nil _ hkeys
    obtain ⟨i, hdistinct⟩ := distinctCount_of_mem_keys hname
    exact duplicateRowCount_eq_zero tables polars result hdistinct
  · intro hitem
    obtain hleading | ⟨column, hcolumn, e, he, htype⟩ :=
      (exists_evidence_iff tables now uuid4 datasetId analysisRunId _ fun o =>
        o.1 = .uniqueness).mp hitem
    · cases hleading
    · obtain ⟨-, hdistinct⟩ := uniqueness_of_mem he htype
      exact duplicateRowCount_of_column hcolumn hdistinct
  · intro column hone
    apply le_antisymm
    · simpa [hone] using hupper
    · apply valueCount_le_uniqueRowCount
      rw [hone]
      exact List.mem_singleton_self column

theorem profile_unique_rows_bounds_sample :
    ∃ profiled, profile CaseTables.ascii ⟨anchoredLiteral, fun _ => ""⟩ sampleTable = .ok profiled ∧
      profiled.columns.length = 3 ∧
      (∀ column ∈ profiled.columns, valueCount column ≤ uniqueRowCount profiled) ∧
      uniqueRowCount profiled ≤
        min profiled.summary.rowCount (profiled.columns.map valueCount).prod := by
  obtain ⟨profiled, hprofile, hcovers, hlower, hupper, -⟩ :=
    profile_unique_rows_bounds CaseTables.ascii
    ⟨anchoredLiteral, fun _ => ""⟩ sampleNow (fun n => ⟨BitVec.ofNat 128 n⟩) ⟨1⟩ ⟨2⟩
    (by decide : sampleTable.dataframe.LiteralNames)
  exact ⟨profiled, hprofile, hcovers.length, hlower, hupper⟩

end Athena.DatasetProfiler
