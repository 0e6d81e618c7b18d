import Athena.Profiling.Profiler

/-!
# Which column a profile describes

Polars reads a column name as an expression: `*` is every column, a name between `^` and `$` is a
regular expression, and only another name is the column itself. The profile therefore describes each
column under its own name exactly when every name selects one column with the same counts; over
every table with given column names, exactly when every name selects its own column.
-/

namespace Athena.DatasetProfiler

variable {V : Type} [DecidableEq V]

/-- The profile has the name and the counts of column `i`. -/
structure Describes (dataframe : DataFrame V) (i : Fin dataframe.width) (column : ColumnProfile) :
    Prop where
  name : column.name = dataframe.name i
  nullCount : column.nullCount = (dataframe.nullCount i : Int)
  distinctCount : column.distinctCount = (dataframe.distinctCount i : Int)

/-- The `i`-th profile describes the `i`-th column. -/
def DescribesColumns (dataframe : DataFrame V) (columns : List ColumnProfile) : Prop :=
  List.Forall₂ (Describes dataframe) (List.finRange dataframe.width) columns

def Attributes (tables : CaseTables) (polars : Polars) (result : TabularLoadResult V) : Prop :=
  ∃ profiled, profile tables polars result = .ok profiled ∧
    DescribesColumns result.dataframe profiled.columns

/-- The same names and types over other rows. -/
def withRows (result : TabularLoadResult V) (rows : List (Fin result.dataframe.width → Option V))
    (hrows : result.dataframe.width = 0 → rows = []) : TabularLoadResult V :=
  { result with dataframe := { result.dataframe with rows := rows, rows_of_width_zero := hrows } }

omit [DecidableEq V] in
theorem selected_withRows (polars : Polars) (result : TabularLoadResult V)
    (rows : List (Fin result.dataframe.width → Option V))
    (hrows : result.dataframe.width = 0 → rows = [])
    (selector : String) :
    (withRows result rows hrows).dataframe.selected polars selector =
      result.dataframe.selected polars selector := rfl

theorem describeAs_congr (polars : Polars) {dataframe : DataFrame V} {i j : Fin dataframe.width}
    (hnull : dataframe.nullCount j = dataframe.nullCount i)
    (hdistinct : dataframe.distinctCount j = dataframe.distinctCount i) :
    describeAs polars dataframe i j = describeAs polars dataframe i i := by
  rw [describeAs, describeAs, hnull, hdistinct]

theorem describesColumns_described (polars : Polars) (dataframe : DataFrame V) :
    DescribesColumns dataframe (described polars dataframe) := by
  rw [DescribesColumns, described, List.forall₂_map_right_iff, List.forall₂_same]
  exact fun i _ => ⟨rfl, rfl, rfl⟩

/-- One column is selected for each name, and it has the counts of the column of that name. -/
theorem attributes_iff (tables : CaseTables) (polars : Polars) (result : TabularLoadResult V) :
    Attributes tables polars result ↔
      ∀ i, ∃ j, result.dataframe.selected polars (result.dataframe.name i) = .ok [j] ∧
        result.dataframe.nullCount j = result.dataframe.nullCount i ∧
        result.dataframe.distinctCount j = result.dataframe.distinctCount i := by
  constructor
  · rintro ⟨profiled, hprofile, hdescribes⟩ i
    obtain ⟨j, hselected, rfl⟩ := profile_ok hprofile
    rw [DescribesColumns, describedResultAs, describedAs, List.forall₂_map_right_iff,
      List.forall₂_same] at hdescribes
    obtain ⟨-, hnull, hdistinct⟩ := hdescribes i (List.mem_finRange i)
    exact ⟨j i, hselected i, Int.ofNat_inj.mp hnull, Int.ofNat_inj.mp hdistinct⟩
  · intro h
    choose j hselected hnull hdistinct using h
    have hcolumns := profileColumns_of_selected hselected
    have hdescribed : ((List.finRange result.dataframe.width).map fun i =>
        describeAs polars result.dataframe i (j i)) =
        described polars result.dataframe := by
      apply List.map_congr_left
      exact fun i _ => describeAs_congr polars (hnull i) (hdistinct i)
    rw [hdescribed] at hcolumns
    exact ⟨_, profile_of_described tables hcolumns,
      describesColumns_described polars result.dataframe⟩

theorem attributes_of_literal (tables : CaseTables) (polars : Polars) {result : TabularLoadResult V}
    (h : result.dataframe.LiteralNames) : Attributes tables polars result :=
  (attributes_iff tables polars result).mpr fun i => ⟨i, h.selected polars i, rfl, rfl⟩

/-- One row, with a null in column `i` only. -/
def nullOnlyAt [Inhabited V] {width : Nat} (i : Fin width) : List (Fin width → Option V) :=
  [fun j => if j = i then none else some default]

theorem eq_of_nullCount_nullOnlyAt [Inhabited V] {dataframe : DataFrame V}
    {i j : Fin dataframe.width}
    (hrows : dataframe.rows = nullOnlyAt i) (h : dataframe.nullCount j = dataframe.nullCount i) :
    j = i := by
  by_contra hne
  simp [DataFrame.nullCount, DataFrame.column, hrows, nullOnlyAt, hne] at h

/-- **Which tables are profiled column by column.** A table is, exactly when every name selects one
column, with as many nulls and as many distinct values as the column of that name. All tables over
the same names are, exactly when every name selects its own column. -/
theorem profile_describes_columns_iff [Inhabited V] (tables : CaseTables) (polars : Polars)
    (result : TabularLoadResult V) :
    (Attributes tables polars result ↔
      ∀ i, ∃ j, result.dataframe.selected polars (result.dataframe.name i) = .ok [j] ∧
        result.dataframe.nullCount j = result.dataframe.nullCount i ∧
        result.dataframe.distinctCount j = result.dataframe.distinctCount i) ∧
    ((∀ rows hrows, Attributes tables polars (withRows result rows hrows)) ↔
      ∀ i, result.dataframe.selected polars (result.dataframe.name i) = .ok [i]) := by
  refine ⟨attributes_iff tables polars result, fun h i => ?_, fun h rows hrows => ?_⟩
  · have hwidth : result.dataframe.width ≠ 0 := Nat.ne_of_gt (Nat.zero_lt_of_lt i.isLt)
    have hattributes := h (nullOnlyAt i) fun hzero => absurd hzero hwidth
    obtain ⟨j, hselected, hnull, -⟩ := (attributes_iff _ _ _).mp hattributes i
    have hsame : j = i := eq_of_nullCount_nullOnlyAt rfl hnull
    rwa [selected_withRows, hsame] at hselected
  · rw [attributes_iff]
    intro i
    exact ⟨i, (selected_withRows polars result rows hrows _).trans (h i), rfl, rfl⟩

/-- The regular expressions that are a literal name between anchors. -/
def anchoredLiteral (pattern : String) : Option (String → Bool) :=
  let body := pattern.toList.tail.dropLast
  if body.all Char.isAlphanum then some fun name => name.toList = body else none

/-- Two columns, the second named by a pattern that matches the first. -/
def anchoredTable : TabularLoadResult Nat where
  asset := ⟨"sales.csv", "sales", "csv", "file:///sales.csv", 14, ""⟩
  dataframe := {
    width := 2
    name := fun i => ["a", "^a$"].get i
    dtype := fun _ => .int64
    rows := [fun i => [some 1, some 1].get i, fun i => [none, some 2].get i]
    name_injective := by decide
    rows_of_width_zero := nofun }
  estimatedSizeBytes := 32

/-- The counts of the first column are reported for the second. -/
theorem profile_misattributes_pattern_name :
    (∃ profiled, profile CaseTables.ascii ⟨anchoredLiteral, fun _ => ""⟩ anchoredTable =
      .ok profiled ∧
      profiled.columns.map ColumnProfile.nullCount = [1, 1]) ∧
    anchoredTable.dataframe.nullCount ⟨1, by decide⟩ = 0 ∧
    ¬Attributes CaseTables.ascii ⟨anchoredLiteral, fun _ => ""⟩ anchoredTable := by
  refine ⟨⟨_, rfl, rfl⟩, rfl, fun h => ?_⟩
  obtain ⟨j, hselected, hnull, -⟩ := (attributes_iff _ _ _).mp h ⟨1, by decide⟩
  have hfirst : anchoredTable.dataframe.selected ⟨anchoredLiteral, fun _ => ""⟩ "^a$" =
      .ok [⟨0, by decide⟩] := rfl
  obtain rfl := List.head_eq_of_cons_eq (Except.ok.inj (hfirst.symm.trans hselected))
  exact absurd hnull (by decide)

end Athena.DatasetProfiler
