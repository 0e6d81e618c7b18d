import Mathlib.Algebra.BigOperators.Group.List.Basic
import Athena.Profiling.ColumnAttribution

/-!
# What a profile does not depend on

A profile is made of counts, which do not see the order of the rows, and of lists over the columns,
which follow the order of the columns and nothing else. So permuted rows have the same profile, and
permuted columns the same profile with its lists permuted.
-/

namespace Athena

open Library

variable {V : Type} [DecidableEq V]

namespace DataFrame

/-! ### Counts of permuted tables -/

section Rows

variable {frame : DataFrame V} {rows : List (Fin frame.width → Option V)}
  {hrows : frame.width = 0 → rows = []} (h : rows.Perm frame.rows)

include h

omit [DecidableEq V] in
theorem height_of_perm : (frame.withRows rows hrows).height = frame.height := h.length_eq

theorem uniqueHeight_of_perm : (frame.withRows rows hrows).uniqueHeight = frame.uniqueHeight :=
  h.dedup.length_eq

omit [DecidableEq V] in
theorem column_of_perm (i : Fin frame.width) :
    ((frame.withRows rows hrows).column i).Perm (frame.column i) :=
  h.map _

theorem nullCount_of_perm (i : Fin frame.width) :
    (frame.withRows rows hrows).nullCount i = frame.nullCount i :=
  (column_of_perm h i).count_eq none

theorem distinctCount_of_perm (i : Fin frame.width) :
    (frame.withRows rows hrows).distinctCount i = frame.distinctCount i :=
  ((column_of_perm h i).filterMap id).dedup.length_eq

end Rows

section Columns

variable (frame : DataFrame V) (σ : Equiv.Perm (Fin frame.width)) (i : Fin frame.width)

omit [DecidableEq V] in
theorem column_permuteColumns : (frame.permuteColumns σ).column i = frame.column (σ i) := by
  rw [column, List.map_map]
  rfl

omit [DecidableEq V] in
theorem height_permuteColumns : (frame.permuteColumns σ).height = frame.height := List.length_map _

theorem nullCount_permuteColumns : (frame.permuteColumns σ).nullCount i = frame.nullCount (σ i) :=
  congrArg (List.count none) (column_permuteColumns frame σ i)

theorem distinctCount_permuteColumns :
    (frame.permuteColumns σ).distinctCount i = frame.distinctCount (σ i) :=
  congrArg (fun column => column.reduceOption.dedup.length) (column_permuteColumns frame σ i)

theorem uniqueHeight_permuteColumns :
    (frame.permuteColumns σ).uniqueHeight = frame.uniqueHeight := by
  have hinjective : Function.Injective fun (row : Fin frame.width → Option V) i => row (σ i) := by
    intro row row' hrow
    funext i
    have hvalue := congrFun hrow (σ.symm i)
    simpa using hvalue
  rw [uniqueHeight, List.dedup_map_of_injective hinjective, List.length_map]
  rfl

end Columns

end DataFrame

namespace DatasetProfiler

/-! ### Permuted rows -/

section Rows

variable {frame : DataFrame V} {rows : List (Fin frame.width → Option V)}
  {hrows : frame.width = 0 → rows = []} (h : rows.Perm frame.rows) (polars : Polars)

include h

theorem described_of_perm :
    described polars (frame.withRows rows hrows) = described polars frame := by
  apply List.map_congr_left
  intro i _
  simp only [describeAs, DataFrame.nullCount_of_perm h, DataFrame.distinctCount_of_perm h,
    DataFrame.height_of_perm h]

theorem profileDataQuality_of_perm (columns : List ColumnProfile) :
    profileDataQuality (frame.withRows rows hrows) columns = profileDataQuality frame columns := by
  simp only [profileDataQuality, DataFrame.uniqueHeight_of_perm h, DataFrame.height_of_perm h]

theorem recommendations_of_perm (tables : CaseTables) :
    recommendations tables polars (frame.withRows rows hrows) =
      recommendations tables polars frame := by
  have hunique : ∀ i, isUnique (frame.withRows rows hrows) i = isUnique frame i := by
    intro i
    simp only [isUnique, DataFrame.nullCount_of_perm h, DataFrame.distinctCount_of_perm h,
      DataFrame.height_of_perm h]
  have hkey : isKey tables polars (frame.withRows rows hrows) = isKey tables polars frame := by
    funext i
    simp only [isKey, hunique]
  have hidentifier :
      isIdentifier tables (frame.withRows rows hrows) = isIdentifier tables frame := by
    funext i
    simp only [isIdentifier, hunique]
  simp only [recommendations, hkey, hidentifier, categoricalLimit,
    DataFrame.distinctCount_of_perm h, DataFrame.height_of_perm h]
  rfl

end Rows

/-! ### Permuted columns -/

/-- The listed names, in the order of the columns. -/
def relist (columns names : List String) : List String := columns.filter (· ∈ names)

def relistRecommendations (columns : List String) (r : ProfileRecommendations) :
    ProfileRecommendations where
  potentialPrimaryKeys := relist columns r.potentialPrimaryKeys
  identifierColumns := relist columns r.identifierColumns
  categoricalColumns := relist columns r.categoricalColumns
  numericMeasures := relist columns r.numericMeasures
  dateDimensions := relist columns r.dateDimensions

/-- The same names in every list. -/
structure SameNames (r r' : ProfileRecommendations) : Prop where
  potentialPrimaryKeys : r.potentialPrimaryKeys.Perm r'.potentialPrimaryKeys
  identifierColumns : r.identifierColumns.Perm r'.identifierColumns
  categoricalColumns : r.categoricalColumns.Perm r'.categoricalColumns
  numericMeasures : r.numericMeasures.Perm r'.numericMeasures
  dateDimensions : r.dateDimensions.Perm r'.dateDimensions

section Columns

variable (tables : CaseTables) (polars : Polars) (frame : DataFrame V)
  (σ : Equiv.Perm (Fin frame.width))

theorem describeAs_permuteColumns (i : Fin frame.width) :
    describeAs polars (frame.permuteColumns σ) i i = describeAs polars frame (σ i) (σ i) := by
  simp only [describeAs, DataFrame.nullCount_permuteColumns, DataFrame.distinctCount_permuteColumns,
    DataFrame.height_permuteColumns]

theorem described_permuteColumns :
    described polars (frame.permuteColumns σ) =
      ((List.finRange frame.width).map σ).map fun i => describeAs polars frame i i := by
  rw [List.map_map]
  exact List.map_congr_left fun i _ => describeAs_permuteColumns polars frame σ i

theorem described_permuteColumns_perm :
    (described polars (frame.permuteColumns σ)).Perm (described polars frame) := by
  rw [described_permuteColumns]
  exact σ.map_finRange_perm.map _

/-- The totals over the columns do not depend on their order. -/
theorem profileDataQuality_permuteColumns {columns columns' : List ColumnProfile}
    (h : columns.Perm columns') :
    profileDataQuality (frame.permuteColumns σ) columns = profileDataQuality frame columns' := by
  simp only [profileDataQuality, DataFrame.uniqueHeight_permuteColumns,
    DataFrame.height_permuteColumns, (h.map ColumnProfile.nullCount).sum_eq, h.countP_eq]

omit [DecidableEq V] in
theorem columnsWhere_permuteColumns (test : Fin frame.width → Bool) :
    columnsWhere (frame.permuteColumns σ) (fun i => test (σ i)) =
      relist (frame.permuteColumns σ).columns (columnsWhere frame test) := by
  rw [relist, columns_filter]
  apply congrArg
  funext i
  rw [Bool.eq_iff_iff, decide_eq_true_eq, mem_columnsWhere]

omit [DecidableEq V] in
theorem relist_perm (test : Fin frame.width → Bool) :
    (relist (frame.permuteColumns σ).columns (columnsWhere frame test)).Perm
      (columnsWhere frame test) := by
  rw [← columnsWhere_permuteColumns]
  have hnames : columnsWhere (frame.permuteColumns σ) (fun i => test (σ i)) =
      (((List.finRange frame.width).map σ).filter test).map frame.name := by
    rw [List.filter_map, List.map_map]
    rfl
  rw [hnames]
  exact (σ.map_finRange_perm.filter test).map _

theorem isUnique_permuteColumns (i : Fin frame.width) :
    isUnique (frame.permuteColumns σ) i = isUnique frame (σ i) := by
  simp only [isUnique, DataFrame.nullCount_permuteColumns, DataFrame.distinctCount_permuteColumns,
    DataFrame.height_permuteColumns]

theorem recommendations_permuteColumns :
    recommendations tables polars (frame.permuteColumns σ) =
      relistRecommendations (frame.permuteColumns σ).columns
        (recommendations tables polars frame) := by
  have hkey : isKey tables polars (frame.permuteColumns σ) = fun i =>
      isKey tables polars frame (σ i) := by
    funext i
    simp only [isKey, isUnique_permuteColumns]
  have hidentifier : isIdentifier tables (frame.permuteColumns σ) = fun i =>
      isIdentifier tables frame (σ i) := by
    funext i
    simp only [isIdentifier, isUnique_permuteColumns]
  rw [recommendations, recommendations, DataFrame.height_permuteColumns]
  split
  · simp [relistRecommendations, relist]
  · simp only [relistRecommendations, ← columnsWhere_permuteColumns, hkey, hidentifier,
      categoricalLimit, DataFrame.distinctCount_permuteColumns, DataFrame.height_permuteColumns]
    rfl

theorem sameNames_permuteColumns :
    SameNames (recommendations tables polars (frame.permuteColumns σ))
      (recommendations tables polars frame) := by
  rw [recommendations_permuteColumns, recommendations]
  split
  · constructor <;> simp [relistRecommendations, relist]
  · constructor <;> exact relist_perm frame σ _

end Columns

/-- **Order does not matter.** Where names are literal, permuted rows have the same columns, data
quality and recommendations; permuted columns have the same data quality, their profiles permuted
alike, and the same recommended names, listed in the new order of the columns. -/
theorem profile_equivariant (tables : CaseTables) (polars : Polars) {result : TabularLoadResult V}
    (hliteral : result.dataframe.LiteralNames) :
    ∃ profiled, profile tables polars result = .ok profiled ∧
      (∀ (other : TabularLoadResult V) rows hrows,
        other.dataframe = result.dataframe.withRows rows hrows →
        rows.Perm result.dataframe.rows →
        ∃ profiled', profile tables polars other = .ok profiled' ∧
        profiled'.columns = profiled.columns ∧
          profiled'.dataQuality = profiled.dataQuality ∧
            profiled'.recommendations = profiled.recommendations) ∧
      ∀ (other : TabularLoadResult V) σ, other.dataframe = result.dataframe.permuteColumns σ →
        ∃ profiled', profile tables polars other = .ok profiled' ∧
        profiled'.dataQuality = profiled.dataQuality ∧
          (∃ column : Fin result.dataframe.width → ColumnProfile,
            profiled.columns = List.ofFn column ∧ profiled'.columns = List.ofFn fun i =>
              column (σ i)) ∧
          profiled'.recommendations =
            relistRecommendations other.dataframe.columns profiled.recommendations ∧
          SameNames profiled'.recommendations profiled.recommendations := by
  refine ⟨_, profile_of_literal tables polars hliteral, ?_, ?_⟩
  · rintro ⟨asset, frame, size⟩ rows hrows hframe hperm
    obtain rfl : frame = result.dataframe.withRows rows hrows := hframe
    have hother : (result.dataframe.withRows rows hrows).LiteralNames := hliteral
    refine ⟨_, profile_of_literal tables polars hother, described_of_perm hperm polars, ?_,
      recommendations_of_perm hperm polars tables⟩
    simp only [describedResult]
    rw [described_of_perm hperm, profileDataQuality_of_perm hperm]
  · rintro ⟨asset, frame, size⟩ σ hframe
    obtain rfl : frame = result.dataframe.permuteColumns σ := hframe
    have hother : (result.dataframe.permuteColumns σ).LiteralNames := fun i => hliteral (σ i)
    refine ⟨_, profile_of_literal tables polars hother,
      profileDataQuality_permuteColumns result.dataframe σ
        (described_permuteColumns_perm polars result.dataframe σ),
      ⟨fun i => describeAs polars result.dataframe i i, ?_, ?_⟩,
      recommendations_permuteColumns tables polars result.dataframe σ,
      sameNames_permuteColumns tables polars result.dataframe σ⟩
    · rw [List.ofFn_eq_map]
      rfl
    · rw [List.ofFn_eq_map]
      exact List.map_congr_left fun i _ => describeAs_permuteColumns polars result.dataframe σ i

/-- A key and a number. -/
def totalsTable : TabularLoadResult Nat where
  asset := ⟨"sales.csv", "sales", "csv", "file:///sales.csv", 24, ""⟩
  dataframe := {
    width := 2
    name := fun i => ["id", "total"].get i
    dtype := fun i => [.int64, .float64].get i
    rows := [fun i => [some 1, some 5].get i, fun i => [some 2, some 5].get i]
    name_injective := by decide
    rows_of_width_zero := nofun }
  estimatedSizeBytes := 32

theorem profile_equivariant_sample :
    ∃ profiled profiled', profile CaseTables.ascii ⟨anchoredLiteral, fun _ => ""⟩ totalsTable =
      .ok profiled ∧
      profile CaseTables.ascii ⟨anchoredLiteral, fun _ => ""⟩
        { totalsTable with dataframe := totalsTable.dataframe.permuteColumns Fin.revPerm } =
          .ok profiled' ∧
      profiled'.dataQuality = profiled.dataQuality ∧
      profiled'.recommendations =
        relistRecommendations ["total", "id"] profiled.recommendations := by
  obtain ⟨profiled, hprofile, -, hcolumns⟩ :=
    profile_equivariant CaseTables.ascii ⟨anchoredLiteral, fun _ => ""⟩
    (by decide : totalsTable.dataframe.LiteralNames)
  obtain ⟨profiled', hprofile', hquality, -, hrecommendations, -⟩ :=
    hcolumns { totalsTable with
      dataframe := totalsTable.dataframe.permuteColumns Fin.revPerm } Fin.revPerm rfl
  exact ⟨profiled, profiled', hprofile, hprofile', hquality, hrecommendations⟩

end DatasetProfiler

end Athena
