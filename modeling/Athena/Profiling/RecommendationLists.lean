import Mathlib.Logic.Basic
import Athena.Profiling.Classification

/-!
# The recommendation lists as one classification

Each list keeps the columns that pass a test of its own, so it is a sublist of the columns. The
measures leave out the keys and the identifiers by name; identifiers are keys, and the names are
distinct, so a numeric column is a measure exactly if it is no key. Categories, measures and dates
are of types that exclude each other, whatever the counts.
-/

namespace Athena

namespace DataType

variable {t : DataType}

theorem not_isNumeric_of_isTextType (h : t.isTextType = true) : t.isNumeric = false := by
  cases t <;> simp_all [isTextType, isNumeric]

theorem not_isDateType_of_isTextType (h : t.isTextType = true) : t.isDateType = false := by
  cases t <;> simp_all [isTextType, isDateType]

theorem not_isDateType_of_isNumeric (h : t.isNumeric = true) : t.isDateType = false := by
  cases t <;> simp_all [isNumeric, isDateType]

end DataType

namespace DatasetProfiler

variable {V : Type} [DecidableEq V]

structure Consistent (dataframe : DataFrame V) (recommendations : ProfileRecommendations) :
    Prop where
  sublist : ∀ names ∈ lists recommendations, names.Sublist dataframe.columns
  nodup : ∀ names ∈ lists recommendations, names.Nodup
  identifiers_are_keys :
    recommendations.identifierColumns.Sublist recommendations.potentialPrimaryKeys
  key_or_measure : dataframe.height ≠ 0 → ∀ i, (dataframe.dtype i).isNumeric = true →
    Xor (dataframe.name i ∈ recommendations.potentialPrimaryKeys)
      (dataframe.name i ∈ recommendations.numericMeasures)
  measures_numeric : ∀ name ∈ recommendations.numericMeasures,
    ∃ i, dataframe.name i = name ∧ (dataframe.dtype i).isNumeric = true
  disjoint : [recommendations.categoricalColumns, recommendations.numericMeasures,
    recommendations.dateDimensions].Pairwise List.Disjoint
  empty : dataframe.height = 0 → ∀ names ∈ lists recommendations, names = []

omit [DecidableEq V] in
theorem columns_nodup (dataframe : DataFrame V) : dataframe.columns.Nodup :=
  List.nodup_ofFn.mpr dataframe.name_injective

section Source

variable {tables : CaseTables} {polars : Polars} {dataframe : DataFrame V}
  {source : Fin dataframe.width → Fin dataframe.width}

theorem identifierColumns_sublist :
    (recommendationsAs tables polars dataframe source).identifierColumns.Sublist
      (recommendationsAs tables polars dataframe source).potentialPrimaryKeys := by
  rw [recommendationsAs]
  split
  · exact List.Sublist.slnil
  · apply columnsWhere_sublist
    intro i hidentifier
    rw [isIdentifierAs, Bool.and_eq_true] at hidentifier
    rw [isKeyAs, hidentifier.1, hidentifier.2]
    rfl

/-- Of the numeric columns, the measures are those that are no keys. -/
theorem mem_numericMeasures_iff_not_key {i : Fin dataframe.width} (hrows : dataframe.height ≠ 0)
    (hnumeric : (dataframe.dtype i).isNumeric = true) :
    dataframe.name i ∈ (recommendationsAs tables polars dataframe source).numericMeasures ↔
      dataframe.name i ∉
        (recommendationsAs tables polars dataframe source).potentialPrimaryKeys := by
  rw [mem_numericMeasures_iff]
  constructor
  · intro h
    exact h.2.2.1
  · intro hkey
    exact ⟨hrows, hnumeric, hkey, fun hidentifier =>
      hkey (identifierColumns_sublist.subset hidentifier)⟩

theorem isNumeric_of_mem_numericMeasures {i : Fin dataframe.width}
    (h : dataframe.name i ∈ (recommendationsAs tables polars dataframe source).numericMeasures) :
    (dataframe.dtype i).isNumeric = true :=
  ((mem_numericMeasures_iff i).mp h).2.1

theorem isTextType_of_mem_categoricalColumns {i : Fin dataframe.width}
    (h : dataframe.name i ∈ (recommendationsAs tables polars dataframe source).categoricalColumns) :
    (dataframe.dtype i).isTextType = true := by
  have hstring := ((mem_categoricalColumns_iff i).mp h).2.1
  rw [isString_eq, Bool.and_eq_true] at hstring
  exact hstring.1

theorem isDateType_of_mem_dateDimensions {i : Fin dataframe.width}
    (h : dataframe.name i ∈ (recommendationsAs tables polars dataframe source).dateDimensions) :
    (dataframe.dtype i).isDateType = true :=
  ((mem_dateDimensions_iff_isDateType i).mp h).2

/-- Two lists are disjoint where the types of their columns are. -/
theorem disjoint_of_types {names names' : List String} {type type' : DataType → Bool}
    (hnames : names ∈ lists (recommendationsAs tables polars dataframe source))
    (htype : ∀ i, dataframe.name i ∈ names → type (dataframe.dtype i) = true)
    (htype' : ∀ i, dataframe.name i ∈ names' → type' (dataframe.dtype i) = true)
    (hexclusive : ∀ {t}, type t = true → type' t = false) : names.Disjoint names' := by
  intro name hname hname'
  obtain ⟨i, rfl⟩ := exists_name_of_mem_lists hnames hname
  have hother := htype' i hname'
  rw [hexclusive (htype i hname)] at hother
  exact Bool.noConfusion hother

theorem consistent_recommendationsAs :
    Consistent dataframe (recommendationsAs tables polars dataframe source) where
  sublist := fun _ => sublist_columns_of_mem_lists
  nodup := fun _ hnames => (sublist_columns_of_mem_lists hnames).nodup (columns_nodup dataframe)
  identifiers_are_keys := identifierColumns_sublist
  key_or_measure := by
    intro hrows i hnumeric
    rw [xor_iff_not_iff, mem_numericMeasures_iff_not_key hrows hnumeric]
    exact iff_not_self
  measures_numeric := by
    intro name hname
    obtain ⟨i, rfl⟩ := exists_name_of_mem_lists (numericMeasures_mem_lists _) hname
    exact ⟨i, rfl, isNumeric_of_mem_numericMeasures hname⟩
  disjoint := by
    simp only [List.pairwise_cons, List.mem_cons, List.not_mem_nil, or_false, forall_eq_or_imp,
      forall_eq, false_implies, implies_true, List.Pairwise.nil, and_true]
    refine ⟨⟨?_, ?_⟩, ?_⟩
    · exact disjoint_of_types (categoricalColumns_mem_lists _)
        (fun _ => isTextType_of_mem_categoricalColumns)
        (fun _ => isNumeric_of_mem_numericMeasures) DataType.not_isNumeric_of_isTextType
    · exact disjoint_of_types (categoricalColumns_mem_lists _)
        (fun _ => isTextType_of_mem_categoricalColumns)
        (fun _ => isDateType_of_mem_dateDimensions) DataType.not_isDateType_of_isTextType
    · exact disjoint_of_types (numericMeasures_mem_lists _)
        (fun _ => isNumeric_of_mem_numericMeasures)
        (fun _ => isDateType_of_mem_dateDimensions) DataType.not_isDateType_of_isNumeric
  empty := lists_of_no_rows

end Source

/-- **The lists classify the columns consistently.** -/
theorem profile_recommendations_consistent (tables : CaseTables) (polars : Polars)
    {result : TabularLoadResult V} (hliteral : result.dataframe.LiteralNames) :
    ∃ profiled, profile tables polars result = .ok profiled ∧
      Consistent result.dataframe profiled.recommendations :=
  ⟨_, profile_of_literal tables polars hliteral, consistent_recommendationsAs⟩

theorem profile_recommendations_consistent_enum :
    ∃ profiled, profile CaseTables.ascii ⟨anchoredLiteral, enumParameters⟩ enumTable =
      .ok profiled ∧
      Consistent enumTable.dataframe profiled.recommendations :=
  profile_recommendations_consistent CaseTables.ascii ⟨anchoredLiteral, enumParameters⟩
    (by decide : enumTable.dataframe.LiteralNames)

end DatasetProfiler

end Athena
