import Mathlib.Data.List.OfFn
import Athena.Library.Segmentation
import Athena.Loaders.Models
import Athena.Profiling.Models
import Athena.Python.Text

/-!
# The dataset profiler

`profile` asks Polars for two counts of every column in one query, each under an alias that carries
the column's index, and reads them back by alias. The column is named to Polars by its name, which
Polars interprets; where all names are taken literally, `profile_of_literal` gives the whole result
in terms of the columns.
-/

namespace Athena.DatasetProfiler

open Library

/-! ### Names and types -/

def IDENTIFIER_SUFFIXES : List String := ["_id", "_key", "_code", "_uuid"]

def IDENTIFIER_NAMES : List String := ["id", "key", "uuid", "identifier", "code"]

def isIdentifierName (tables : CaseTables) (name : String) : Bool :=
  let normalized := Text.lower tables (Text.strip name)
  normalized ∈ IDENTIFIER_NAMES || IDENTIFIER_SUFFIXES.any (Text.endsWith normalized)

def identifierPattern (tables : CaseTables) (name : String) : Option String :=
  let normalized := Text.lower tables (Text.strip name)
  if normalized ∈ IDENTIFIER_NAMES then some ("name:" ++ normalized)
  else (IDENTIFIER_SUFFIXES.find? (Text.endsWith normalized)).map fun suffix => "suffix:" ++ suffix

theorem isSome_identifierPattern (tables : CaseTables) (name : String) :
    (identifierPattern tables name).isSome = isIdentifierName tables name := by
  rw [identifierPattern, isIdentifierName]
  by_cases hname : Text.lower tables (Text.strip name) ∈ IDENTIFIER_NAMES
  · simp [hname]
  · simp only [hname, if_false, Option.isSome_map, decide_false, Bool.false_or]
    exact List.isSome_find?

def isInteger (polars : Polars) (dataType : DataType) : Bool :=
  let text := dataType.str polars.parameters
  Text.startsWith text "Int" || Text.startsWith text "UInt"

def isString (polars : Polars) (dataType : DataType) : Bool :=
  dataType.str polars.parameters ∈ ["String", "Categorical", "Enum"]

def isDateDimension (polars : Polars) (dataType : DataType) : Bool :=
  let text := dataType.str polars.parameters
  Text.startsWith text "Date" || Text.startsWith text "Datetime"

/-! ### Profiling -/

/-- Python's `/`, which raises at zero. -/
def trueDivision (numerator denominator : Int) : Option ℚ :=
  if denominator = 0 then none else some (numerator / denominator)

/-- `_percentage`, which divides only where it can. -/
def checkedPercentage (numerator denominator : Int) : Option ℚ :=
  if denominator ≠ 0 then (trueDivision numerator denominator).map (· * 100) else some 0

theorem isSome_checkedPercentage (numerator denominator : Int) :
    (checkedPercentage numerator denominator).isSome := by
  rw [checkedPercentage]
  split
  · rename_i hnonzero
    rw [Option.isSome_map, trueDivision, if_neg hnonzero]
    rfl
  · rfl

def percentage (numerator denominator : Int) : ℚ :=
  (checkedPercentage numerator denominator).get (isSome_checkedPercentage numerator denominator)

theorem checkedPercentage_eq (numerator denominator : Int) :
    checkedPercentage numerator denominator = some (percentage numerator denominator) :=
  (Option.some_get _).symm

theorem percentage_eq (numerator denominator : Int) :
    percentage numerator denominator = if denominator = 0 then 0
      else (numerator : ℚ) / denominator * 100 := by
  apply Option.some.inj
  rw [← checkedPercentage_eq, checkedPercentage]
  by_cases hzero : denominator = 0
  · rw [if_neg (not_not_intro hzero), if_pos hzero]
  · rw [if_pos hzero, if_neg hzero, trueDivision, if_neg hzero, Option.map_some]

def statistic (statistics : List (String × Nat)) (name : String) : Except PolarsError Int := do
  let value ← getColumn statistics name
  return value

variable {V : Type} [DecidableEq V]

def nullCountAlias (index : Nat) : String := "null_count_" ++ toString index

def distinctCountAlias (index : Nat) : String := "distinct_count_" ++ toString index

def expressions (dataframe : DataFrame V) : List Expr :=
  dataframe.columns.zipIdx.flatMap fun (name, index) =>
    [⟨name, .nullCount, nullCountAlias index⟩, ⟨name, .distinctCount, distinctCountAlias index⟩]

def statisticsOf (polars : Polars) (dataframe : DataFrame V) :
    Except PolarsError (List (String × Nat)) :=
  if (expressions dataframe).isEmpty then .ok []
    else dataframe.select polars (expressions dataframe)

def profileColumns (polars : Polars) (dataframe : DataFrame V) :
    Except PolarsError (List ColumnProfile) := do
  let statistics ← statisticsOf polars dataframe
  let rowCount : Int := dataframe.height
  dataframe.columns.zipIdx.mapM fun (name, index) => do
    let dataType ← dataframe.schema name
    let nullCount ← statistic statistics (nullCountAlias index)
    let distinctCount ← statistic statistics (distinctCountAlias index)
    return {
      name := name
      dataType := dataType.str polars.parameters
      nullCount := nullCount
      nullPercentage := percentage nullCount rowCount
      distinctCount := distinctCount
      distinctPercentage := percentage distinctCount rowCount }

def profileDataQuality (dataframe : DataFrame V) (columns : List ColumnProfile) :
    DataQualityProfile :=
  let rowCount : Int := dataframe.height
  let totalCellCount := rowCount * dataframe.width
  let nullCellCount := (columns.map ColumnProfile.nullCount).sum
  let duplicateRowCount := rowCount - dataframe.uniqueHeight
  { totalCellCount := totalCellCount
    nullCellCount := nullCellCount
    nullPercentage := percentage nullCellCount totalCellCount
    duplicateRowCount := duplicateRowCount
    duplicateRowPercentage := percentage duplicateRowCount rowCount
    emptyColumnCount := if rowCount = 0 then 0 else columns.countP fun column =>
      column.nullCount = rowCount }

/-- The names of the columns that pass the test, in order. -/
def namesWhere (columns : List ColumnProfile) (test : ColumnProfile → Except PolarsError Bool) :
    Except PolarsError (List String) := do
  let kept ← columns.mapM fun column => (test column).map fun passes => if passes then [column.name]
    else []
  return kept.flatten

def CATEGORICAL_CARDINALITY_LIMIT : Int := 50

/-- `row_count * 0.5`, rounded down; from 2 ^ 53 on the product is rounded, and the limit above is
less than either. -/
def halfOf (rowCount : Int) : Int := rowCount / 2

/-! The conditions of the five comprehensions of `_recommend`. -/

def isPotentialPrimaryKey (tables : CaseTables) (polars : Polars) (dataframe : DataFrame V)
    (column : ColumnProfile) :
    Except PolarsError Bool :=
  if column.nullCount = 0 ∧ column.distinctCount = dataframe.height then
    if isIdentifierName tables column.name then .ok true
    else (dataframe.schema column.name).map (isInteger polars)
  else .ok false

def isIdentifierColumn (tables : CaseTables) (dataframe : DataFrame V) (column : ColumnProfile) :
    Except PolarsError Bool :=
  .ok (isIdentifierName tables column.name && column.nullCount = 0 &&
    column.distinctCount = dataframe.height)

def isCategoricalColumn (polars : Polars) (dataframe : DataFrame V) (limit : Int)
    (column : ColumnProfile) :
    Except PolarsError Bool :=
  (dataframe.schema column.name).map fun t => isString polars t && column.distinctCount ≤ limit

def isNumericMeasure (dataframe : DataFrame V) (primaryKeys identifiers : List String)
    (column : ColumnProfile) :
    Except PolarsError Bool :=
  (dataframe.schema column.name).map fun t =>
    t.isNumeric && column.name ∉ primaryKeys && column.name ∉ identifiers

def isDateColumn (polars : Polars) (dataframe : DataFrame V) (column : ColumnProfile) :
    Except PolarsError Bool :=
  (dataframe.schema column.name).map (isDateDimension polars)

def recommend (tables : CaseTables) (polars : Polars) (dataframe : DataFrame V)
    (columns : List ColumnProfile) :
    Except PolarsError ProfileRecommendations :=
  if dataframe.height = 0 then .ok ⟨[], [], [], [], []⟩
  else do
    let primaryKeys ← namesWhere columns (isPotentialPrimaryKey tables polars dataframe)
    let identifiers ← namesWhere columns (isIdentifierColumn tables dataframe)
    let categoricalLimit := min CATEGORICAL_CARDINALITY_LIMIT (max 1 (halfOf dataframe.height))
    let categorical ← namesWhere columns (isCategoricalColumn polars dataframe categoricalLimit)
    let numericMeasures ← namesWhere columns (isNumericMeasure dataframe primaryKeys identifiers)
    let dateDimensions ← namesWhere columns (isDateColumn polars dataframe)
    return {
      potentialPrimaryKeys := primaryKeys
      identifierColumns := identifiers
      categoricalColumns := categorical
      numericMeasures := numericMeasures
      dateDimensions := dateDimensions }

def profile (tables : CaseTables) (polars : Polars) (result : TabularLoadResult V) :
    Except PolarsError ProfileResult := do
  let dataframe := result.dataframe
  let columnProfiles ← profileColumns polars dataframe
  let recommendations ← recommend tables polars dataframe columnProfiles
  return {
    summary := {
      reference := result.asset.reference
      name := result.asset.name
      rowCount := dataframe.height
      columnCount := dataframe.width
      estimatedSizeBytes := result.estimatedSizeBytes }
    columns := columnProfiles
    dataQuality := profileDataQuality dataframe columnProfiles
    recommendations := recommendations }

/-! ### What the two counts say -/

theorem toString_injective {i j : Nat} (h : toString i = toString j) : i = j := by
  have hdigits : Nat.toDigits 10 i = Nat.toDigits 10 j := by
    rw [← Nat.toList_repr, ← Nat.toList_repr]
    exact congrArg String.toList h
  rw [← Nat.ofDigitChars_ten_toDigits (n := i), hdigits, Nat.ofDigitChars_ten_toDigits]

theorem nullCountAlias_injective {i j : Nat} (h : nullCountAlias i = nullCountAlias j) : i = j :=
  toString_injective ((String.append_right_inj _).mp h)

theorem distinctCountAlias_injective {i j : Nat} (h : distinctCountAlias i = distinctCountAlias j) :
    i = j :=
  toString_injective ((String.append_right_inj _).mp h)

theorem nullCountAlias_ne_distinctCountAlias (i j : Nat) :
    nullCountAlias i ≠ distinctCountAlias j := by
  intro h
  have htexts : "null_count_" ++ toString i = "distinct_count_" ++ toString j := h
  have hfirst := congrArg (fun text => text.toList.head?) htexts
  simp at hfirst

omit [DecidableEq V] in
theorem zipIdx_columns (dataframe : DataFrame V) :
    dataframe.columns.zipIdx = (List.finRange dataframe.width).map fun i =>
      (dataframe.name i, i.val) := by
  apply List.ext_getElem
  · simp [DataFrame.columns]
  · intro i hi hi'
    simp [DataFrame.columns]

def nullCountExpr (dataframe : DataFrame V) (i : Fin dataframe.width) : Expr :=
  ⟨dataframe.name i, .nullCount, nullCountAlias i⟩

def distinctCountExpr (dataframe : DataFrame V) (i : Fin dataframe.width) : Expr :=
  ⟨dataframe.name i, .distinctCount, distinctCountAlias i⟩

omit [DecidableEq V] in
theorem expressions_eq (dataframe : DataFrame V) :
    expressions dataframe = (List.finRange dataframe.width).flatMap fun i =>
      [nullCountExpr dataframe i, distinctCountExpr dataframe i] := by
  rw [expressions, zipIdx_columns, List.flatMap_map]
  rfl

omit [DecidableEq V] in
theorem mem_expressions (dataframe : DataFrame V) (e : Expr) :
    e ∈ expressions dataframe ↔ ∃ i, e = nullCountExpr dataframe i ∨
      e = distinctCountExpr dataframe i := by
  simp [expressions_eq]

omit [DecidableEq V] in
theorem aliases_nodup (dataframe : DataFrame V) :
    ((expressions dataframe).map Expr.aliasName).Nodup := by
  rw [expressions_eq, List.map_flatMap, List.nodup_flatMap]
  constructor
  · intro i _
    simpa [nullCountExpr, distinctCountExpr] using nullCountAlias_ne_distinctCountAlias i i
  · apply (List.nodup_finRange dataframe.width).imp
    intro i j hij name hi hj
    have hne : (i : Nat) ≠ j := fun h => hij (Fin.ext h)
    simp only [nullCountExpr, distinctCountExpr, List.map_cons, List.map_nil, List.mem_cons,
      List.not_mem_nil, or_false] at hi hj
    rcases hi with rfl | rfl <;> rcases hj with hj | hj
    · exact hne (nullCountAlias_injective hj)
    · exact nullCountAlias_ne_distinctCountAlias i j hj
    · exact nullCountAlias_ne_distinctCountAlias j i hj.symm
    · exact hne (distinctCountAlias_injective hj)

/-- The profile of column `i` where Polars took column `j` for it. -/
def describeAs (polars : Polars) (dataframe : DataFrame V) (i j : Fin dataframe.width) :
    ColumnProfile where
  name := dataframe.name i
  dataType := (dataframe.dtype i).str polars.parameters
  nullCount := dataframe.nullCount j
  nullPercentage := percentage (dataframe.nullCount j) dataframe.height
  distinctCount := dataframe.distinctCount j
  distinctPercentage := percentage (dataframe.distinctCount j) dataframe.height

theorem statisticsOf_ok {polars : Polars} {dataframe : DataFrame V}
    {statistics : List (String × Nat)}
    (h : statisticsOf polars dataframe = .ok statistics) (i : Fin dataframe.width) :
    ∃ indices, dataframe.selected polars (dataframe.name i) = .ok indices ∧ indices.length ≤ 1 ∧
      statistics.lookup (nullCountAlias i) = indices.head?.map dataframe.nullCount ∧
      statistics.lookup (distinctCountAlias i) = indices.head?.map dataframe.distinctCount := by
  have hnull : nullCountExpr dataframe i ∈ expressions dataframe :=
    (mem_expressions _ _).mpr ⟨i, .inl rfl⟩
  have hdistinct : distinctCountExpr dataframe i ∈ expressions dataframe :=
    (mem_expressions _ _).mpr ⟨i, .inr rfl⟩
  have hnonempty : ¬(expressions dataframe).isEmpty = true := by
    rw [List.isEmpty_iff]
    exact List.ne_nil_of_mem hnull
  rw [statisticsOf, if_neg hnonempty] at h
  obtain ⟨indices, hindices, hlength, hlookup⟩ :=
    DataFrame.select_ok h (aliases_nodup dataframe) hnull
  obtain ⟨indices', hindices', -, hlookup'⟩ :=
    DataFrame.select_ok h (aliases_nodup dataframe) hdistinct
  obtain rfl : indices = indices' := Except.ok.inj (hindices.symm.trans hindices')
  exact ⟨indices, hindices, hlength, hlookup, hlookup'⟩

theorem statisticsOf_returns {polars : Polars} {dataframe : DataFrame V}
    {j : Fin dataframe.width → Fin dataframe.width}
    (hselected : ∀ i, dataframe.selected polars (dataframe.name i) = .ok [j i]) :
    ∃ statistics, statisticsOf polars dataframe = .ok statistics := by
  rw [statisticsOf]
  split
  · exact ⟨[], rfl⟩
  · apply DataFrame.select_returns (aliases_nodup dataframe)
    intro e he
    obtain ⟨i, rfl | rfl⟩ := (mem_expressions dataframe e).mp he
    · exact ⟨[j i], hselected i, Nat.le_refl 1⟩
    · exact ⟨[j i], hselected i, Nat.le_refl 1⟩

/-- Where Polars takes one column for each name, the profiles follow. -/
theorem profileColumns_of_selected {polars : Polars} {dataframe : DataFrame V}
    {j : Fin dataframe.width → Fin dataframe.width}
    (hselected : ∀ i, dataframe.selected polars (dataframe.name i) = .ok [j i]) :
    profileColumns polars dataframe =
      .ok ((List.finRange dataframe.width).map fun i => describeAs polars dataframe i (j i)) := by
  obtain ⟨statistics, hstatistics⟩ := statisticsOf_returns hselected
  have hlookup : ∀ i :
      Fin dataframe.width, statistics.lookup (nullCountAlias i) = some (dataframe.nullCount (j i)) ∧
      statistics.lookup (distinctCountAlias i) = some (dataframe.distinctCount (j i)) := by
    intro i
    obtain ⟨indices, hindices, -, hnull, hdistinct⟩ := statisticsOf_ok hstatistics i
    obtain rfl : [j i] = indices := Except.ok.inj ((hselected i).symm.trans hindices)
    exact ⟨hnull, hdistinct⟩
  rw [profileColumns, zipIdx_columns, hstatistics]
  simp only [bind, Except.bind, List.mapM_map]
  apply mapM_eq_ok_map
  intro i _
  rw [Function.comp_apply, DataFrame.schema_name]
  simp only [statistic, getColumn, hlookup i, bind, Except.bind, pure, Except.pure]
  rfl

/-- A profile is there exactly when Polars takes one column for each name. -/
theorem profileColumns_ok {polars : Polars} {dataframe : DataFrame V} {columns : List ColumnProfile}
    (h : profileColumns polars dataframe = .ok columns) :
    ∃ j : Fin dataframe.width → Fin dataframe.width,
      (∀ i, dataframe.selected polars (dataframe.name i) = .ok [j i]) ∧
        columns = (List.finRange dataframe.width).map fun i =>
          describeAs polars dataframe i (j i) := by
  have hone : ∀ i, ∃ j, dataframe.selected polars (dataframe.name i) = .ok [j] := by
    intro i
    cases hstatistics : statisticsOf polars dataframe with
    | error e => simp [profileColumns, hstatistics, bind, Except.bind] at h
    | ok statistics =>
        obtain ⟨indices, hindices, hlength, hnull, -⟩ := statisticsOf_ok hstatistics i
        rcases indices with _ | ⟨j, _ | ⟨j', indices⟩⟩
        · -- Nothing to read back under the alias.
          rw [profileColumns, zipIdx_columns, hstatistics] at h
          simp only [bind, Except.bind, List.mapM_map] at h
          obtain ⟨column, hcolumn⟩ := exists_ok_of_mapM h (List.mem_finRange i)
          simp [statistic, getColumn, hnull, bind, Except.bind] at hcolumn
        · exact ⟨j, hindices⟩
        · simp at hlength
  choose j hj using hone
  refine ⟨j, hj, ?_⟩
  rw [profileColumns_of_selected hj] at h
  exact (Except.ok.inj h).symm

/-! ### The result in terms of the columns -/

/-- The profiles where Polars took column `source i` for column `i`. -/
def describedAs (polars : Polars) (dataframe : DataFrame V)
    (source : Fin dataframe.width → Fin dataframe.width) :
    List ColumnProfile :=
  (List.finRange dataframe.width).map fun i => describeAs polars dataframe i (source i)

def described (polars : Polars) (dataframe : DataFrame V) : List ColumnProfile :=
  (List.finRange dataframe.width).map fun i => describeAs polars dataframe i i

theorem profileColumns_of_literal {dataframe : DataFrame V} (h : dataframe.LiteralNames)
    (polars : Polars) :
    profileColumns polars dataframe = .ok (described polars dataframe) :=
  profileColumns_of_selected (h.selected polars)

/-- A value in every row, and no value twice. -/
def isUnique (dataframe : DataFrame V) (i : Fin dataframe.width) : Bool :=
  dataframe.nullCount i = 0 && dataframe.distinctCount i = dataframe.height

def isKey (tables : CaseTables) (polars : Polars) (dataframe : DataFrame V)
    (i : Fin dataframe.width) : Bool :=
  isUnique dataframe i &&
    (isIdentifierName tables (dataframe.name i) || isInteger polars (dataframe.dtype i))

def isIdentifier (tables : CaseTables) (dataframe : DataFrame V) (i : Fin dataframe.width) : Bool :=
  isUnique dataframe i && isIdentifierName tables (dataframe.name i)

def categoricalLimit (dataframe : DataFrame V) : Int :=
  min CATEGORICAL_CARDINALITY_LIMIT (max 1 (halfOf dataframe.height))

def columnsWhere (dataframe : DataFrame V) (test : Fin dataframe.width → Bool) : List String :=
  ((List.finRange dataframe.width).filter test).map dataframe.name

omit [DecidableEq V] in
theorem mem_columnsWhere (dataframe : DataFrame V) (test : Fin dataframe.width → Bool)
    (i : Fin dataframe.width) :
    dataframe.name i ∈ columnsWhere dataframe test ↔ test i = true := by
  simp [columnsWhere, dataframe.name_injective.eq_iff]

omit [DecidableEq V] in
theorem columns_filter (dataframe : DataFrame V) (test : String → Bool) :
    dataframe.columns.filter test = columnsWhere dataframe fun i => test (dataframe.name i) := by
  rw [DataFrame.columns, columnsWhere, List.ofFn_eq_map, List.filter_map]
  rfl

omit [DecidableEq V] in
theorem columnsWhere_sublist {dataframe : DataFrame V} {test test' : Fin dataframe.width → Bool}
    (h : ∀ i, test i = true → test' i = true) :
    (columnsWhere dataframe test).Sublist (columnsWhere dataframe test') :=
  (List.monotone_filter_right _ h).map _

omit [DecidableEq V] in
theorem columnsWhere_sublist_columns (dataframe : DataFrame V) (test : Fin dataframe.width → Bool) :
    (columnsWhere dataframe test).Sublist dataframe.columns := by
  rw [columnsWhere, DataFrame.columns, List.ofFn_eq_map]
  exact List.filter_sublist.map _

/-- The recommendations for a frame whose columns are profiled as they are. -/
def recommendations (tables : CaseTables) (polars : Polars) (dataframe : DataFrame V) :
    ProfileRecommendations :=
  if dataframe.height = 0 then ⟨[], [], [], [], []⟩
  else {
    potentialPrimaryKeys := columnsWhere dataframe (isKey tables polars dataframe)
    identifierColumns := columnsWhere dataframe (isIdentifier tables dataframe)
    categoricalColumns := columnsWhere dataframe fun i =>
      isString polars (dataframe.dtype i) && dataframe.distinctCount i ≤ categoricalLimit dataframe
    numericMeasures := columnsWhere dataframe fun i =>
      (dataframe.dtype i).isNumeric && !isKey tables polars dataframe i &&
        !isIdentifier tables dataframe i
    dateDimensions := columnsWhere dataframe fun i => isDateDimension polars (dataframe.dtype i) }

section Source

variable (tables : CaseTables) (polars : Polars) (dataframe : DataFrame V)
  (source : Fin dataframe.width → Fin dataframe.width)

def isKeyAs (i : Fin dataframe.width) : Bool :=
  isUnique dataframe (source i) &&
    (isIdentifierName tables (dataframe.name i) || isInteger polars (dataframe.dtype i))

def isIdentifierAs (i : Fin dataframe.width) : Bool :=
  isUnique dataframe (source i) && isIdentifierName tables (dataframe.name i)

/-- The recommendations where the counts of column `i` are those of column `source i`. -/
def recommendationsAs : ProfileRecommendations :=
  if dataframe.height = 0 then ⟨[], [], [], [], []⟩
  else {
    potentialPrimaryKeys := columnsWhere dataframe (isKeyAs tables polars dataframe source)
    identifierColumns := columnsWhere dataframe (isIdentifierAs tables dataframe source)
    categoricalColumns := columnsWhere dataframe fun i =>
      isString polars (dataframe.dtype i) &&
        dataframe.distinctCount (source i) ≤ categoricalLimit dataframe
    numericMeasures := columnsWhere dataframe fun i =>
      (dataframe.dtype i).isNumeric && !isKeyAs tables polars dataframe source i &&
        !isIdentifierAs tables dataframe source i
    dateDimensions := columnsWhere dataframe fun i => isDateDimension polars (dataframe.dtype i) }

variable {polars dataframe source} in
theorem namesWhere_describedAs {test : ColumnProfile → Except PolarsError Bool}
    {passes : Fin dataframe.width → Bool}
    (h : ∀ i, test (describeAs polars dataframe i (source i)) = .ok (passes i)) :
    namesWhere (describedAs polars dataframe source) test =
      .ok (columnsWhere dataframe passes) := by
  have hkept : (describedAs polars dataframe source).mapM
      (fun column => (test column).map fun passes => if passes then [column.name] else []) =
        .ok ((List.finRange dataframe.width).map fun i =>
          if passes i then [dataframe.name i] else []) := by
    rw [describedAs, List.mapM_map]
    apply mapM_eq_ok_map
    intro i _
    rw [Function.comp_apply, h]
    rfl
  rw [namesWhere, hkept]
  simp only [bind, Except.bind, pure, Except.pure, flatten_map_ite, Bool.decide_eq_true]
  rw [columnsWhere, List.map_eq_flatMap]

theorem primaryKeys_describedAs :
    namesWhere (describedAs polars dataframe source)
      (isPotentialPrimaryKey tables polars dataframe) =
      .ok (columnsWhere dataframe (isKeyAs tables polars dataframe source)) := by
  apply namesWhere_describedAs
  intro i
  simp only [isPotentialPrimaryKey, describeAs, DataFrame.schema_name, isKeyAs, isUnique,
    Nat.cast_inj, Nat.cast_eq_zero]
  split
  · rename_i hunique
    cases hname : isIdentifierName tables (dataframe.name i) <;> simp [hunique, Except.map]
  · rename_i hunique
    simp [hunique]

theorem identifiers_describedAs :
    namesWhere (describedAs polars dataframe source) (isIdentifierColumn tables dataframe) =
      .ok (columnsWhere dataframe (isIdentifierAs tables dataframe source)) := by
  apply namesWhere_describedAs
  intro i
  simp only [isIdentifierColumn, describeAs, isIdentifierAs, isUnique, Nat.cast_inj,
    Nat.cast_eq_zero, Bool.and_assoc, Bool.and_comm]

theorem numericMeasures_describedAs :
    namesWhere (describedAs polars dataframe source)
      (isNumericMeasure dataframe (columnsWhere dataframe (isKeyAs tables polars dataframe source))
        (columnsWhere dataframe (isIdentifierAs tables dataframe source))) =
      .ok (columnsWhere dataframe fun i =>
        (dataframe.dtype i).isNumeric && !isKeyAs tables polars dataframe source i &&
          !isIdentifierAs tables dataframe source i) := by
  apply namesWhere_describedAs
  intro i
  simp only [isNumericMeasure, describeAs, DataFrame.schema_name, mem_columnsWhere, Except.map]
  simp

theorem categorical_describedAs (limit : Int) :
    namesWhere (describedAs polars dataframe source) (isCategoricalColumn polars dataframe limit) =
      .ok (columnsWhere dataframe fun i =>
        isString polars (dataframe.dtype i) && dataframe.distinctCount (source i) ≤ limit) := by
  apply namesWhere_describedAs
  intro i
  rw [isCategoricalColumn, describeAs, DataFrame.schema_name]
  rfl

theorem dateDimensions_describedAs :
    namesWhere (describedAs polars dataframe source) (isDateColumn polars dataframe) =
      .ok (columnsWhere dataframe fun i => isDateDimension polars (dataframe.dtype i)) := by
  apply namesWhere_describedAs
  intro i
  simp only [isDateColumn, describeAs, DataFrame.schema_name, Except.map]

theorem recommend_describedAs :
    recommend tables polars dataframe (describedAs polars dataframe source) =
      .ok (recommendationsAs tables polars dataframe source) := by
  rw [recommend, recommendationsAs]
  by_cases hempty : dataframe.height = 0
  · rw [if_pos hempty, if_pos hempty]
  · rw [if_neg hempty, if_neg hempty]
    simp only [primaryKeys_describedAs, identifiers_describedAs, numericMeasures_describedAs,
      categorical_describedAs, dateDimensions_describedAs, bind, Except.bind]
    rfl

end Source

theorem recommend_described (tables : CaseTables) (polars : Polars) (dataframe : DataFrame V) :
    recommend tables polars dataframe (described polars dataframe) =
      .ok (recommendations tables polars dataframe) :=
  recommend_describedAs tables polars dataframe fun i => i

/-- The result where Polars took column `source i` for column `i`. -/
def describedResultAs (tables : CaseTables) (polars : Polars) (result : TabularLoadResult V)
    (source : Fin result.dataframe.width → Fin result.dataframe.width) : ProfileResult where
  summary :=
    ⟨result.asset.reference, result.asset.name, result.dataframe.height, result.dataframe.width,
    result.estimatedSizeBytes⟩
  columns := describedAs polars result.dataframe source
  dataQuality := profileDataQuality result.dataframe (describedAs polars result.dataframe source)
  recommendations := recommendationsAs tables polars result.dataframe source

/-- The result for a table whose columns are profiled as they are. -/
def describedResult (tables : CaseTables) (polars : Polars) (result : TabularLoadResult V) :
    ProfileResult where
  summary :=
    ⟨result.asset.reference, result.asset.name, result.dataframe.height, result.dataframe.width,
    result.estimatedSizeBytes⟩
  columns := described polars result.dataframe
  dataQuality := profileDataQuality result.dataframe (described polars result.dataframe)
  recommendations := recommendations tables polars result.dataframe

theorem profile_of_described (tables : CaseTables) {polars : Polars} {result : TabularLoadResult V}
    (h : profileColumns polars result.dataframe = .ok (described polars result.dataframe)) :
    profile tables polars result = .ok (describedResult tables polars result) := by
  simp only [profile, h, recommend_described, bind, Except.bind, pure, Except.pure, describedResult]

theorem profile_of_literal (tables : CaseTables) (polars : Polars) {result : TabularLoadResult V}
    (h : result.dataframe.LiteralNames) :
    profile tables polars result = .ok (describedResult tables polars result) :=
  profile_of_described tables (profileColumns_of_literal h polars)

theorem length_described (polars : Polars) (dataframe : DataFrame V) :
    (described polars dataframe).length = dataframe.width := by
  rw [described, List.length_map, List.length_finRange]

/-- The columns and the rows of the table, all of them. -/
structure Covers (profiled : ProfileResult) (dataframe : DataFrame V) : Prop where
  rowCount : profiled.summary.rowCount = dataframe.height
  columnCount : profiled.summary.columnCount = dataframe.width
  length : profiled.columns.length = dataframe.width
  names : profiled.columns.map ColumnProfile.name = List.ofFn dataframe.name

theorem covers_describedResult (tables : CaseTables) (polars : Polars)
    (result : TabularLoadResult V) :
    Covers (describedResult tables polars result) result.dataframe where
  rowCount := rfl
  columnCount := rfl
  length := length_described polars result.dataframe
  names := by
    rw [describedResult, described, List.map_map, List.ofFn_eq_map]
    rfl

/-- Whatever is returned describes each column by the one that Polars took for its name. -/
theorem profile_ok {tables : CaseTables} {polars : Polars} {result : TabularLoadResult V}
    {profiled : ProfileResult} (h : profile tables polars result = .ok profiled) :
    ∃ source : Fin result.dataframe.width → Fin result.dataframe.width,
      (∀ i, result.dataframe.selected polars (result.dataframe.name i) = .ok [source i]) ∧
        profiled = describedResultAs tables polars result source := by
  cases hcolumns : profileColumns polars result.dataframe with
  | error e => simp [profile, hcolumns, bind, Except.bind] at h
  | ok columns =>
      obtain ⟨source, hselected, rfl⟩ := profileColumns_ok hcolumns
      refine ⟨source, hselected, ?_⟩
      have hrecommend := recommend_describedAs tables polars result.dataframe source
      simp only [describedAs] at hrecommend
      simp only [profile, hcolumns, hrecommend, bind, Except.bind, pure, Except.pure,
        Except.ok.injEq] at h
      exact h.symm

end Athena.DatasetProfiler
