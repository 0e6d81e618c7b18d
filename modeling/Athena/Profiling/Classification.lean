import Athena.Profiling.ColumnAttribution

/-!
# How columns are classified

The profiler reads a column's type from its printed form. A prefix of it tells integers and dates
apart from everything else, with or without parameters; the textual types are compared with whole
texts, which no type with parameters prints. Keys and categories are kept apart by their counts
alone: a key has as many values as rows, a category half as many at most, except that one value is
always few enough.
-/

namespace Athena

namespace DataType

/-! ### What the types are -/

def isIntegerType : DataType → Bool
  | int8 | int16 | int32 | int64 | int128 | uint8 | uint16 | uint32 | uint64 | uint128 => true
  | _ => false

def isDateType : DataType → Bool
  | date | datetime _ _ => true
  | _ => false

def isTextType : DataType → Bool
  | string | categorical _ | enum _ => true
  | _ => false

variable {parameters : DataType → String} {t : DataType}

theorem str_of_not_isParametrised (h : t.isParametrised = false) :
    t.str parameters = t.className := by
  rw [str, h]
  rfl

theorem toList_str_of_isParametrised (h : t.isParametrised = true) :
    (t.str parameters).toList = t.className.toList ++ '(' :: ((parameters t).toList ++ [')']) := by
  rw [str, if_pos h]
  simp [String.toList_append]

private theorem isPrefixOf_append_cons {c : Char} {start : List Char} (hstart : c ∉ start)
    (text rest : List Char) :
    start.isPrefixOf (text ++ c :: rest) = start.isPrefixOf text := by
  induction start generalizing text with
  | nil => rw [List.isPrefixOf_nil_left, List.isPrefixOf_nil_left]
  | cons d start ih =>
      obtain ⟨hne, hrest⟩ := List.ne_and_not_mem_of_not_mem_cons hstart
      cases text with
      | nil => simp [List.isPrefixOf, hne.symm]
      | cons e text => rw [List.cons_append, List.isPrefixOf, List.isPrefixOf, ih hrest]

/-- A start without a parenthesis is looked for in the constructor's name only. -/
theorem startsWith_str {start : String} (hstart : '(' ∉ start.toList) :
    Text.startsWith (t.str parameters) start = Text.startsWith t.className start := by
  cases h : t.isParametrised with
  | false => rw [str_of_not_isParametrised h]
  | true => rw [Text.startsWith, toList_str_of_isParametrised h, isPrefixOf_append_cons hstart,
      Text.startsWith]

end DataType

namespace DatasetProfiler

section Types

variable (polars : Polars) (t : DataType)

theorem isInteger_eq : isInteger polars t = t.isIntegerType := by
  rw [isInteger, DataType.startsWith_str (by decide), DataType.startsWith_str (by decide)]
  cases t <;> simp [DataType.className, DataType.isIntegerType, Text.startsWith, List.isPrefixOf]

theorem isDateDimension_eq : isDateDimension polars t = t.isDateType := by
  rw [isDateDimension, DataType.startsWith_str (by decide), DataType.startsWith_str (by decide)]
  cases t <;> simp [DataType.className, DataType.isDateType, Text.startsWith, List.isPrefixOf]

/-- A text with parameters is none of the three that are looked for. -/
theorem isString_eq : isString polars t = (t.isTextType && !t.isParametrised) := by
  rw [isString]
  cases h : t.isParametrised with
  | false =>
      rw [DataType.str_of_not_isParametrised h]
      cases t <;> simp_all [DataType.className, DataType.isTextType, DataType.isParametrised]
  | true =>
      have hparen : '(' ∈ (t.str polars.parameters).toList := by
        rw [DataType.toList_str_of_isParametrised h]
        exact List.mem_append_right _ List.mem_cons_self
      have hother : t.str polars.parameters ∉ ["String", "Categorical", "Enum"] := by
        intro hmem
        simp only [List.mem_cons, List.not_mem_nil, or_false] at hmem
        rcases hmem with htext | htext | htext
        all_goals
          rw [htext] at hparen
          exact absurd hparen (by decide)
      simp [hother]

/-- The three tests say what the type is. -/
structure ClassifiesType : Prop where
  isInteger : isInteger polars t = t.isIntegerType
  isDateDimension : isDateDimension polars t = t.isDateType
  isString : isString polars t = t.isTextType

theorem classifiesType_iff : ClassifiesType polars t ↔ ¬(t.isTextType ∧ t.isParametrised) := by
  constructor
  · rintro ⟨-, -, hstring⟩ ⟨htext, hparametrised⟩
    rw [isString_eq, htext, hparametrised] at hstring
    exact Bool.noConfusion hstring
  · intro h
    refine ⟨isInteger_eq polars t, isDateDimension_eq polars t, ?_⟩
    rw [isString_eq]
    cases htext : t.isTextType with
    | false => rfl
    | true =>
        have hplain : t.isParametrised = false := by simpa [htext] using h
        rw [hplain]
        rfl

end Types

/-- The five lists, in the order of the fields. -/
def lists (recommendations : ProfileRecommendations) : List (List String) :=
  [recommendations.potentialPrimaryKeys, recommendations.identifierColumns,
    recommendations.categoricalColumns, recommendations.numericMeasures,
    recommendations.dateDimensions]

theorem categoricalColumns_mem_lists (recommendations : ProfileRecommendations) :
    recommendations.categoricalColumns ∈ lists recommendations := by
  simp [lists]

theorem numericMeasures_mem_lists (recommendations : ProfileRecommendations) :
    recommendations.numericMeasures ∈ lists recommendations := by
  simp [lists]

variable {V : Type} [DecidableEq V]

section Source

variable {tables : CaseTables} {polars : Polars} {dataframe : DataFrame V}
  {source : Fin dataframe.width → Fin dataframe.width}

theorem lists_of_no_rows (h : dataframe.height = 0) :
    ∀ names ∈ lists (recommendationsAs tables polars dataframe source), names = [] := by
  intro names hnames
  rw [recommendationsAs, if_pos h] at hnames
  simpa [lists] using hnames

/-- Every list keeps the columns that pass some test. -/
theorem eq_columnsWhere_of_mem_lists {names : List String}
    (h : names ∈ lists (recommendationsAs tables polars dataframe source)) :
    ∃ test, names = columnsWhere dataframe test := by
  by_cases hempty : dataframe.height = 0
  · refine ⟨fun _ => false, ?_⟩
    rw [lists_of_no_rows hempty names h]
    simp [columnsWhere]
  · rw [recommendationsAs, if_neg hempty] at h
    simp only [lists, List.mem_cons, List.not_mem_nil, or_false] at h
    rcases h with h | h | h | h | h <;> exact ⟨_, h⟩

theorem sublist_columns_of_mem_lists {names : List String}
    (h : names ∈ lists (recommendationsAs tables polars dataframe source)) :
    names.Sublist dataframe.columns := by
  obtain ⟨test, rfl⟩ := eq_columnsWhere_of_mem_lists h
  exact columnsWhere_sublist_columns dataframe test

theorem exists_name_of_mem_lists {names : List String} {name : String}
    (h : names ∈ lists (recommendationsAs tables polars dataframe source)) (hname : name ∈ names) :
    ∃ i, dataframe.name i = name :=
  List.mem_ofFn.mp ((sublist_columns_of_mem_lists h).subset hname)

variable (i : Fin dataframe.width)

theorem mem_categoricalColumns_iff :
    dataframe.name i ∈ (recommendationsAs tables polars dataframe source).categoricalColumns ↔
      dataframe.height ≠ 0 ∧ isString polars (dataframe.dtype i) = true ∧
        dataframe.distinctCount (source i) ≤ categoricalLimit dataframe := by
  rw [recommendationsAs]
  split
  · rename_i hempty
    simp [hempty]
  · rename_i hrows
    simp [mem_columnsWhere, hrows]

theorem mem_potentialPrimaryKeys_iff :
    dataframe.name i ∈ (recommendationsAs tables polars dataframe source).potentialPrimaryKeys ↔
      dataframe.height ≠ 0 ∧ isUnique dataframe (source i) = true ∧
        (isIdentifierName tables (dataframe.name i) = true ∨
          isInteger polars (dataframe.dtype i) = true) := by
  rw [recommendationsAs]
  split
  · rename_i hempty
    simp [hempty]
  · rename_i hrows
    simp [mem_columnsWhere, isKeyAs, hrows]

theorem mem_identifierColumns_iff :
    dataframe.name i ∈ (recommendationsAs tables polars dataframe source).identifierColumns ↔
      dataframe.height ≠ 0 ∧ isUnique dataframe (source i) = true ∧
        isIdentifierName tables (dataframe.name i) = true := by
  rw [recommendationsAs]
  split
  · rename_i hempty
    simp [hempty]
  · rename_i hrows
    simp [mem_columnsWhere, isIdentifierAs, hrows]

theorem mem_numericMeasures_iff :
    dataframe.name i ∈ (recommendationsAs tables polars dataframe source).numericMeasures ↔
      dataframe.height ≠ 0 ∧ (dataframe.dtype i).isNumeric = true ∧
        dataframe.name i ∉ (recommendationsAs tables polars dataframe source).potentialPrimaryKeys ∧
        dataframe.name i ∉
          (recommendationsAs tables polars dataframe source).identifierColumns := by
  rw [recommendationsAs]
  split
  · rename_i hempty
    simp [hempty]
  · rename_i hrows
    simp [mem_columnsWhere, hrows, and_assoc]

theorem mem_dateDimensions_iff_isDateType :
    dataframe.name i ∈ (recommendationsAs tables polars dataframe source).dateDimensions ↔
      dataframe.height ≠ 0 ∧ (dataframe.dtype i).isDateType = true := by
  rw [recommendationsAs]
  split
  · rename_i hempty
    simp [hempty]
  · rename_i hrows
    rw [mem_columnsWhere, isDateDimension_eq]
    simp [hrows]

end Source

/-- **Which types are told apart.** The tests for integers and dates are right for every type, the
test for texts for every type that is no text with parameters; of the textual columns within the
limit those without parameters are listed, as soon as there is a row. -/
theorem types_classified_iff (tables : CaseTables) (polars : Polars) :
    (∀ t, ClassifiesType polars t ↔ ¬(t.isTextType ∧ t.isParametrised)) ∧
    ∀ (result : TabularLoadResult V) (profiled : ProfileResult),
      profile tables polars result = .ok profiled →
      ∀ column ∈ profiled.columns, ∀ t, result.dataframe.schema column.name = .ok t → t.isTextType →
        column.distinctCount ≤ categoricalLimit result.dataframe →
          (column.name ∈ profiled.recommendations.categoricalColumns ↔
            result.dataframe.height ≠ 0 ∧ ¬t.isParametrised) := by
  refine ⟨classifiesType_iff polars,
    fun result profiled hprofile column hcolumn t ht htext hlimit => ?_⟩
  obtain ⟨source, -, rfl⟩ := profile_ok hprofile
  obtain ⟨i, -, rfl⟩ := List.mem_map.mp hcolumn
  obtain rfl : result.dataframe.dtype i = t := by
    rw [describeAs, DataFrame.schema_name] at ht
    exact Except.ok.inj ht
  change result.dataframe.name i ∈
    (recommendationsAs tables polars result.dataframe source).categoricalColumns ↔ _
  change (result.dataframe.distinctCount (source i) : Int) ≤ _ at hlimit
  rw [mem_categoricalColumns_iff, isString_eq, htext]
  simp [hlimit]

/-- `categories=['a', 'b']` between the parentheses of an enumeration. -/
def enumParameters : DataType → String
  | .enum categories =>
      "categories=[" ++ ", ".intercalate (categories.map fun c => "'" ++ c ++ "'") ++ "]"
  | _ => ""

/-- The same words in a column of strings and in one of an enumeration. -/
def enumTable : TabularLoadResult Nat where
  asset := ⟨"orders.csv", "orders", "csv", "file:///orders.csv", 20, ""⟩
  dataframe := {
    width := 2
    name := fun i => ["city", "status"].get i
    dtype := fun i => [.string, .enum ["a", "b"]].get i
    rows := [fun i => [some 7, some 0].get i, fun i => [some 7, some 0].get i]
    name_injective := by decide
    rows_of_width_zero := nofun }
  estimatedSizeBytes := 32

theorem types_classified_iff_sample :
    ∃ profiled, profile CaseTables.ascii ⟨anchoredLiteral, enumParameters⟩ enumTable =
      .ok profiled ∧
      ("city" ∈ profiled.recommendations.categoricalColumns ↔
        enumTable.dataframe.height ≠ 0 ∧ ¬DataType.string.isParametrised) := by
  refine ⟨_, rfl, ?_⟩
  exact (types_classified_iff CaseTables.ascii ⟨anchoredLiteral, enumParameters⟩).2 enumTable _ rfl
    (describeAs ⟨anchoredLiteral, enumParameters⟩ enumTable.dataframe ⟨0, by decide⟩ ⟨0, by decide⟩)
    (List.mem_cons_self) .string rfl rfl (by decide)

/-- The enumeration is taken for no text, and its column, with one value in two rows, for no
category. -/
theorem enum_not_classified :
    ¬ClassifiesType ⟨anchoredLiteral, enumParameters⟩ (.enum ["a", "b"]) ∧
    enumTable.dataframe.distinctCount ⟨1, by decide⟩ ≤ categoricalLimit enumTable.dataframe ∧
    ∃ profiled, profile CaseTables.ascii ⟨anchoredLiteral, enumParameters⟩ enumTable =
      .ok profiled ∧
      profiled.recommendations.categoricalColumns = ["city"] := by
  refine ⟨fun h => ?_, by decide, _, rfl, by decide⟩
  exact absurd h.isString (by decide)

/-! ### Keys and categories -/

theorem distinctCount_add_nullCount_of_one_row {dataframe : DataFrame V} (h : dataframe.height = 1)
    (i : Fin dataframe.width) : dataframe.distinctCount i + dataframe.nullCount i = 1 := by
  obtain ⟨row, hrows⟩ := List.length_eq_one_iff.mp h
  rw [DataFrame.distinctCount, DataFrame.nullCount, DataFrame.column, hrows]
  cases hvalue : row i <;> simp [hvalue, List.reduceOption]

omit [DecidableEq V] in
/-- With two rows or more, half of them are fewer than all. -/
theorem categoricalLimit_lt_height {dataframe : DataFrame V} (h : 2 ≤ dataframe.height) :
    categoricalLimit dataframe < dataframe.height := by
  simp only [categoricalLimit, halfOf, CATEGORICAL_CARDINALITY_LIMIT]
  omega

omit [DecidableEq V] in
theorem categoricalLimit_of_one_row {dataframe : DataFrame V} (h : dataframe.height = 1) :
    categoricalLimit dataframe = 1 := by
  rw [categoricalLimit, h]
  decide

/-- A key cannot be a category unless its one value is. -/
theorem height_eq_one_of_mem_both {tables : CaseTables} {polars : Polars} {dataframe : DataFrame V}
    {source : Fin dataframe.width → Fin dataframe.width} {i : Fin dataframe.width}
    (hcategorical :
      dataframe.name i ∈ (recommendationsAs tables polars dataframe source).categoricalColumns)
    (hunique : isUnique dataframe (source i) = true) : dataframe.height = 1 := by
  obtain ⟨hrows, -, hlimit⟩ := (mem_categoricalColumns_iff i).mp hcategorical
  rw [isUnique, Bool.and_eq_true, decide_eq_true_eq, decide_eq_true_eq] at hunique
  rw [hunique.2] at hlimit
  by_contra hone
  have htwo : 2 ≤ dataframe.height := by omega
  have hlt := categoricalLimit_lt_height htwo
  omega

/-- In one row, a column is both exactly if it is textual, named like an identifier and not null. -/
theorem mem_both_iff_of_one_row {tables : CaseTables} {polars : Polars} {dataframe : DataFrame V}
    {source : Fin dataframe.width → Fin dataframe.width} (h : dataframe.height = 1)
    (i : Fin dataframe.width) :
    (dataframe.name i ∈ (recommendationsAs tables polars dataframe source).categoricalColumns ∧
      (dataframe.name i ∈ (recommendationsAs tables polars dataframe source).potentialPrimaryKeys ∨
        dataframe.name i ∈ (recommendationsAs tables polars dataframe source).identifierColumns)) ↔
      dataframe.nullCount (source i) = 0 ∧ isString polars (dataframe.dtype i) = true ∧
        isIdentifierName tables (dataframe.name i) = true := by
  have hcounts := distinctCount_add_nullCount_of_one_row h (source i)
  have hlimit : (dataframe.distinctCount (source i) : Int) ≤ 1 := by omega
  have hunique : isUnique dataframe (source i) = true ↔ dataframe.nullCount (source i) = 0 := by
    rw [isUnique, Bool.and_eq_true, decide_eq_true_eq, decide_eq_true_eq, h]
    omega
  have hinteger : isString polars (dataframe.dtype i) = true →
      isInteger polars (dataframe.dtype i) = false := by
    rw [isString_eq, isInteger_eq]
    cases dataframe.dtype i <;> simp [DataType.isTextType, DataType.isIntegerType]
  rw [mem_categoricalColumns_iff, mem_potentialPrimaryKeys_iff, mem_identifierColumns_iff, hunique,
    categoricalLimit_of_one_row h]
  constructor
  · rintro ⟨⟨-, hstring, -⟩, ⟨-, hnull, hname | hint⟩ | ⟨-, hnull, hname⟩⟩
    · exact ⟨hnull, hstring, hname⟩
    · rw [hinteger hstring] at hint
      exact Bool.noConfusion hint
    · exact ⟨hnull, hstring, hname⟩
  · rintro ⟨hnull, hstring, hname⟩
    exact ⟨⟨by omega, hstring, hlimit⟩, .inl ⟨by omega, hnull, .inl hname⟩⟩

/-- **Keys are no categories, one row aside.** With any number of rows but one, no category is
recommended as a key. In a table of one row the floor of the limit takes over, and exactly the
textual columns with an identifier's name and a value are both. -/
theorem keys_and_categories {tables : CaseTables} {polars : Polars} {result : TabularLoadResult V}
    {profiled : ProfileResult} (hprofile : profile tables polars result = .ok profiled) :
    (result.dataframe.height ≠ 1 →
      profiled.recommendations.categoricalColumns.Disjoint
        profiled.recommendations.potentialPrimaryKeys ∧
        profiled.recommendations.categoricalColumns.Disjoint
          profiled.recommendations.identifierColumns) ∧
    (result.dataframe.height = 1 → ∀ name,
      (name ∈ profiled.recommendations.categoricalColumns ∧
        (name ∈ profiled.recommendations.potentialPrimaryKeys ∨
          name ∈ profiled.recommendations.identifierColumns)) ↔
        ∃ i j, result.dataframe.name i = name ∧ result.dataframe.selected polars name = .ok [j] ∧
          result.dataframe.nullCount j = 0 ∧ isString polars (result.dataframe.dtype i) = true ∧
          isIdentifierName tables name = true) := by
  obtain ⟨source, hselected, rfl⟩ := profile_ok hprofile
  simp only [describedResultAs]
  refine ⟨fun hrows => ⟨?_, ?_⟩, fun hone name => ⟨?_, ?_⟩⟩
  · intro name hcategorical hkey
    obtain ⟨i, rfl⟩ := exists_name_of_mem_lists (categoricalColumns_mem_lists _) hcategorical
    exact hrows
      (height_eq_one_of_mem_both hcategorical ((mem_potentialPrimaryKeys_iff i).mp hkey).2.1)
  · intro name hcategorical hidentifier
    obtain ⟨i, rfl⟩ := exists_name_of_mem_lists (categoricalColumns_mem_lists _) hcategorical
    exact hrows
      (height_eq_one_of_mem_both hcategorical ((mem_identifierColumns_iff i).mp hidentifier).2.1)
  · rintro ⟨hcategorical, hkey⟩
    obtain ⟨i, rfl⟩ := exists_name_of_mem_lists (categoricalColumns_mem_lists _) hcategorical
    obtain ⟨hnull, hstring, hname⟩ := (mem_both_iff_of_one_row hone i).mp ⟨hcategorical, hkey⟩
    exact ⟨i, source i, rfl, hselected i, hnull, hstring, hname⟩
  · rintro ⟨i, j, rfl, hj, hnull, hstring, hname⟩
    obtain rfl : source i = j :=
      List.head_eq_of_cons_eq (Except.ok.inj ((hselected i).symm.trans hj))
    exact (mem_both_iff_of_one_row hone i).mpr ⟨hnull, hstring, hname⟩

theorem keys_and_categories_sample :
    ∃ profiled, profile CaseTables.ascii ⟨anchoredLiteral, enumParameters⟩ enumTable =
      .ok profiled ∧
      profiled.recommendations.categoricalColumns.Disjoint
        profiled.recommendations.potentialPrimaryKeys := by
  obtain ⟨profiled, hprofile⟩ : ∃ profiled,
      profile CaseTables.ascii ⟨anchoredLiteral, enumParameters⟩ enumTable = .ok profiled :=
        ⟨_, rfl⟩
  exact ⟨profiled, hprofile, ((keys_and_categories hprofile).1 (by decide)).1⟩

/-- One order with its identifier. -/
def oneRowTable : TabularLoadResult Nat where
  asset := ⟨"orders.csv", "orders", "csv", "file:///orders.csv", 20, ""⟩
  dataframe := .single "order_id" .string [fun _ => some 7]
  estimatedSizeBytes := 16

theorem one_row_key_and_category :
    ∃ profiled, profile CaseTables.ascii ⟨anchoredLiteral, enumParameters⟩ oneRowTable =
      .ok profiled ∧
      profiled.recommendations.categoricalColumns = ["order_id"] ∧
      profiled.recommendations.potentialPrimaryKeys = ["order_id"] ∧
      profiled.recommendations.identifierColumns = ["order_id"] :=
  ⟨_, rfl, by decide, by decide, by decide⟩

end DatasetProfiler

end Athena
