import Athena.Evidence.Models
import Athena.Library.Segmentation
import Athena.Profiling.Profiler

/-!
# Translating a profile into evidence

`collect_evidence` emits one item about the whole dataset and then, column after column, a block of
three to six items: its data type, its null rate and its cardinality always, and its uniqueness, its
identifier-like name and its temporal type where they hold. The clock and the stream of random UUIDs
are parameters.

The result of the module is that nothing of the observations is lost: `decode` finds the blocks
again and reads the profile back from what the items say.
-/

namespace Athena.DatasetProfiler

open Library

/-- The arguments of one call of `emit`. -/
structure Emission where
  evidenceType : EvidenceType
  details : Details
  description : String
  columnName : Option String
  deriving DecidableEq

def datasetEmission (result : ProfileResult) : Emission where
  evidenceType := .duplicatePattern
  details := [("duplicate_row_count", .int result.dataQuality.duplicateRowCount),
    ("duplicate_row_percentage", .float result.dataQuality.duplicateRowPercentage)]
  description :=
    "Dataset contains " ++ toString result.dataQuality.duplicateRowCount ++ " duplicate rows."
  columnName := none

def dataTypeEmission (column : ColumnProfile) : Emission where
  evidenceType := .dataType
  details := [("physical_type", .str column.dataType)]
  description := "Column physical data type is " ++ column.dataType ++ "."
  columnName := some column.name

def nullRateEmission (rowCount : Int) (column : ColumnProfile) : Emission where
  evidenceType := .nullRate
  details := [("null_count", .int column.nullCount), ("row_count", .int rowCount),
    ("null_percentage", .float column.nullPercentage)]
  description := "Column has " ++ toString column.nullCount ++ " null values."
  columnName := some column.name

def cardinalityEmission (rowCount : Int) (column : ColumnProfile) : Emission where
  evidenceType := .cardinality
  details := [("distinct_count", .int column.distinctCount), ("row_count", .int rowCount),
    ("distinct_percentage", .float column.distinctPercentage)]
  description := "Column has " ++ toString column.distinctCount ++ " distinct values."
  columnName := some column.name

def uniquenessEmission (rowCount : Int) (column : ColumnProfile) : Emission where
  evidenceType := .uniqueness
  details := [("distinct_count", .int column.distinctCount), ("row_count", .int rowCount),
    ("is_unique", .bool true)]
  description := "Column is unique across all rows."
  columnName := some column.name

def namePatternEmission (column : ColumnProfile) (pattern : String) : Emission where
  evidenceType := .namePattern
  details := [("matched_pattern", .str pattern)]
  description := "Column name matches the profiler's identifier-name heuristic."
  columnName := some column.name

def temporalPatternEmission (column : ColumnProfile) : Emission where
  evidenceType := .temporalPattern
  details := [("physical_type", .str column.dataType)]
  description := "Column physical type is " ++ column.dataType ++ ", a native temporal type."
  columnName := some column.name

/-- The items that a column may do without. -/
def optionalEmissions (tables : CaseTables) (rowCount : Int) (dateDimensions : List String)
    (column : ColumnProfile) :
    List Emission :=
  (if 0 < rowCount ∧ column.distinctCount = rowCount then [uniquenessEmission rowCount column]
    else []) ++
    ((identifierPattern tables column.name).map (namePatternEmission column)).toList ++
    (if column.name ∈ dateDimensions then [temporalPatternEmission column] else [])

def columnEmissions (tables : CaseTables) (rowCount : Int) (dateDimensions : List String)
    (column : ColumnProfile) :
    List Emission :=
  dataTypeEmission column :: nullRateEmission rowCount column ::
    cardinalityEmission rowCount column ::
    optionalEmissions tables rowCount dateDimensions column

def emissions (tables : CaseTables) (result : ProfileResult) : List Emission :=
  datasetEmission result ::
    result.columns.flatMap
      (columnEmissions tables result.summary.rowCount result.recommendations.dateDimensions)

/-- `Evidence.create`, for the item that gets `id` and is created at `createdAt`. -/
def Emission.create (datasetId analysisRunId : UUID) (createdAt : Datetime) (e : Emission)
    (id : UUID) : Evidence where
  id := id
  datasetId := datasetId
  analysisRunId := analysisRunId
  columnName := e.columnName
  evidenceType := e.evidenceType
  source := .system
  producer := "profiler.v1"
  details := e.details
  description := e.description
  createdAt := createdAt

/-- `uuid4 n` is what the `n`-th call of `uuid4` returns. -/
def collectEvidence (tables : CaseTables) (now : Datetime) (uuid4 : Nat → UUID)
    (datasetId analysisRunId : UUID) (result : ProfileResult) : List Evidence :=
  (emissions tables result).mapIdx fun n e => e.create datasetId analysisRunId now (uuid4 n)

/-! ### The items of one column -/

section Column

variable {tables : CaseTables} {rowCount : Int} {dateDimensions : List String}
  {column : ColumnProfile}

theorem mem_columnEmissions {e : Emission} :
    e ∈ columnEmissions tables rowCount dateDimensions column ↔
      e = dataTypeEmission column ∨ e = nullRateEmission rowCount column ∨
      e = cardinalityEmission rowCount column ∨
        ((0 < rowCount ∧ column.distinctCount = rowCount) ∧
          e = uniquenessEmission rowCount column) ∨
        (∃ pattern, identifierPattern tables column.name = some pattern ∧
          e = namePatternEmission column pattern) ∨
        (column.name ∈ dateDimensions ∧ e = temporalPatternEmission column) := by
  simp only [columnEmissions, optionalEmissions, List.mem_cons, List.mem_append,
    List.mem_ite_nil_right, List.not_mem_nil, or_false, Option.mem_toList, Option.map_eq_some_iff,
    or_assoc, eq_comm (a := e)]

theorem exists_columnEmission_iff (Q : Emission → Prop) :
    (∃ e ∈ columnEmissions tables rowCount dateDimensions column, Q e) ↔
      Q (dataTypeEmission column) ∨ Q (nullRateEmission rowCount column) ∨
      Q (cardinalityEmission rowCount column) ∨
        ((0 < rowCount ∧ column.distinctCount = rowCount) ∧
          Q (uniquenessEmission rowCount column)) ∨
        (∃ pattern, identifierPattern tables column.name = some pattern ∧
          Q (namePatternEmission column pattern)) ∨
        (column.name ∈ dateDimensions ∧ Q (temporalPatternEmission column)) := by
  constructor
  · rintro ⟨e, hmem, hQ⟩
    obtain rfl | rfl | rfl | ⟨hunique, rfl⟩ | ⟨pattern, hpattern, rfl⟩ | ⟨hdate, rfl⟩ :=
      mem_columnEmissions.mp hmem
    · exact .inl hQ
    · exact .inr (.inl hQ)
    · exact .inr (.inr (.inl hQ))
    · exact .inr (.inr (.inr (.inl ⟨hunique, hQ⟩)))
    · exact .inr (.inr (.inr (.inr (.inl ⟨pattern, hpattern, hQ⟩))))
    · exact .inr (.inr (.inr (.inr (.inr ⟨hdate, hQ⟩))))
  · rintro (hQ | hQ | hQ | ⟨hunique, hQ⟩ | ⟨pattern, hpattern, hQ⟩ | ⟨hdate, hQ⟩)
    · exact ⟨_, mem_columnEmissions.mpr (.inl rfl), hQ⟩
    · exact ⟨_, mem_columnEmissions.mpr (.inr (.inl rfl)), hQ⟩
    · exact ⟨_, mem_columnEmissions.mpr (.inr (.inr (.inl rfl))), hQ⟩
    · exact ⟨_, mem_columnEmissions.mpr (.inr (.inr (.inr (.inl ⟨hunique, rfl⟩)))), hQ⟩
    · exact ⟨_, mem_columnEmissions.mpr (.inr (.inr (.inr (.inr (.inl ⟨pattern, hpattern, rfl⟩))))),
        hQ⟩
    · exact ⟨_, mem_columnEmissions.mpr (.inr (.inr (.inr (.inr (.inr ⟨hdate, rfl⟩))))), hQ⟩

theorem columnName_of_mem {e : Emission}
    (h : e ∈ columnEmissions tables rowCount dateDimensions column) :
    e.columnName = some column.name := by
  obtain rfl | rfl | rfl | ⟨-, rfl⟩ | ⟨_, -, rfl⟩ | ⟨-, rfl⟩ := mem_columnEmissions.mp h <;> rfl

theorem uniqueness_of_mem {e : Emission}
    (h : e ∈ columnEmissions tables rowCount dateDimensions column)
    (htype : e.evidenceType = .uniqueness) : 0 < rowCount ∧ column.distinctCount = rowCount := by
  obtain rfl | rfl | rfl | ⟨hunique, rfl⟩ | ⟨_, -, rfl⟩ | ⟨-, rfl⟩ := mem_columnEmissions.mp h
  case inr.inr.inr.inl => exact hunique
  all_goals exact nomatch htype

theorem length_columnEmissions :
    3 ≤ (columnEmissions tables rowCount dateDimensions column).length ∧
      (columnEmissions tables rowCount dateDimensions column).length ≤ 6 := by
  have hpattern := Option.length_toList_le
      (o := (identifierPattern tables column.name).map (namePatternEmission column))
  simp only [columnEmissions, optionalEmissions, List.length_cons, List.length_append]
  refine ⟨by omega, ?_⟩
  split <;> split <;> simp only [List.length_cons, List.length_nil] <;> omega

end Column

/-! ### Reading the profile back -/

def Emission.observation (e : Emission) : Observation := (e.evidenceType, e.columnName, e.details)

/-- What `collect_evidence` says of a table. -/
def observations (tables : CaseTables) (now : Datetime) (uuid4 : Nat → UUID)
    (datasetId analysisRunId : UUID) (result : ProfileResult) : List Observation :=
  (collectEvidence tables now uuid4 datasetId analysisRunId result).map Evidence.observation

/-- The part of a profile that its evidence carries. -/
structure ObservedProfile where
  rowCount : Int
  columns : List ColumnProfile
  duplicateRowCount : Int
  duplicateRowPercentage : ℚ
  /-- The names of columns that are date dimensions. -/
  dateDimensions : Finset String
  deriving DecidableEq

def observed (result : ProfileResult) : ObservedProfile where
  rowCount := result.summary.rowCount
  columns := result.columns
  duplicateRowCount := result.dataQuality.duplicateRowCount
  duplicateRowPercentage := result.dataQuality.duplicateRowPercentage
  dateDimensions := ((result.columns.map ColumnProfile.name).filter
    (· ∈ result.recommendations.dateDimensions)).toFinset

def intDetail (key : String) (details : Details) : Option Int :=
  match details.lookup key with
  | some (.int value) => some value
  | _ => none

def floatDetail (key : String) (details : Details) : Option ℚ :=
  match details.lookup key with
  | some (.float value) => some value
  | _ => none

def strDetail (key : String) (details : Details) : Option String :=
  match details.lookup key with
  | some (.str value) => some value
  | _ => none

def decodeColumn : List Observation → Option ColumnProfile
  | (_, columnName, dataType) :: (_, _, nullRate) :: (_, _, cardinality) :: _ => do
      let name ← columnName
      let dataType ← strDetail "physical_type" dataType
      let nullCount ← intDetail "null_count" nullRate
      let nullPercentage ← floatDetail "null_percentage" nullRate
      let distinctCount ← intDetail "distinct_count" cardinality
      let distinctPercentage ← floatDetail "distinct_percentage" cardinality
      return ⟨name, dataType, nullCount, nullPercentage, distinctCount, distinctPercentage⟩
  | _ => none

/-- A block begins at every `DATA_TYPE` item. -/
def startsBlock (o : Observation) : Bool := o.1 = .dataType

def decode : List Observation → Option ObservedProfile
  | [] => none
  | (_, _, duplicates) :: items => do
      let columns ← (items.splitBy fun _ o => !startsBlock o).mapM decodeColumn
      let nullRate ← items.find? (·.1 = .nullRate)
      let rowCount ← intDetail "row_count" nullRate.2.2
      let duplicateRowCount ← intDetail "duplicate_row_count" duplicates
      let duplicateRowPercentage ← floatDetail "duplicate_row_percentage" duplicates
      let dateDimensions := (items.filter (·.1 = .temporalPattern)).filterMap (·.2.1)
      return ⟨rowCount, columns, duplicateRowCount, duplicateRowPercentage, dateDimensions.toFinset⟩

/-- The block of a column. -/
def columnObservations (tables : CaseTables) (result : ProfileResult) (column : ColumnProfile) :
    List Observation :=
  (columnEmissions tables result.summary.rowCount result.recommendations.dateDimensions column).map
    Emission.observation

section Decode

variable (tables : CaseTables) (result : ProfileResult)

theorem observations_eq (now : Datetime) (uuid4 : Nat → UUID) (datasetId analysisRunId : UUID) :
    observations tables now uuid4 datasetId analysisRunId result =
      (datasetEmission result).observation ::
        (result.columns.map (columnObservations tables result)).flatten := by
  have hmap : observations tables now uuid4 datasetId analysisRunId result =
      (emissions tables result).map Emission.observation := by
    apply List.ext_getElem
    · simp [observations, collectEvidence]
    · intro i hi hi'
      simp [observations, collectEvidence, Emission.create, Emission.observation,
        Evidence.observation]
  rw [hmap, emissions, List.map_cons, List.map_flatMap, List.flatMap_def]
  rfl

theorem isBlock_columnObservations (column : ColumnProfile) :
    IsBlock startsBlock (columnObservations tables result column) := by
  refine ⟨rfl, fun o ho => ?_⟩
  obtain ⟨e, he, rfl⟩ := List.mem_map.mp ho
  simp only [optionalEmissions, List.mem_cons, List.mem_append, List.mem_ite_nil_right,
    List.not_mem_nil, or_false, Option.mem_toList, Option.map_eq_some_iff] at he
  rcases he with rfl | rfl | (⟨-, rfl⟩ | ⟨_, -, rfl⟩) | ⟨-, rfl⟩ <;> rfl

theorem splitBy_columnObservations (columns : List ColumnProfile) :
    (columns.map (columnObservations tables result)).flatten.splitBy (fun _ o => !startsBlock o) =
      columns.map (columnObservations tables result) := by
  apply splitBy_blocks
  intro block hblock
  obtain ⟨column, -, rfl⟩ := List.mem_map.mp hblock
  exact isBlock_columnObservations tables result column

theorem decodeColumn_columnObservations (column : ColumnProfile) :
    decodeColumn (columnObservations tables result column) = some column := rfl

theorem mem_dateDimensions_iff (columns : List ColumnProfile) (name : String) :
    name ∈ (((columns.map (columnObservations tables result)).flatten.filter
      (·.1 = .temporalPattern)).filterMap
        (·.2.1)) ↔
      ∃ column ∈ columns, column.name = name ∧
      column.name ∈ result.recommendations.dateDimensions := by
  simp only [List.mem_filterMap, List.mem_filter, List.mem_flatten, List.mem_map, decide_eq_true_eq]
  constructor
  · rintro ⟨o, ⟨⟨_, ⟨column, hcolumn, rfl⟩, ho⟩, htype⟩, hname⟩
    obtain ⟨e, he, rfl⟩ := List.mem_map.mp ho
    obtain rfl | rfl | rfl | ⟨-, rfl⟩ | ⟨_, -, rfl⟩ | ⟨hdate, rfl⟩ := mem_columnEmissions.mp he
    · exact nomatch htype
    · exact nomatch htype
    · exact nomatch htype
    · exact nomatch htype
    · exact nomatch htype
    · exact ⟨column, hcolumn, Option.some.inj hname, hdate⟩
  · rintro ⟨column, hcolumn, rfl, hdate⟩
    have hmem : temporalPatternEmission column ∈
        columnEmissions tables result.summary.rowCount result.recommendations.dateDimensions
          column :=
      mem_columnEmissions.mpr (.inr (.inr (.inr (.inr (.inr ⟨hdate, rfl⟩)))))
    exact ⟨(temporalPatternEmission column).observation,
      ⟨⟨_, ⟨column, hcolumn, rfl⟩, List.mem_map_of_mem hmem⟩, rfl⟩, rfl⟩

theorem decode_observations (now : Datetime) (uuid4 : Nat → UUID) (datasetId analysisRunId : UUID)
    (hcolumns : result.columns ≠ []) :
    decode (observations tables now uuid4 datasetId analysisRunId result) =
      some (observed result) := by
  have hmapM : (result.columns.map (columnObservations tables result)).mapM decodeColumn =
      some result.columns := by
    have hdecode : decodeColumn ∘ columnObservations tables result = fun column =>
        pure (id column) := by
      funext column
      exact decodeColumn_columnObservations tables result column
    rw [List.mapM_map, hdecode, List.mapM_pure, List.map_id]
    rfl
  have hnullRate :
      ∃ o, (result.columns.map (columnObservations tables result)).flatten.find? (·.1 = .nullRate) =
      some o ∧ intDetail "row_count" o.2.2 = some result.summary.rowCount := by
    cases hlist : result.columns with
    | nil => exact absurd hlist hcolumns
    | cons column columns => exact ⟨_, rfl, rfl⟩
  obtain ⟨o, hfind, hrowCount⟩ := hnullRate
  have hdates : (((result.columns.map (columnObservations tables result)).flatten.filter
      (·.1 = .temporalPattern)).filterMap (·.2.1)).toFinset = (observed result).dateDimensions := by
    ext name
    rw [List.mem_toFinset, mem_dateDimensions_iff]
    simp only [observed, List.mem_toFinset, List.mem_filter, List.mem_map, decide_eq_true_eq]
    constructor
    · rintro ⟨column, hcolumn, rfl, hdate⟩
      exact ⟨⟨column, hcolumn, rfl⟩, hdate⟩
    · rintro ⟨⟨column, hcolumn, rfl⟩, hdate⟩
      exact ⟨column, hcolumn, rfl, hdate⟩
  rw [observations_eq]
  change (((_ : List Observation).splitBy _).mapM decodeColumn).bind _ = _
  rw [splitBy_columnObservations, hmapM, Option.bind_some, hfind]
  change (intDetail "row_count" o.2.2).bind _ = _
  rw [hrowCount]
  change some (ObservedProfile.mk _ _ _ _ _) = _
  rw [hdates]
  rfl

end Decode

/-- **Evidence loses nothing.** The observations of a profile with columns decode to the profile, so
that profiles with the same observations agree. The items after the leading one about duplicates
fall into one block for each column, in order, with nothing left over. -/
theorem collectEvidence_lossless (tables : CaseTables) (now : Datetime) (uuid4 : Nat → UUID)
    (datasetId analysisRunId : UUID) (result : ProfileResult) (hcolumns : result.columns ≠ []) :
    decode (observations tables now uuid4 datasetId analysisRunId result) = some (observed result) ∧
    (∀ now' uuid4' datasetId' analysisRunId' result', result'.columns ≠ [] →
      observations tables now' uuid4' datasetId' analysisRunId' result' =
        observations tables now uuid4 datasetId analysisRunId result →
          observed result' = observed result) ∧
    (∃ items, observations tables now uuid4 datasetId analysisRunId result =
        (.duplicatePattern, none, (datasetEmission result).details) :: items ∧
      items.splitBy (fun _ o => !startsBlock o) =
        result.columns.map (columnObservations tables result)) ∧
    ∀ column ∈ result.columns,
      3 ≤ (columnObservations tables result column).length ∧
        (columnObservations tables result column).length ≤ 6 ∧
      ∀ o ∈ columnObservations tables result column, o.1 ≠ .duplicatePattern ∧
      o.2.1 = some column.name := by
  refine ⟨decode_observations tables result now uuid4 datasetId analysisRunId hcolumns, ?_, ?_, ?_⟩
  · intro now' uuid4' datasetId' analysisRunId' result' hcolumns' hsame
    have hdecode :=
      decode_observations tables result' now' uuid4' datasetId' analysisRunId' hcolumns'
    rw [hsame,
      decode_observations tables result now uuid4 datasetId analysisRunId hcolumns] at hdecode
    exact (Option.some.inj hdecode).symm
  · exact ⟨_, observations_eq tables result now uuid4 datasetId analysisRunId,
      splitBy_columnObservations tables result _⟩
  · intro column _
    rw [columnObservations, List.length_map]
    refine ⟨length_columnEmissions.1, length_columnEmissions.2, fun o ho => ?_⟩
    obtain ⟨e, he, rfl⟩ := List.mem_map.mp ho
    refine ⟨?_, columnName_of_mem he⟩
    obtain rfl | rfl | rfl | ⟨-, rfl⟩ | ⟨_, -, rfl⟩ | ⟨-, rfl⟩ := mem_columnEmissions.mp he <;>
      exact fun htype => nomatch htype

/-- Two columns of one name, the second a date. -/
def sampleProfile : ProfileResult where
  summary := ⟨"sales.csv", "sales", 2, 2, 64⟩
  columns := [⟨"id", "Int64", 0, 0, 2, 100⟩, ⟨"id", "Date", 1, 50, 1, 50⟩]
  dataQuality := ⟨4, 1, 25, 0, 0, 0⟩
  recommendations := ⟨["id"], ["id"], [], [], ["id"]⟩

def sampleNow : Datetime := ⟨2026, 8, 12, 9, 30, 0, 0, some 0, by decide, by decide, by decide⟩

theorem collectEvidence_lossless_sample :
    decode (observations CaseTables.ascii sampleNow (fun n => ⟨BitVec.ofNat 128 n⟩) ⟨1⟩ ⟨2⟩
      sampleProfile) =
      some (observed sampleProfile) :=
  (collectEvidence_lossless CaseTables.ascii sampleNow _ ⟨1⟩ ⟨2⟩ sampleProfile (by decide)).1

end Athena.DatasetProfiler
