import Athena.Evidence.CollectEvidence
import Athena.Profiling.ColumnAttribution

/-!
# The key recommendations follow from the evidence

`_recommend` and `collect_evidence` decide uniqueness and identifier-like names by different tests.
For a table whose column names Polars takes literally they agree, so that the two lists of
recommended keys can be computed from the evidence alone.
-/

namespace Athena.DatasetProfiler

/-! ### Asking the evidence -/

/-- There is an item of this type about the column `name`. -/
def hasEvidence (evidence : List Evidence) (name : String) (evidenceType : EvidenceType) : Bool :=
  evidence.any fun item => item.columnName = some name && item.evidenceType = evidenceType

/-- There is a `DATA_TYPE` item about the column `name` whose physical type begins with `Int` or
`UInt`. -/
def hasIntegerType (evidence : List Evidence) (name : String) : Bool :=
  evidence.any fun item => item.columnName = some name && item.evidenceType = .dataType &&
    (strDetail "physical_type" item.details).any fun text =>
      Text.startsWith text "Int" || Text.startsWith text "UInt"

variable {V : Type} [DecidableEq V] (tables : CaseTables) (polars : Polars) (now : Datetime)
  (uuid4 : Nat → UUID) (datasetId analysisRunId : UUID)

/-- Looking for an item is looking for it at the leading one and in the blocks. -/
theorem exists_evidence_iff (profiled : ProfileResult) (P : Observation → Prop) :
    (∃ item ∈ collectEvidence tables now uuid4 datasetId analysisRunId profiled,
      P item.observation) ↔
      P (datasetEmission profiled).observation ∨ ∃ column ∈ profiled.columns,
        ∃ e ∈ columnEmissions tables profiled.summary.rowCount
          profiled.recommendations.dateDimensions column,
          P e.observation := by
  have hitems : (∃ item ∈ collectEvidence tables now uuid4 datasetId analysisRunId profiled,
      P item.observation) ↔
      ∃ o ∈ observations tables now uuid4 datasetId analysisRunId profiled, P o := by
    simp only [observations, List.mem_map, exists_exists_and_eq_and]
  rw [hitems, observations_eq]
  simp only [List.exists_mem_cons_iff, List.mem_flatten, List.mem_map, exists_exists_and_eq_and,
    columnObservations]
  apply or_congr Iff.rfl
  constructor
  · rintro ⟨_, ⟨column, hcolumn, e, he, rfl⟩, hP⟩
    exact ⟨column, hcolumn, e, he, hP⟩
  · rintro ⟨column, hcolumn, e, he, hP⟩
    exact ⟨_, ⟨column, hcolumn, e, he, rfl⟩, hP⟩

/-- The items about a column of the table are the items of its block. -/
theorem exists_evidence_about_iff (result : TabularLoadResult V) (i : Fin result.dataframe.width)
    (P : EvidenceType → Details → Prop) :
    (∃ item ∈ collectEvidence tables now uuid4 datasetId analysisRunId
      (describedResult tables polars result),
        item.columnName = some (result.dataframe.name i) ∧ P item.evidenceType item.details) ↔
      ∃ e ∈ columnEmissions tables result.dataframe.height
          (recommendations tables polars result.dataframe).dateDimensions
            (describeAs polars result.dataframe i i),
        P e.evidenceType e.details := by
  have hall := exists_evidence_iff tables now uuid4 datasetId analysisRunId
      (describedResult tables polars result)
    fun o => o.2.1 = some (result.dataframe.name i) ∧ P o.1 o.2.2
  refine hall.trans ⟨?_, fun ⟨e, he, hP⟩ =>
    .inr ⟨_, List.mem_map_of_mem (List.mem_finRange i), e, he, ?_⟩⟩
  · rintro (⟨hname, -⟩ | ⟨column, hcolumn, e, he, hname, hP⟩)
    · exact nomatch hname
    · obtain ⟨j, -, rfl⟩ := List.mem_map.mp hcolumn
      have hsame : result.dataframe.name j = result.dataframe.name i :=
        Option.some.inj ((columnName_of_mem he).symm.trans hname)
      obtain rfl := result.dataframe.name_injective hsame
      exact ⟨e, he, hP⟩
  · exact ⟨columnName_of_mem he, hP⟩

section Column

variable (result : TabularLoadResult V) (i : Fin result.dataframe.width)

theorem hasEvidence_uniqueness :
    hasEvidence (collectEvidence tables now uuid4 datasetId analysisRunId
      (describedResult tables polars result))
        (result.dataframe.name i) .uniqueness =
      (decide (result.dataframe.height ≠ 0) && isUnique result.dataframe i) := by
  have hitems := exists_evidence_about_iff tables polars now uuid4 datasetId analysisRunId result i
    fun evidenceType _ => evidenceType = .uniqueness
  -- Where every value is distinct there is no room for a null.
  have hcount := result.dataframe.distinctCount_add_nullCount_le i
  rw [Bool.eq_iff_iff]
  simp only [hasEvidence, List.any_eq_true, Bool.and_eq_true, decide_eq_true_eq]
  rw [hitems, exists_columnEmission_iff fun e => e.evidenceType = .uniqueness]
  simp only [dataTypeEmission, nullRateEmission, cardinalityEmission, uniquenessEmission,
    namePatternEmission, temporalPatternEmission, describeAs, isUnique, reduceCtorEq, and_false,
    exists_false, or_false, false_or, and_true, Bool.and_eq_true, decide_eq_true_eq, Nat.cast_inj]
  omega

theorem hasEvidence_namePattern :
    hasEvidence (collectEvidence tables now uuid4 datasetId analysisRunId
      (describedResult tables polars result))
        (result.dataframe.name i) .namePattern =
          isIdentifierName tables (result.dataframe.name i) := by
  have hitems := exists_evidence_about_iff tables polars now uuid4 datasetId analysisRunId result i
    fun evidenceType _ => evidenceType = .namePattern
  rw [Bool.eq_iff_iff, ← isSome_identifierPattern, Option.isSome_iff_exists]
  simp only [hasEvidence, List.any_eq_true, Bool.and_eq_true, decide_eq_true_eq]
  rw [hitems, exists_columnEmission_iff fun e => e.evidenceType = .namePattern]
  simp [dataTypeEmission, nullRateEmission, cardinalityEmission, uniquenessEmission,
    namePatternEmission, temporalPatternEmission, describeAs]

theorem hasIntegerType_eq :
    hasIntegerType (collectEvidence tables now uuid4 datasetId analysisRunId
      (describedResult tables polars result))
        (result.dataframe.name i) = isInteger polars (result.dataframe.dtype i) := by
  have hitems := exists_evidence_about_iff tables polars now uuid4 datasetId analysisRunId result i
    fun evidenceType details =>
      evidenceType = .dataType ∧ (strDetail "physical_type" details).any fun text =>
      Text.startsWith text "Int" || Text.startsWith text "UInt"
  rw [Bool.eq_iff_iff]
  simp only [hasIntegerType, List.any_eq_true, Bool.and_eq_true, decide_eq_true_eq, and_assoc]
  rw [hitems, exists_columnEmission_iff fun e =>
    e.evidenceType = .dataType ∧ (strDetail "physical_type" e.details).any
    fun text => Text.startsWith text "Int" || Text.startsWith text "UInt"]
  simp [dataTypeEmission, nullRateEmission, cardinalityEmission, uniquenessEmission,
    namePatternEmission, temporalPatternEmission, describeAs, strDetail, isInteger]

end Column

/-- **The recommended keys follow from the evidence.** -/
theorem recommendations_from_evidence {result : TabularLoadResult V}
    (hliteral : result.dataframe.LiteralNames) :
    ∃ profiled, profile tables polars result = .ok profiled ∧
      let evidence := collectEvidence tables now uuid4 datasetId analysisRunId profiled
      profiled.recommendations.identifierColumns = result.dataframe.columns.filter (fun name =>
          hasEvidence evidence name .uniqueness && hasEvidence evidence name .namePattern) ∧
        profiled.recommendations.potentialPrimaryKeys = result.dataframe.columns.filter fun name =>
          hasEvidence evidence name .uniqueness &&
            (hasEvidence evidence name .namePattern || hasIntegerType evidence name) := by
  refine ⟨_, profile_of_literal tables polars hliteral, ?_⟩
  have hrecommended : (describedResult tables polars result).recommendations =
      recommendations tables polars result.dataframe := rfl
  simp only [hrecommended, columns_filter, hasEvidence_uniqueness, hasEvidence_namePattern,
    hasIntegerType_eq, recommendations]
  by_cases hempty : result.dataframe.height = 0
  · simp [hempty, columnsWhere]
  · rw [if_neg hempty]
    constructor
    · apply congrArg (columnsWhere result.dataframe)
      funext i
      simp [isIdentifier, hempty]
    · apply congrArg (columnsWhere result.dataframe)
      funext i
      simp [isKey, hempty]

/-- Two rows over a key, a column with a null and a flag. -/
def sampleTable : TabularLoadResult Nat where
  asset := ⟨"sales.csv", "sales", "csv", "file:///sales.csv", 40, ""⟩
  dataframe := {
    width := 3
    name := fun i => ["Order_ID", "total", "flag"].get i
    dtype := fun i => [.int64, .float64, .boolean].get i
    rows := [fun i => [some 1, none, some 0].get i, fun i => [some 2, some 5, some 0].get i]
    name_injective := by decide
    rows_of_width_zero := nofun }
  estimatedSizeBytes := 48

theorem recommendations_from_evidence_sample :
    ∃ profiled, profile CaseTables.ascii ⟨anchoredLiteral, fun _ => ""⟩ sampleTable = .ok profiled ∧
      let evidence :=
  collectEvidence CaseTables.ascii sampleNow (fun n => ⟨BitVec.ofNat 128 n⟩) ⟨1⟩ ⟨2⟩ profiled
      profiled.recommendations.identifierColumns = ["Order_ID", "total", "flag"].filter (fun name =>
          hasEvidence evidence name .uniqueness && hasEvidence evidence name .namePattern) ∧
        profiled.recommendations.potentialPrimaryKeys =
          ["Order_ID", "total", "flag"].filter fun name =>
          hasEvidence evidence name .uniqueness &&
            (hasEvidence evidence name .namePattern || hasIntegerType evidence name) :=
  recommendations_from_evidence CaseTables.ascii ⟨anchoredLiteral, fun _ => ""⟩ sampleNow _ ⟨1⟩ ⟨2⟩
    (by decide : sampleTable.dataframe.LiteralNames)

end Athena.DatasetProfiler
