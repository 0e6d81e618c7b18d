import Athena.Evidence.CollectEvidence
import Athena.Profiling.Classification

/-!
# Temporal evidence

`collect_evidence` takes the temporal columns from the recommended date dimensions, and these from
the types of the columns, except that a table without rows has no recommendations. So the temporal
evidence of a table with rows is a function of its schema alone, and a table without rows has none.
-/

namespace Athena.DatasetProfiler

open Library

/-- The items about temporal types. -/
def temporalObservations (items : List Observation) : List Observation :=
  items.filter (·.1 = .temporalPattern)

/-- What the schema says about temporal types. -/
def schemaTemporalObservations {V : Type} (polars : Polars) (dataframe : DataFrame V) :
    List Observation :=
  ((List.finRange dataframe.width).filter fun i => (dataframe.dtype i).isDateType).map fun i =>
    (.temporalPattern, some (dataframe.name i),
      [("physical_type", .str ((dataframe.dtype i).str polars.parameters))])

theorem temporalObservations_column (tables : CaseTables) (profiled : ProfileResult)
    (column : ColumnProfile) :
    temporalObservations (columnObservations tables profiled column) =
      if column.name ∈
        profiled.recommendations.dateDimensions then [(temporalPatternEmission column).observation]
      else [] := by
  have hpattern : temporalObservations
      (((identifierPattern tables column.name).map (namePatternEmission column)).toList.map
        Emission.observation) =
        [] := by
    cases identifierPattern tables column.name <;> rfl
  -- The three items that every column has are of other types.
  change temporalObservations
    ((optionalEmissions tables profiled.summary.rowCount profiled.recommendations.dateDimensions
      column).map Emission.observation) = _
  rw [optionalEmissions, List.map_append, List.map_append, temporalObservations, List.filter_append,
    List.filter_append]
  rw [temporalObservations] at hpattern
  rw [hpattern]
  split <;> split <;> rfl

theorem temporalObservations_collectEvidence (tables : CaseTables) (now : Datetime)
    (uuid4 : Nat → UUID) (datasetId analysisRunId : UUID) (profiled : ProfileResult) :
    temporalObservations (observations tables now uuid4 datasetId analysisRunId profiled) =
      (profiled.columns.filter fun column =>
        column.name ∈ profiled.recommendations.dateDimensions).map
        fun column => (temporalPatternEmission column).observation := by
  have hcolumns :=
    filter_flatten_blocks (temporalObservations_column tables profiled) profiled.columns
  rw [← List.map_eq_flatMap] at hcolumns
  rw [observations_eq, ← hcolumns]
  rfl

variable {V : Type} [DecidableEq V]

/-- A profile's temporal evidence is that of the schema, as soon as there is a row. -/
theorem temporalObservations_profile {tables : CaseTables} {polars : Polars} (now : Datetime)
    (uuid4 : Nat → UUID)
    (datasetId analysisRunId : UUID) {result : TabularLoadResult V} {profiled : ProfileResult}
    (hprofile : profile tables polars result = .ok profiled) :
    temporalObservations (observations tables now uuid4 datasetId analysisRunId profiled) =
      if result.dataframe.height = 0 then []
        else schemaTemporalObservations polars result.dataframe := by
  obtain ⟨source, -, rfl⟩ := profile_ok hprofile
  have hdates : (describedAs polars result.dataframe source).filter (fun column =>
        column.name ∈
          (describedResultAs tables polars result source).recommendations.dateDimensions) =
      ((List.finRange result.dataframe.width).filter fun i =>
        decide (result.dataframe.height ≠ 0) && (result.dataframe.dtype i).isDateType).map fun i =>
          describeAs polars result.dataframe i (source i) := by
    rw [describedAs, List.filter_map]
    apply congrArg
    apply List.filter_congr
    intro i _
    rw [Function.comp_apply, Bool.eq_iff_iff]
    simp only [Bool.and_eq_true, decide_eq_true_eq]
    exact mem_dateDimensions_iff_isDateType i
  rw [temporalObservations_collectEvidence]
  change List.map _ (List.filter _ (describedAs polars result.dataframe source)) = _
  rw [hdates, List.map_map, schemaTemporalObservations]
  split
  · rename_i hempty
    simp [hempty]
  · rename_i hrows
    simp only [hrows, ne_eq, not_false_eq_true, decide_true, Bool.true_and]
    rfl

/-- What the items about the temporal type of the column `name` say. -/
def temporalDetails (evidence : List Evidence) (name : String) : List Details :=
  (evidence.filter fun item =>
    item.evidenceType = .temporalPattern && item.columnName = some name).map Evidence.details

theorem temporalDetails_eq (evidence : List Evidence) (name : String) :
    temporalDetails evidence name =
      ((temporalObservations (evidence.map Evidence.observation)).filter (·.2.1 = some name)).map
        fun o => o.2.2 := by
  rw [temporalObservations, List.filter_filter, List.filter_map, List.map_map, temporalDetails]
  congr 1
  apply List.filter_congr
  intro item _
  exact Bool.and_comm _ _

omit [DecidableEq V] in
theorem filter_schemaTemporalObservations (polars : Polars) (dataframe : DataFrame V)
    (i : Fin dataframe.width) :
    ((schemaTemporalObservations polars dataframe).filter (·.2.1 = some (dataframe.name i))).map
      (fun o => o.2.2) =
      if (dataframe.dtype i).isDateType then
        [[("physical_type", .str ((dataframe.dtype i).str polars.parameters))]]
      else [] := by
  have hone : (List.finRange dataframe.width).filter (fun j => decide (j = i)) = [i] := by
    rw [List.filter_eq, List.count_eq_one_of_mem (List.nodup_finRange _) (List.mem_finRange i),
      List.replicate_one]
  have hname :
      ∀ j, decide (some (dataframe.name j) = some (dataframe.name i)) = decide (j = i) := by
    intro j
    simp only [Option.some_inj, dataframe.name_injective.eq_iff]
  rw [schemaTemporalObservations, List.filter_map, List.map_map]
  simp only [Function.comp_def, hname]
  rw [List.filter_filter, List.filter_congr fun j _ => Bool.and_comm _ _, ← List.filter_filter,
    hone]
  cases hdate : (dataframe.dtype i).isDateType <;> simp [hdate]

/-- **Temporal evidence is about the schema.** Of a table with rows there is one temporal item for
each column of a native date or datetime type, in column order and with that type, and no other; of
a table without rows there is none. -/
theorem temporal_evidence {tables : CaseTables} {polars : Polars} (now : Datetime)
    (uuid4 : Nat → UUID)
    (datasetId analysisRunId : UUID) {result : TabularLoadResult V} {profiled : ProfileResult}
    (hprofile : profile tables polars result = .ok profiled) :
    let evidence := collectEvidence tables now uuid4 datasetId analysisRunId profiled
    (result.dataframe.height ≠ 0 →
      temporalObservations (evidence.map Evidence.observation) =
        schemaTemporalObservations polars result.dataframe ∧
      ∀ i, temporalDetails evidence (result.dataframe.name i) =
        if (result.dataframe.dtype i).isDateType then
          [[("physical_type", .str ((result.dataframe.dtype i).str polars.parameters))]]
        else []) ∧
    (result.dataframe.height = 0 → ∀ item ∈ evidence, item.evidenceType ≠ .temporalPattern) := by
  intro evidence
  have hobservations : temporalObservations (evidence.map Evidence.observation) =
      if result.dataframe.height = 0 then []
        else schemaTemporalObservations polars result.dataframe :=
    temporalObservations_profile now uuid4 datasetId analysisRunId hprofile
  refine ⟨fun hrows => ?_, fun hempty item hitem htype => ?_⟩
  · rw [if_neg hrows] at hobservations
    refine ⟨hobservations, fun i => ?_⟩
    rw [temporalDetails_eq, hobservations, filter_schemaTemporalObservations]
  · rw [if_pos hempty, temporalObservations, List.filter_eq_nil_iff] at hobservations
    exact hobservations _ (List.mem_map_of_mem hitem) (decide_eq_true htype)

/-- Days of events. -/
def eventTable (rows : List (Fin 1 → Option Nat)) : TabularLoadResult Nat where
  asset := ⟨"events.csv", "events", "csv", "file:///events.csv", 20, ""⟩
  dataframe := .single "event_date" .date rows
  estimatedSizeBytes := 0

theorem temporal_evidence_sample :
    ∃ profiled, profile CaseTables.ascii ⟨anchoredLiteral, fun _ => ""⟩
      (eventTable [fun _ => some 3]) = .ok profiled ∧
      temporalDetails (collectEvidence CaseTables.ascii sampleNow (fun n => ⟨BitVec.ofNat 128 n⟩)
        ⟨1⟩ ⟨2⟩ profiled) "event_date" = [[("physical_type", .str "Date")]] := by
  obtain ⟨profiled, hprofile⟩ : ∃ profiled,
      profile CaseTables.ascii ⟨anchoredLiteral, fun _ => ""⟩ (eventTable [fun _ => some 3]) =
        .ok profiled := ⟨_, rfl⟩
  have hevidence := temporal_evidence sampleNow (fun n => ⟨BitVec.ofNat 128 n⟩) ⟨1⟩ ⟨2⟩ hprofile
  exact ⟨profiled, hprofile, (hevidence.1 (by decide)).2 ⟨0, by decide⟩⟩

/-- A date column without rows, and nothing about its type being temporal. -/
theorem no_temporal_evidence_without_rows :
    ((eventTable []).dataframe.dtype ⟨0, by decide⟩).isDateType = true ∧
    ∃ profiled, profile CaseTables.ascii ⟨anchoredLiteral, fun _ => ""⟩ (eventTable []) =
      .ok profiled ∧
      temporalDetails (collectEvidence CaseTables.ascii sampleNow (fun n => ⟨BitVec.ofNat 128 n⟩)
        ⟨1⟩ ⟨2⟩ profiled) "event_date" = [] :=
  ⟨rfl, _, rfl, by decide⟩

end Athena.DatasetProfiler
