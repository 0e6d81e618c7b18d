import Athena.Api.Registration
import Athena.Services.RetainedReference

/-!
# The dataset routes

What each route of `/datasets` makes of its service, with its `except` clauses. A response model
takes over the fields of what the service returns; the rows of a query become one dictionary each.
`Application.serve` is what one process does for one request, or when it starts and stops.
-/

namespace Athena

open Library Library.Program Persistence

variable {V : Type}

/-! ### Response models -/

structure DatasetSummaryResponse where
  reference : String
  name : String
  rowCount : Int
  columnCount : Int
  estimatedSizeBytes : Int
  deriving DecidableEq

structure ColumnProfileResponse where
  name : String
  dataType : String
  nullCount : Int
  nullPercentage : ℚ
  distinctCount : Int
  distinctPercentage : ℚ
  deriving DecidableEq

structure DataQualityProfileResponse where
  totalCellCount : Int
  nullCellCount : Int
  nullPercentage : ℚ
  duplicateRowCount : Int
  duplicateRowPercentage : ℚ
  emptyColumnCount : Int
  deriving DecidableEq

structure ProfileRecommendationsResponse where
  potentialPrimaryKeys : List String
  identifierColumns : List String
  categoricalColumns : List String
  numericMeasures : List String
  dateDimensions : List String
  deriving DecidableEq

structure ProfileResultResponse where
  summary : DatasetSummaryResponse
  columns : List ColumnProfileResponse
  dataQuality : DataQualityProfileResponse
  recommendations : ProfileRecommendationsResponse
  deriving DecidableEq

/-- `ProfileResultResponse.model_validate(profile)`. -/
def ProfileResultResponse.modelValidate (profile : ProfileResult) : ProfileResultResponse where
  summary := {
    reference := profile.summary.reference
    name := profile.summary.name
    rowCount := profile.summary.rowCount
    columnCount := profile.summary.columnCount
    estimatedSizeBytes := profile.summary.estimatedSizeBytes }
  columns := profile.columns.map fun column => {
    name := column.name
    dataType := column.dataType
    nullCount := column.nullCount
    nullPercentage := column.nullPercentage
    distinctCount := column.distinctCount
    distinctPercentage := column.distinctPercentage }
  dataQuality := {
    totalCellCount := profile.dataQuality.totalCellCount
    nullCellCount := profile.dataQuality.nullCellCount
    nullPercentage := profile.dataQuality.nullPercentage
    duplicateRowCount := profile.dataQuality.duplicateRowCount
    duplicateRowPercentage := profile.dataQuality.duplicateRowPercentage
    emptyColumnCount := profile.dataQuality.emptyColumnCount }
  recommendations := {
    potentialPrimaryKeys := profile.recommendations.potentialPrimaryKeys
    identifierColumns := profile.recommendations.identifierColumns
    categoricalColumns := profile.recommendations.categoricalColumns
    numericMeasures := profile.recommendations.numericMeasures
    dateDimensions := profile.recommendations.dateDimensions }

/-- No fact of a profile is lost on the way to the client. -/
theorem ProfileResultResponse.modelValidate_injective : Function.Injective modelValidate := by
  rintro ⟨⟨⟩, columns, ⟨⟩, ⟨⟩⟩ ⟨⟨⟩, columns', ⟨⟩, ⟨⟩⟩ h
  simp only [modelValidate, mk.injEq, DatasetSummaryResponse.mk.injEq,
    DataQualityProfileResponse.mk.injEq, ProfileRecommendationsResponse.mk.injEq] at h
  obtain ⟨hsummary, hcolumns, hquality, hrecommendations⟩ := h
  have hcolumn : Function.Injective fun column : ColumnProfile =>
      (⟨column.name, column.dataType, column.nullCount, column.nullPercentage, column.distinctCount,
        column.distinctPercentage⟩ : ColumnProfileResponse) := by
    rintro ⟨⟩ ⟨⟩ hsame
    simpa using hsame
  simp only [ProfileResult.mk.injEq, DatasetSummary.mk.injEq, DataQualityProfile.mk.injEq,
    ProfileRecommendations.mk.injEq]
  exact ⟨hsummary, List.map_injective_iff.mpr hcolumn hcolumns, hquality, hrecommendations⟩

structure DatasetQueryRequest where
  sql : String

structure DatasetQueryResponse (V : Type) where
  sql : String
  /-- One dictionary for every row. -/
  rows : List (List (String × Option V))
  rowCount : Nat
  columnCount : Nat
  executionTimeMs : ℚ

def DataFrame.toDicts (frame : DataFrame V) : List (List (String × Option V)) :=
  frame.rows.map fun row => List.ofFn fun i => (frame.name i, row i)

/-- Names are distinct, so a dictionary has every value of its row under the name of its column. -/
theorem DataFrame.lookup_toDicts (frame : DataFrame V) {dict : List (String × Option V)}
    (hdict : dict ∈ frame.toDicts) :
    ∃ row ∈ frame.rows, ∀ i, dict.lookup (frame.name i) = some (row i) := by
  obtain ⟨row, hrow, rfl⟩ := List.mem_map.mp hdict
  refine ⟨row, hrow, fun i => ?_⟩
  have hlength : (i : Nat) < (List.ofFn fun i => (frame.name i, row i)).length := by simp
  apply List.lookup_eq_some_iff.mpr
  refine ⟨(List.ofFn fun i => (frame.name i, row i)).take i,
    (List.ofFn fun i => (frame.name i, row i)).drop (i + 1), ?_, ?_⟩
  · have hdrop := List.drop_eq_getElem_cons hlength
    rw [List.getElem_ofFn] at hdrop
    rw [← hdrop, List.take_append_drop]
  · intro p hp
    obtain ⟨j, hj, rfl⟩ := List.mem_iff_getElem.mp hp
    rw [List.length_take] at hj
    simp only [List.getElem_take, List.getElem_ofFn, bne_iff_ne, ne_eq]
    intro hname
    have hsame := congrArg Fin.val (frame.name_injective hname)
    simp only at hsame
    omega

/-! ### The routes -/

def listDatasets (tables : CaseTables) (service : DatasetService) :
    Route (List DatasetResponse) := do
  let datasets ← handling .unhandled service.list
  return datasets.map (.modelValidate tables)

def lookupError : ServiceError → RouteError
  | .datasetNotFound message => .httpException 404 message
  | e => .unhandled e

def getDataset (tables : CaseTables) (service : DatasetService) (datasetId : UUID) :
    Route DatasetResponse := do
  let dataset ← handling lookupError (service.get datasetId)
  return .modelValidate tables dataset

def profileError : ServiceError → RouteError
  | .datasetNotFound message => .httpException 404 message
  | .storage (.storageAssetNotFound reference) => .httpException 404 reference
  | .storage (.invalidStorageReference message) => .httpException 400 message
  | .csvLoad message | .excelLoad message | .unsupportedDatasetFormat message =>
      .httpException 422 message
  | e => .unhandled e

def profileDataset (readers : Readers V) (service : DatasetProfilingService V) (datasetId : UUID) :
    Route ProfileResultResponse := do
  let profile ← handling profileError (service.profile readers datasetId)
  return .modelValidate profile

/-- `QueryResourceLimitError` is a `QueryExecutionError`. -/
def queryError : ServiceError → RouteError
  | .datasetNotFound message => .httpException 404 message
  | .storage (.storageAssetNotFound reference) => .httpException 404 reference
  | .storage (.invalidStorageReference message) => .httpException 400 message
  | .csvLoad message | .excelLoad message | .queryExecution message | .queryResourceLimit message
  | .unsupportedDatasetFormat message => .httpException 422 message
  | e => .unhandled e

def queryDataset (table : Text.UpperTable) (readers : Readers V) (service : DatasetQueryService V)
    (datasetId : UUID) (request : DatasetQueryRequest) : Route (DatasetQueryResponse V) := do
  let result ← handling queryError (service.query table readers datasetId request.sql)
  return {
    sql := result.sql
    rows := result.dataframe.toDicts
    rowCount := result.rowCount
    columnCount := result.columnCount
    executionTimeMs := result.executionTimeMs }

/-! ### One process -/

inductive Payload (V : Type)
  /-- The process has started, or stopped. -/
  | lifespan
  | dataset (response : DatasetResponse)
  | datasets (responses : List DatasetResponse)
  | profile (response : ProfileResultResponse)
  | query (response : DatasetQueryResponse V)

/-- A request as it reaches its handler, or an end of the lifespan. An exception at startup keeps
the process from serving. -/
def Application.serve (tables : CaseTables) (table : Text.UpperTable) (readers : Readers V)
    (self : Application V) :
    Operation → Route (Payload V)
  | .startup faults => do
      handling .unhandled
        (askRepository self.repository (SQLiteDatasetRepository.initializeCatalog faults))
      return .lifespan
  | .shutdown => do
      handling .unhandled (askRepository self.repository SQLiteDatasetRepository.close)
      return .lifespan
  | .register id now faults reference =>
      return .dataset (← registerDataset tables self.datasetService id now faults ⟨reference⟩)
  | .get datasetId => return .dataset (← getDataset tables self.datasetService datasetId)
  | .list => return .datasets (← listDatasets tables self.datasetService)
  | .profile datasetId => return .profile (← profileDataset readers self.profilingService datasetId)
  | .query datasetId sql =>
      return .query (← queryDataset table readers self.queryService datasetId ⟨sql⟩)

/-- The `except` clauses of the handler. -/
def Operation.translate : Operation → ServiceError → RouteError
  | .register _ _ _ _ => registrationError
  | .get _ => lookupError
  | .profile _ => profileError
  | .query _ _ => queryError
  | .startup _ | .shutdown | .list => .unhandled

/-- The body that an answer of the services becomes. -/
def Answer.payload (tables : CaseTables) : Answer V → Payload V
  | .done => .lifespan
  | .dataset found => .dataset (.modelValidate tables found)
  | .datasets listed => .datasets (listed.map (.modelValidate tables))
  | .profile profiled => .profile (.modelValidate profiled)
  | .result executed =>
      .query ⟨executed.sql, executed.dataframe.toDicts, executed.rowCount, executed.columnCount,
      executed.executionTimeMs⟩

theorem exec_handling {α : Type} (translate : ServiceError → RouteError) (p : Service α)
    (state : AppState) :
    exec (handling translate p) state = ((exec p state).1.mapError translate, (exec p state).2) :=
  rfl

/-- A route asks the services once, and passes on what they say. -/
theorem exec_handling_bind {α β : Type} (translate : ServiceError → RouteError) (p : Service α)
    (f : α → β) (state : AppState) :
    exec (handling translate p >>= fun a => pure (f a)) state =
      (((exec p state).1.mapError translate).map f, (exec p state).2) := by
  rw [exec_bind, exec_handling]
  rcases exec p state with ⟨e | a, state'⟩
  · rfl
  · rfl

theorem exec_serve (tables : CaseTables) (table : Text.UpperTable) (readers : Readers V)
    (self : Application V) (operation : Operation) (state : AppState) :
    exec (self.serve tables table readers operation) state =
      (((exec (self.perform table readers operation) state).1.mapError operation.translate).map
        (Answer.payload tables),
        (exec (self.perform table readers operation) state).2) := by
  cases operation with
  | startup faults =>
      rw [Application.serve, Application.perform, exec_handling_bind, exec_bind]
      rcases exec (askRepository self.repository (SQLiteDatasetRepository.initializeCatalog faults))
        state with
        ⟨e | _, state'⟩
      · rfl
      · rfl
  | shutdown =>
      rw [Application.serve, Application.perform, exec_handling_bind, exec_bind]
      rcases exec (askRepository self.repository SQLiteDatasetRepository.close) state with
        ⟨e | _, state'⟩
      · rfl
      · rfl
  | register id now faults reference =>
      rw [Application.serve, Application.perform, exec_bind, registerDataset, exec_handling_bind,
        exec_bind]
      rcases exec (self.datasetService.register id now faults reference) state with ⟨e | _, state'⟩
      · rfl
      · rfl
  | get datasetId =>
      rw [Application.serve, Application.perform, exec_bind, getDataset, exec_handling_bind,
        exec_bind]
      rcases exec (self.datasetService.get datasetId) state with ⟨e | _, state'⟩
      · rfl
      · rfl
  | list =>
      rw [Application.serve, Application.perform, exec_bind, listDatasets, exec_handling_bind,
        exec_bind]
      rcases exec self.datasetService.list state with ⟨e | _, state'⟩
      · rfl
      · rfl
  | profile datasetId =>
      rw [Application.serve, Application.perform, exec_bind, profileDataset, exec_handling_bind,
        exec_bind]
      rcases exec (self.profilingService.profile readers datasetId) state with ⟨e | _, state'⟩
      · rfl
      · rfl
  | query datasetId sql =>
      rw [Application.serve, Application.perform, exec_bind, queryDataset, exec_handling_bind,
        exec_bind]
      rcases exec (self.queryService.query table readers datasetId sql) state with ⟨e | _, state'⟩
      · rfl
      · rfl

end Athena
