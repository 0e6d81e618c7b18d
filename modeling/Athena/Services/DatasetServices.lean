import Athena.Loaders.Tabular
import Athena.Profiling.Models
import Athena.Query.DuckDB
import Athena.Query.Policy

/-!
# Profiling and querying a registered dataset

Both services take the dataset from the catalog, choose a loader by its source type, and load the
dataset under its retained reference. Each has its own copy of the choice. `Application` is what
`create_application` wires together: three services over one provider and one repository object.
-/

namespace Athena

open Library Library.Program Persistence

variable {V : Type}

structure DatasetProfilingService (V : Type) where
  datasetService : DatasetService
  storageProvider : StorageProvider
  profiler : TabularLoadResult V → Except PolarsError ProfileResult

namespace DatasetProfilingService

def load (readers : Readers V) (self : DatasetProfilingService V) (dataset : Dataset) :
    Service (TabularLoadResult V) :=
  if dataset.sourceType =
    "csv" then CSVLoader.load readers self.storageProvider dataset.reference none
  else if dataset.sourceType ∈
    ["xls", "xlsx"] then ExcelLoader.load readers self.storageProvider dataset.reference none
  else throw (.unsupportedDatasetFormat ("Unsupported dataset format: " ++ dataset.sourceType))

def profile (readers : Readers V) (self : DatasetProfilingService V) (datasetId : UUID) :
    Service ProfileResult := do
  let dataset ← self.datasetService.get datasetId
  let result ← self.load readers dataset
  MonadExcept.ofExcept ((self.profiler result).mapError .profiler)

end DatasetProfilingService

structure DatasetQueryService (V : Type) where
  datasetService : DatasetService
  storageProvider : StorageProvider
  /-- What one execution of a query on a loaded dataset comes to. -/
  queryEngine : TabularLoadResult V → String → DuckDBQueryEngine.Outcome V
  maxRows : Int := 10000

namespace DatasetQueryService

def load (readers : Readers V) (self : DatasetQueryService V) (dataset : Dataset) :
    Service (TabularLoadResult V) :=
  if dataset.sourceType =
    "csv" then CSVLoader.load readers self.storageProvider dataset.reference none
  else if dataset.sourceType ∈
    ["xls", "xlsx"] then ExcelLoader.load readers self.storageProvider dataset.reference none
  else throw (.unsupportedDatasetFormat ("Unsupported dataset format: " ++ dataset.sourceType))

/-- What the engine's outcome is to the caller, with the limit on the rows of a result. -/
def execute (self : DatasetQueryService V) (sql : String) (result : TabularLoadResult V) :
    Except ServiceError (DuckDBQueryEngine.QueryResult V) :=
  match self.queryEngine result sql with
  | .raised (.queryExecutionError message) => .error (.queryExecution message)
  | .raised (.queryResourceLimitError message) => .error (.queryResourceLimit message)
  | .raised .escaped => .error .escaped
  | .returned result =>
      if self.maxRows < result.rowCount then
        .error (.queryResourceLimit
          ("Query result exceeds the configured maximum of " ++ toString self.maxRows ++ " rows."))
      else .ok result

def query (table : Text.UpperTable) (readers : Readers V) (self : DatasetQueryService V)
    (datasetId : UUID) (sql : String) :
    Service (DuckDBQueryEngine.QueryResult V) := do
  MonadExcept.ofExcept (validateSql table sql)
  let dataset ← self.datasetService.get datasetId
  let result ← self.load readers dataset
  MonadExcept.ofExcept (self.execute sql result)

end DatasetQueryService

/-! ### What both services load -/

/-- The source types that there is a loader for. -/
def SUPPORTED : List String := ["csv", "xls", "xlsx"]

/-- What a dataset is loaded as, and what the provider is asked for it. -/
def loads (readers : Readers V) (provider : StorageProvider) (dataset : Dataset) :
    Except ServiceError (TabularLoadResult V) × List StorageCall :=
  if dataset.sourceType = "csv" then
    (answered readers provider dataset.reference (CSVLoader.parse readers dataset.reference {}),
      asked provider dataset.reference)
  else if dataset.sourceType ∈ ["xls", "xlsx"] then
    (answered readers provider dataset.reference (ExcelLoader.parse readers dataset.reference {}),
      asked provider dataset.reference)
  else (.error (.unsupportedDatasetFormat ("Unsupported dataset format: " ++ dataset.sourceType)),
    [])

theorem exec_choice (readers : Readers V) (provider : StorageProvider) (dataset : Dataset)
    (state : AppState) :
    exec (if dataset.sourceType = "csv" then CSVLoader.load readers provider dataset.reference none
        else if dataset.sourceType ∈
          ["xls", "xlsx"] then ExcelLoader.load readers provider dataset.reference none
        else throw (.unsupportedDatasetFormat
          ("Unsupported dataset format: " ++ dataset.sourceType))) state =
      ((loads readers provider dataset).1,
        { state with calls := state.calls ++ (loads readers provider dataset).2 }) := by
  rw [loads]
  split
  · exact exec_loadAsset readers provider dataset.reference _ state
  · split
    · exact exec_loadAsset readers provider dataset.reference _ state
    · rw [exec_throw, List.append_nil]

theorem DatasetProfilingService.exec_load (readers : Readers V) (self : DatasetProfilingService V)
    (dataset : Dataset) (state : AppState) :
    exec (self.load readers dataset) state =
      ((loads readers self.storageProvider dataset).1,
        { state with calls := state.calls ++ (loads readers self.storageProvider dataset).2 }) :=
  exec_choice readers self.storageProvider dataset state

/-- The two copies of the choice are in step. -/
theorem DatasetQueryService.exec_load (readers : Readers V) (self : DatasetQueryService V)
    (dataset : Dataset) (state : AppState) :
    exec (self.load readers dataset) state =
      ((loads readers self.storageProvider dataset).1,
        { state with calls := state.calls ++ (loads readers self.storageProvider dataset).2 }) :=
  exec_choice readers self.storageProvider dataset state

theorem loads_supported (readers : Readers V) (provider : StorageProvider) {dataset : Dataset}
    (h : dataset.sourceType ∈ SUPPORTED) :
    (loads readers provider dataset).2 = asked provider dataset.reference := by
  rw [loads]
  split
  · rfl
  · rename_i hcsv
    rw [if_pos]
    exact (List.mem_cons.mp h).resolve_left hcsv

theorem loads_unsupported (readers : Readers V) (provider : StorageProvider) {dataset : Dataset}
    (h : dataset.sourceType ∉ SUPPORTED) :
    loads readers provider dataset =
      (.error (.unsupportedDatasetFormat ("Unsupported dataset format: " ++ dataset.sourceType)),
        []) := by
  obtain ⟨hcsv, hexcel⟩ := not_or.mp (mt List.mem_cons.mpr h)
  rw [loads, if_neg hcsv, if_neg hexcel]

theorem loads_congr {readers : Readers V} {provider provider' : StorageProvider} {dataset : Dataset}
    (hdescribe : provider.describe dataset.reference = provider'.describe dataset.reference)
    (hopen : provider.openBinary dataset.reference = provider'.openBinary dataset.reference) :
    loads readers provider dataset = loads readers provider' dataset := by
  simp only [loads, answered_congr hdescribe hopen, asked, hdescribe]

/-! ### The application -/

/-- The wiring of one process, with its storage as it is at one moment. -/
structure Application (V : Type) where
  storageProvider : StorageProvider
  repository : Nat
  providerId : String
  profiler : TabularLoadResult V → Except PolarsError ProfileResult
  queryEngine : TabularLoadResult V → String → DuckDBQueryEngine.Outcome V
  maxRows : Int

inductive Operation
  /-- A process begins to serve, on its own repository object. -/
  | startup (faults : InitializeFaults)
  | shutdown
  | register (id : UUID) (now : Datetime) (faults : AddFaults) (reference : String)
  | get (datasetId : UUID)
  | list
  | profile (datasetId : UUID)
  | query (datasetId : UUID) (sql : String)

inductive Answer (V : Type)
  | done
  | dataset (dataset : Dataset)
  | datasets (datasets : List Dataset)
  | profile (result : ProfileResult)
  | result (result : DuckDBQueryEngine.QueryResult V)

namespace Application

def datasetService (self : Application V) : DatasetService :=
  ⟨self.storageProvider, self.repository, self.providerId⟩

def profilingService (self : Application V) : DatasetProfilingService V :=
  ⟨self.datasetService, self.storageProvider, self.profiler⟩

def queryService (self : Application V) : DatasetQueryService V :=
  ⟨self.datasetService, self.storageProvider, self.queryEngine, self.maxRows⟩

def perform (table : Text.UpperTable) (readers : Readers V) (self : Application V) :
    Operation → Service (Answer V)
  | .startup faults => do
      askRepository self.repository (SQLiteDatasetRepository.initializeCatalog faults)
      return .done
  | .shutdown => do
      askRepository self.repository SQLiteDatasetRepository.close
      return .done
  | .register id now faults reference =>
      return .dataset (← self.datasetService.register id now faults reference)
  | .get datasetId => return .dataset (← self.datasetService.get datasetId)
  | .list => return .datasets (← self.datasetService.list)
  | .profile datasetId => return .profile (← self.profilingService.profile readers datasetId)
  | .query datasetId sql => return .result (← self.queryService.query table readers datasetId sql)

end Application

end Athena
