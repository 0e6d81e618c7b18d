import Athena.Persistence.CatalogRefinement
import Athena.Storage.Assets

/-!
# The dataset service

A service method is a program over the catalog's world and the calls of the storage provider it has
made. What `uuid4` and the clock give it, and what goes wrong around the catalog, comes from
outside.
-/

namespace Athena

open Library Library.Program Persistence

inductive ServiceError
  | storage (e : StorageError)
  /-- Raised by the repository. -/
  | catalog (e : PyException)
  | datasetNotFound (message : String)
  | csvLoad (message : String)
  | excelLoad (message : String)
  | unsupportedDatasetFormat (message : String)
  | queryExecution (message : String)
  | queryResourceLimit (message : String)
  | profiler (e : PolarsError)
  /-- An exception that no component translates. -/
  | escaped
  deriving DecidableEq

inductive StorageCall
  | describe (reference : String)
  | openBinary (reference : String)
  deriving DecidableEq

structure AppState where
  world : World
  calls : List StorageCall

abbrev Service (α : Type) := Program ServiceError AppState α

/-- Ask the provider, and note what it was asked. -/
def askProvider {α : Type} (call : StorageCall) (answer : Except StorageError α) : Service α := do
  modify fun state => { state with calls := state.calls ++ [call] }
  MonadExcept.ofExcept (answer.mapError .storage)

/-- Run a method of the repository object `object`. -/
def askRepository {α : Type} (object : Nat) (p : Program PyException SQLiteDatasetRepository α) :
    Service α := fun state =>
  match exec p ⟨state.world.database, state.world.connections object⟩ with
  | (result, self) => (result.mapError .catalog,
      { state with
        world := ⟨self.database, Function.update state.world.connections object self.connection⟩ })

structure DatasetService where
  storageProvider : StorageProvider
  repository : Nat
  providerId : String

namespace DatasetService

/-- The dataset that `register` makes of an asset. -/
def datasetOf (self : DatasetService) (id : UUID) (now : Datetime) (asset : StorageAsset) :
    Dataset where
  id := id
  providerId := self.providerId
  name := asset.name
  sourceType := asset.extension
  reference := asset.reference
  assetUri := asset.uri
  sizeBytes := asset.sizeBytes
  createdAt := now
  status := .registered
  sha256 := some asset.sha256

def register (self : DatasetService) (id : UUID) (now : Datetime) (faults : AddFaults)
    (reference : String) :
    Service Dataset := do
  let asset ← askProvider (.describe reference) (self.storageProvider.describe reference)
  let dataset := self.datasetOf id now asset
  askRepository self.repository (SQLiteDatasetRepository.add faults dataset)
  return dataset

def get (self : DatasetService) (datasetId : UUID) : Service Dataset := do
  match ← askRepository self.repository (SQLiteDatasetRepository.get datasetId) with
  | some dataset => return dataset
  | none => throw (.datasetNotFound datasetId.str)

def list (self : DatasetService) : Service (List Dataset) :=
  askRepository self.repository SQLiteDatasetRepository.list

end DatasetService

/-! ### What one question does -/

@[simp] theorem exec_askProvider {α : Type} (call : StorageCall) (answer : Except StorageError α)
    (state : AppState) :
    exec (askProvider call answer) state =
      (answer.mapError .storage, { state with calls := state.calls ++ [call] }) := by
  rw [askProvider, exec_bind, exec_modify]
  exact exec_ofExcept _ _

theorem exec_askRepository {α : Type} (object : Nat)
    (p : Program PyException SQLiteDatasetRepository α) (state : AppState) :
    exec (askRepository object p) state =
      match exec p ⟨state.world.database, state.world.connections object⟩ with
      | (result, self) => (result.mapError .catalog,
          { state with world :=
            ⟨self.database, Function.update state.world.connections object self.connection⟩ }) :=
              rfl

/-- What a call of the world comes to, for the service that makes it. -/
theorem exec_askRepository_of_run {α : Type} {object : Nat}
    {p : Program PyException SQLiteDatasetRepository α}
    {respond : α → Response} {w w' : World} {response : Response}
    (h : w.run object p respond = (response, w')) (calls : List StorageCall) :
    ∃ result : Except PyException α,
      exec (askRepository object p) ⟨w, calls⟩ = (result.mapError .catalog, ⟨w', calls⟩) ∧
      match result with
      | .ok a => response = respond a
      | .error e => response = .raised e := by
  rw [World.run] at h
  rw [exec_askRepository]
  rcases hrun : exec p ⟨w.database, w.connections object⟩ with ⟨e | a, self⟩
  · rw [hrun] at h
    obtain ⟨hresponse, rfl⟩ := Prod.mk.inj h
    exact ⟨.error e, rfl, hresponse.symm⟩
  · rw [hrun] at h
    obtain ⟨hresponse, rfl⟩ := Prod.mk.inj h
    exact ⟨.ok a, rfl, hresponse.symm⟩

namespace DatasetService

theorem exec_register (self : DatasetService) (id : UUID) (now : Datetime) (faults : AddFaults)
    (reference : String) (state : AppState) :
    exec (self.register id now faults reference) state =
      match self.storageProvider.describe reference with
      | .error e =>
          (.error (.storage e), { state with calls := state.calls ++ [.describe reference] })
      | .ok asset =>
        match exec (askRepository self.repository
          (SQLiteDatasetRepository.add faults (self.datasetOf id now asset)))
            { state with calls := state.calls ++ [.describe reference] } with
        | (.error e, state) => (.error e, state)
        | (.ok _, state) => (.ok (self.datasetOf id now asset), state) := by
  rw [register, exec_bind, exec_askProvider]
  cases self.storageProvider.describe reference with
  | error e => rfl
  | ok asset =>
      simp only [Except.mapError, exec_bind]
      rcases exec (askRepository self.repository
        (SQLiteDatasetRepository.add faults (self.datasetOf id now asset)))
          { state with calls := state.calls ++ [.describe reference] } with ⟨e | _, state⟩
      · rfl
      · rfl

end DatasetService

/-- 11 o'clock on 11 August 2026, in UTC. -/
def sampleNow : Datetime :=
  { sampleDataset.createdAt with utcoffset := some 0, validOffset := Datetime.validOffset_utc }

end Athena
