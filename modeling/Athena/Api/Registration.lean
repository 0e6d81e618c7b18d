import Athena.Dataset.Service
import Athena.Storage.Leads

/-!
# Registering a dataset over HTTP

`POST /datasets` registers the reference of its body. The route answers 404 and 400 for the two
exceptions the storage port declares; any other exception leaves it, and the server answers 500. The
provider translates one failure of `pathlib` only, that of `relative_to`. So what decides is the way
the reference takes: a null character, a loop of links, a name too long for the directory it is
looked up in, or a path too long for the system gets through both.
-/

namespace Athena

open Library Library.Program Persistence SQLiteDatasetRepository FileSystem

/-! ### The route -/

structure DatasetRegistrationRequest where
  reference : String

structure DatasetResponse where
  id : UUID
  name : String
  sourceType : String
  assetUri : String
  sizeBytes : Int
  createdAt : Datetime
  status : DatasetStatus
  sha256 : Option String
  extension : String

/-- `DatasetResponse.model_validate(dataset)`. -/
def DatasetResponse.modelValidate (tables : CaseTables) (dataset : Dataset) : DatasetResponse where
  id := dataset.id
  name := dataset.name
  sourceType := dataset.sourceType
  assetUri := dataset.assetUri
  sizeBytes := dataset.sizeBytes
  createdAt := dataset.createdAt
  status := dataset.status
  sha256 := dataset.sha256
  extension := dataset.extension tables

inductive RouteError
  | httpException (statusCode : Nat) (detail : String)
  /-- The handler lets the exception escape. -/
  | unhandled (e : ServiceError)

abbrev Route (α : Type) := Program RouteError AppState α

/-- Run a service method, with the `except` clauses of the handler around it. -/
def handling {α : Type} (translate : ServiceError → RouteError) (p : Service α) : Route α :=
  fun state =>
  match exec p state with
  | (result, state) => (result.mapError translate, state)

def registrationError : ServiceError → RouteError
  | .storage (.storageAssetNotFound reference) => .httpException 404 reference
  | .storage (.invalidStorageReference message) => .httpException 400 message
  | e => .unhandled e

def registerDataset (tables : CaseTables) (service : DatasetService) (id : UUID) (now : Datetime)
    (faults : AddFaults) (request : DatasetRegistrationRequest) : Route DatasetResponse := do
  let dataset ← handling registrationError (service.register id now faults request.reference)
  return .modelValidate tables dataset

/-- What the server answers with, when a handler that returns answers `success`. -/
def statusCode {α : Type} (success : Nat) : Except RouteError α → Nat
  | .ok _ => success
  | .error (.httpException statusCode _) => statusCode
  | .error (.unhandled _) => 500

namespace LocalStorageProvider

variable {provider : LocalStorageProvider} {fs : FileSystem} {reference : String}

end LocalStorageProvider

/-! ### What the route answers -/

/-- A catalog that has only been used through its repository, and an object and an id that are ready
for an `add`. -/
structure HealthyCatalog (events : List Event) (w : World) (object : Nat) (id : UUID) : Prop where
  run : Trace World.Step World.fresh events w
  initialized : object ∈ initializedBy events
  fresh : ∀ added ∈ addedBy events, added.id ≠ id

theorem HealthyCatalog.add_returns {events : List Event} {w : World} {object : Nat}
    {dataset : Dataset}
    (h : HealthyCatalog events w object dataset.id) (hutc : dataset.createdAt.UtcRepresentable)
    (hsize : SizeFits dataset.sizeBytes) (calls : List StorageCall) :
    ∃ w', exec (askRepository object (SQLiteDatasetRepository.add {} dataset)) ⟨w, calls⟩ =
      (.ok ⟨⟩, ⟨w', calls⟩) := by
  obtain ⟨m, htrace, hrep⟩ := World.refines h.run
  have hreflects := CatalogMap.reflects htrace
  have hobject : object ∈ m.initialized := hreflects.initialized ▸ h.initialized
  have hreturns : ¬∃ e, (w.call object (.add {} dataset)).1 = .raised e := by
    rw [hrep.call_add_raises_iff hobject, hreflects.mem_entries_iff]
    rintro (⟨added, hadded, hid⟩ | hlate | hlarge)
    · exact h.fresh added hadded hid
    · exact hlate hutc
    · exact hlarge hsize
  rw [exec_askRepository]
  rcases hrun : exec (SQLiteDatasetRepository.add {} dataset)
    ⟨w.database, w.connections object⟩ with ⟨e | _, self⟩
  · exact absurd ⟨e, by simp only [World.call, World.run, hrun]⟩ hreturns
  · exact ⟨_, rfl⟩

end Athena
