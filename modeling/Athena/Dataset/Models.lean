import Athena.Python.Datetime
import Athena.Python.Uuid
import Athena.Storage.PurePath

/-!
# The dataset aggregate
-/

namespace Athena

inductive DatasetStatus
  | new
  | registered
  | profiled
  | validated
  | ready
  | archived
  deriving DecidableEq, Repr

namespace DatasetStatus

def value : DatasetStatus → String
  | new => "new"
  | registered => "registered"
  | profiled => "profiled"
  | validated => "validated"
  | ready => "ready"
  | archived => "archived"

def all : List DatasetStatus := [new, registered, profiled, validated, ready, archived]

/-- `DatasetStatus(text)`. -/
def ofText (text : String) : Except PyException DatasetStatus :=
  match all.find? (·.value == text) with
  | some status => .ok status
  | none => .error (.valueError ("'" ++ text ++ "' is not a valid DatasetStatus"))

@[simp] theorem ofText_value (status : DatasetStatus) : ofText status.value = .ok status := by
  cases status <;> decide

theorem mem_all (status : DatasetStatus) : status ∈ all := by
  cases status <;> decide

end DatasetStatus

structure Dataset where
  id : UUID
  providerId : String
  name : String
  sourceType : String
  reference : String
  assetUri : String
  sizeBytes : Int
  createdAt : Datetime
  status : DatasetStatus
  sha256 : Option String
  deriving DecidableEq

/-- The `extension` property: what `Path` takes for a suffix in the text of the URI. -/
def Dataset.extension (tables : CaseTables) (dataset : Dataset) : String :=
  Text.lower tables (PurePath.suffix (components dataset.assetUri))

end Athena
