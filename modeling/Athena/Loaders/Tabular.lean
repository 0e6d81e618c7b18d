import Athena.Dataset.Service
import Athena.Loaders.Models

/-!
# The CSV and the Excel loader

Both loaders check their options, ask the provider to describe the asset and to open it, in this
order and under the same reference, and hand the bytes to Polars. What Polars makes of them is a
parameter; an exception that the loader names becomes its own error, any other one escapes.
-/

namespace Athena

open Library Library.Program

/-- What a reader of Polars does instead of returning a frame. -/
inductive ReadFailure
  /-- It raises one of the exceptions that the loader names. -/
  | named
  | unnamed
  deriving DecidableEq

structure CSVLoadOptions where
  hasHeader : Bool := true
  separator : String := ","
  encoding : String := "utf8"
  nullValues : Option (List String) := none
  schemaOverrides : Option (List (String × DataType)) := none
  inferSchemaLength : Option Int := none

/-- `worksheet`: a name, a number, or a Boolean, which Python counts among the numbers. -/
inductive Worksheet
  | name (text : String)
  | id (number : Int)
  | flag (value : Bool)

structure ExcelLoadOptions where
  worksheet : Option Worksheet := none
  hasHeader : Bool := true
  schemaOverrides : Option (List (String × DataType)) := none
  inferSchemaLength : Option Int := some 100

/-- The keyword arguments of `pl.read_excel`. -/
structure ExcelReadOptions where
  hasHeader : Bool
  schemaOverrides : Option (List (String × DataType))
  inferSchemaLength : Option Int
  sheetName : Option String := none
  sheetId : Option Int := none

/-- `pl.read_csv`, `pl.read_excel` and `estimated_size`. Excel may return several frames instead of
one. -/
structure Readers (V : Type) where
  readCsv : CSVLoadOptions → List UInt8 → Except ReadFailure (DataFrame V)
  readExcel : ExcelReadOptions → List UInt8 → Except ReadFailure (Option (DataFrame V))
  estimatedSize : DataFrame V → Int

variable {V : Type}

/-- The course of both loaders: `validated` is the check of the options, `parse` what becomes of the
bytes. -/
def loadAsset (readers : Readers V) (provider : StorageProvider) (reference : String)
    (validated : Except ServiceError Unit)
    (parse : List UInt8 → Except ServiceError (DataFrame V)) :
    Service (TabularLoadResult V) := do
  MonadExcept.ofExcept validated
  let asset ← askProvider (.describe reference) (provider.describe reference)
  let source ← askProvider (.openBinary reference) (provider.openBinary reference)
  let dataframe ← MonadExcept.ofExcept (parse source)
  return {
    asset := asset, dataframe := dataframe, estimatedSizeBytes := readers.estimatedSize dataframe }

namespace CSVLoader

def validateOptions (options : CSVLoadOptions) : Except ServiceError Unit :=
  if options.separator.length ≠
    1 then .error (.csvLoad "CSV separator must contain exactly one character.")
  else if options.inferSchemaLength.any (· ≤ 0) then
    .error (.csvLoad "CSV schema inference length must be greater than zero.")
  else .ok ()

def parse (readers : Readers V) (reference : String) (options : CSVLoadOptions)
    (source : List UInt8) :
    Except ServiceError (DataFrame V) :=
  match readers.readCsv options source with
  | .ok dataframe => .ok dataframe
  | .error .named => .error (.csvLoad ("Unable to load CSV asset: " ++ reference))
  | .error .unnamed => .error .escaped

def load (readers : Readers V) (provider : StorageProvider) (reference : String)
    (options : Option CSVLoadOptions) : Service (TabularLoadResult V) :=
  let loadOptions := options.getD {}
  loadAsset readers provider reference (validateOptions loadOptions)
    (parse readers reference loadOptions)

theorem validateOptions_default : validateOptions {} = .ok () := rfl

end CSVLoader

namespace ExcelLoader

def isInvalidId : Worksheet → Bool
  | .flag _ => true
  | .id number => number < 1
  | .name _ => false

def isBlankName : Worksheet → Bool
  | .name text => Text.strip text = ""
  | _ => false

def validateOptions (options : ExcelLoadOptions) : Except ServiceError Unit :=
  if options.worksheet.any isInvalidId then
    .error (.excelLoad "Excel worksheet IDs must be positive integers.")
  else if options.worksheet.any isBlankName then
    .error (.excelLoad "Excel worksheet names must not be empty.")
  else if options.inferSchemaLength.any (· ≤ 0) then
    .error (.excelLoad "Excel schema inference length must be greater than zero.")
  else .ok ()

def readOptions (options : ExcelLoadOptions) : ExcelReadOptions :=
  let readOptions : ExcelReadOptions := {
    hasHeader := options.hasHeader, schemaOverrides := options.schemaOverrides
    inferSchemaLength := options.inferSchemaLength }
  match options.worksheet with
  | some (.name text) => { readOptions with sheetName := some text }
  | some (.id number) => { readOptions with sheetId := some number }
  | some (.flag value) => { readOptions with sheetId := some (if value then 1 else 0) }
  | none => readOptions

def parse (readers : Readers V) (reference : String) (options : ExcelLoadOptions)
    (source : List UInt8) :
    Except ServiceError (DataFrame V) :=
  match readers.readExcel (readOptions options) source with
  | .ok (some dataframe) => .ok dataframe
  | .ok none => .error (.excelLoad "Excel worksheet selection must resolve to one worksheet.")
  | .error .named => .error (.excelLoad ("Unable to load Excel asset: " ++ reference))
  | .error .unnamed => .error .escaped

def load (readers : Readers V) (provider : StorageProvider) (reference : String)
    (options : Option ExcelLoadOptions) : Service (TabularLoadResult V) :=
  let loadOptions := options.getD {}
  loadAsset readers provider reference (validateOptions loadOptions)
    (parse readers reference loadOptions)

theorem validateOptions_default : validateOptions {} = .ok () := rfl

end ExcelLoader

/-! ### What a loader asks and returns -/

/-- What a loader asks the provider: it opens the asset only if it could be described. -/
def asked (provider : StorageProvider) (reference : String) : List StorageCall :=
  match provider.describe reference with
  | .error _ => [.describe reference]
  | .ok _ => [.describe reference, .openBinary reference]

/-- What a loader returns, given what the provider answers. -/
def answered (readers : Readers V) (provider : StorageProvider) (reference : String)
    (parse : List UInt8 → Except ServiceError (DataFrame V)) :
    Except ServiceError (TabularLoadResult V) := do
  let asset ← (provider.describe reference).mapError .storage
  let source ← (provider.openBinary reference).mapError .storage
  let dataframe ← parse source
  return {
    asset := asset, dataframe := dataframe, estimatedSizeBytes := readers.estimatedSize dataframe }

/-- A loader whose options are in order leaves the world alone. -/
theorem exec_loadAsset (readers : Readers V) (provider : StorageProvider) (reference : String)
    (parse : List UInt8 → Except ServiceError (DataFrame V)) (state : AppState) :
    exec (loadAsset readers provider reference (.ok ()) parse) state =
      (answered readers provider reference parse,
        { state with calls := state.calls ++ asked provider reference }) := by
  rw [loadAsset, exec_bind, exec_ofExcept]
  simp only [exec_bind, exec_askProvider]
  rw [answered, asked]
  cases provider.describe reference with
  | error e => rfl
  | ok asset =>
      cases provider.openBinary reference with
      | error e => simp [Except.mapError, bind, Except.bind]
      | ok source =>
          cases hparse : parse source with
          | error e => simp [Except.mapError, bind, Except.bind, hparse]
          | ok dataframe =>
              simp only [Except.mapError, bind, Except.bind, exec_ofExcept, hparse,
                List.append_assoc]
              rfl

/-- What is returned depends on the provider through its two answers only. -/
theorem answered_congr {readers : Readers V} {provider provider' : StorageProvider}
    {reference : String} (hdescribe : provider.describe reference = provider'.describe reference)
    (hopen : provider.openBinary reference = provider'.openBinary reference)
    (parse : List UInt8 → Except ServiceError (DataFrame V)) :
    answered readers provider reference parse = answered readers provider' reference parse := by
  rw [answered, answered, hdescribe, hopen]

end Athena
