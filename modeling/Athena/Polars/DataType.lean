import Mathlib.Data.List.Infix

/-!
# Polars data types

The text of a data type is the name of its constructor, followed for a parametrised type by its
parameters in parentheses. How Polars prints the parameters is left open.
-/

namespace Athena

inductive DataType
  | int8 | int16 | int32 | int64 | int128
  | uint8 | uint16 | uint32 | uint64 | uint128
  | float16 | float32 | float64
  | decimal (precision : Option Nat) (scale : Nat)
  | boolean | string | binary
  | date | time
  | datetime (timeUnit : String) (timeZone : Option String)
  | duration (timeUnit : String)
  /-- Without parameters for the global string cache. -/
  | categorical (categories : Option String)
  | enum (categories : List String)
  | list (inner : DataType)
  | array (inner : DataType) (size : Nat)
  | struct (fields : List (String × DataType))
  | null | object | unknown

namespace DataType

/-- The constructor's name. -/
def className : DataType → String
  | int8 => "Int8" | int16 => "Int16" | int32 => "Int32" | int64 => "Int64" | int128 => "Int128"
  | uint8 => "UInt8" | uint16 => "UInt16" | uint32 => "UInt32" | uint64 => "UInt64"
  | uint128 => "UInt128"
  | float16 => "Float16" | float32 => "Float32" | float64 => "Float64"
  | decimal _ _ => "Decimal"
  | boolean => "Boolean" | string => "String" | binary => "Binary"
  | date => "Date" | time => "Time"
  | datetime _ _ => "Datetime"
  | duration _ => "Duration"
  | categorical _ => "Categorical"
  | enum _ => "Enum"
  | list _ => "List"
  | array _ _ => "Array"
  | struct _ => "Struct"
  | null => "Null" | object => "Object" | unknown => "Unknown"

def isParametrised : DataType → Bool
  | decimal _ _ | datetime _ _ | duration _ | categorical (some _) | enum _ | list _ | array _ _
  | struct _ => true
  | _ => false

/-- `str(data_type)`, where `parameters` prints what goes between the parentheses. -/
def str (parameters : DataType → String) (t : DataType) : String :=
  if t.isParametrised then t.className ++ "(" ++ parameters t ++ ")" else t.className

/-- `data_type.is_numeric()`. -/
def isNumeric : DataType → Bool
  | int8 | int16 | int32 | int64 | int128 | uint8 | uint16 | uint32 | uint64 | uint128 => true
  | float16 | float32 | float64 | decimal _ _ => true
  | _ => false

end DataType

end Athena
