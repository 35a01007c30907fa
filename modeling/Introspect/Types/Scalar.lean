/-! The built-in column types: fourteen scalar types of the database, each with its name there, the
    label under which documents mention it, and the type in which generated code stores it. -/

namespace Introspect

/-- A built-in type of the database. -/
inductive Scalar
  | text | varchar | bytea | int2 | int4 | int8 | bool | uuid | uuidArray
  | timestamp | timestamptz | float4 | float8 | jsonb
deriving DecidableEq, Repr

namespace Scalar

/-- Every built-in type, in the order in which a fresh registry takes them in. -/
def all : List Scalar :=
  [text, varchar, bytea, int2, int4, int8, bool, uuid, uuidArray, timestamp, timestamptz,
    float4, float8, jsonb]

/-- The name of the type in the database; an array type has an underscore in front. -/
def rawName : Scalar → String
  | text => "text"
  | varchar => "varchar"
  | bytea => "bytea"
  | int2 => "int2"
  | int4 => "int4"
  | int8 => "int8"
  | bool => "bool"
  | uuid => "uuid"
  | uuidArray => "_uuid"
  | timestamp => "timestamp"
  | timestamptz => "timestamptz"
  | float4 => "float4"
  | float8 => "float8"
  | jsonb => "jsonb"

/-- The label of the type in documents: its name, and `uuid_array` for the array type. -/
def label : Scalar → String
  | uuidArray => "uuid_array"
  | s => s.rawName

/-- The type in which generated code stores a value. -/
def storage : Scalar → String
  | text | varchar => "String"
  | bytea | jsonb => "Vec<u8>"
  | int2 => "i16"
  | int4 => "i32"
  | int8 => "i64"
  | bool => "bool"
  | uuid => "uuid::Uuid"
  | uuidArray => "Vec<uuid::Uuid>"
  | timestamp => "chrono::NaiveDateTime"
  | timestamptz => "chrono::DateTime<chrono::Utc>"
  | float4 => "f32"
  | float8 => "f64"

/-- The built-in type with the given label. -/
def ofLabel? (label : String) : Option Scalar := all.find? (·.label == label)

end Scalar

end Introspect
