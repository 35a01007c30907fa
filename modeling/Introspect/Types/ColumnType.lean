import Introspect.Types.Scalar

/-! The type of a column, and the expressions that move its values.

    A column type is a built-in scalar or an enum of the database. `decode` writes the expression
    that reads a field of a row, `encode` the one that turns a value into a parameter of a
    statement; both have a second form for columns that may be null. The name of the field stands
    in the expression as it is, between quotes. -/

namespace Introspect

/-- A type that a column can have. -/
inductive ColumnType
  | scalar (scalar : Scalar)
  | enumeration (name exported : String)
deriving DecidableEq, Repr

namespace ColumnType

/-- The type in which generated code stores a value that is not null. -/
def storage : ColumnType → String
  | .scalar s => s.storage
  | .enumeration _ exported => exported

/-- The type's description: the raw name of a scalar, the word `enum` before that of an enum. -/
def describe : ColumnType → String
  | .scalar s => s.rawName
  | .enumeration name _ => s!"enum {name}"

/-- Whether the type is an enum of the database. -/
def isEnumeration : ColumnType → Bool
  | .scalar _ => false
  | .enumeration _ _ => true

/-- The call that fetches `field` of the row as a value of type `type`. -/
def fetch (row field type : String) : String :=
  s!"{row}.try_get::<{type}, _>(\"{field}\")?"

/-- The expression that reads `field` of `row`, as an option if the field may be null. -/
def decode (t : ColumnType) (row field : String) (nullable : Bool) : String :=
  match t, nullable with
  | .scalar .jsonb, false =>
    "serde_json::to_vec(&" ++ fetch row field "serde_json::Value" ++ ")?"
  | .scalar .jsonb, true =>
    fetch row field "Option<serde_json::Value>"
      ++ ".map(|v| serde_json::to_vec(&v)).transpose()?"
  | .scalar s, false => fetch row field s.storage
  | .scalar s, true => fetch row field s!"Option<{s.storage}>"
  | .enumeration _ exported, false =>
    fetch row field "String" ++ s!".parse::<{exported}>()?"
  | .enumeration _ exported, true =>
    fetch row field "Option<String>" ++ s!".map(|v| v.parse::<{exported}>()).transpose()?"

/-- The expression that binds `value`, an option if the value may be null. -/
def encode (t : ColumnType) (value : String) (nullable : Bool) : String :=
  match t, nullable with
  | .scalar .text, false | .scalar .varchar, false => s!"{value}.as_str()"
  | .scalar .bytea, false => s!"{value}.as_slice()"
  | .scalar .uuidArray, false => s!"&{value}[..]"
  | .scalar .text, true | .scalar .varchar, true | .scalar .bytea, true
  | .scalar .uuidArray, true => s!"{value}.as_deref()"
  | .scalar .jsonb, false => s!"serde_json::from_slice::<serde_json::Value>(&{value})?"
  | .scalar .jsonb, true =>
    s!"{value}.as_deref().map(serde_json::from_slice::<serde_json::Value>).transpose()?"
  | .scalar _, _ => value
  | .enumeration _ _, false => s!"{value}.as_str()"
  | .enumeration _ _, true => s!"{value}.as_ref().map(|v| v.as_str())"

end ColumnType

end Introspect
