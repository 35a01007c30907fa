import Introspect.Catalog.Row

/-! Catalogs: what describes a database.

    A catalog answers five questions, each of them with rows or with an error. It is a plain value,
    so asking twice gives the same answer. An error says which question failed and why: the
    database did not deliver the rows, a cell has a value that cannot be, or there is no such
    table. -/

namespace Introspect

/-- The questions that a catalog answers. -/
inductive Operation
  | enums | tables | columns | primaryKey | indexes
deriving DecidableEq, Repr

namespace Operation

/-- Every operation. -/
def all : List Operation := [enums, tables, columns, primaryKey, indexes]

/-- The word by which an operation is named. -/
def name : Operation → String
  | enums => "enums"
  | tables => "tables"
  | columns => "columns"
  | primaryKey => "primary_key"
  | indexes => "indexes"

/-- The operation with the given name. -/
def ofName? (name : String) : Option Operation := all.find? (·.name == name)

/-- What was being done, for messages. -/
def label : Operation → String
  | enums => "querying enums"
  | tables => "querying tables"
  | columns => "querying columns"
  | primaryKey => "querying primary key"
  | indexes => "querying indexes"

end Operation

/-- Why a database did not deliver. -/
inductive Failure
  | server (message : String)
  | unexpectedNull (column : String)
  | closed
deriving DecidableEq, Repr

/-- The failure in words. -/
def Failure.message : Failure → String
  | server message => s!"error returned from database: {message}"
  | unexpectedNull column =>
    s!"error occurred while decoding column \"{column}\": " ++
      "unexpected null; try decoding as an `Option`"
  | closed => "attempted to acquire a connection on a closed pool"

/-- Why a catalog has no answer. -/
inductive InspectError
  | query (operation : Operation) (failure : Failure)
  | decode (operation : Operation) (column value : String)
  | missingTable (operation : Operation) (schema table : String)
deriving DecidableEq, Repr

namespace InspectError

/-- The operation that failed. -/
def operation : InspectError → Operation
  | query op _ | decode op _ _ | missingTable op _ _ => op

/-- The error in words, after the label of its operation. -/
def message : InspectError → String
  | query op failure => s!"{op.label}: {failure.message}"
  | decode op column value => s!"{op.label}: column '{column}' has unexpected value '{value}'"
  | missingTable op schema table => s!"{op.label}: table '{schema}.{table}' not found"

end InspectError

/-- The answers of a catalog: all enum labels, the tables of a schema, and the columns, the names of
    the key columns and the indexes of a table. -/
structure Catalog where
  enums : Except InspectError (List LabelRow)
  tables : (schema : String) → Except InspectError (List TableRow)
  columns : (schema table : String) → Except InspectError (List ColumnRow)
  primaryKey : (schema table : String) → Except InspectError (List String)
  indexes : (schema table : String) → Except InspectError (List IndexRow)

end Introspect
