/-! The rows in which a catalog answers: one for each label of an enum, each table, each column of a
    table and each index of a table. -/

namespace Introspect

/-- A label of an enum, with the schema and the name of the enum. -/
structure LabelRow where
  schema : String
  name : String
  value : String
deriving DecidableEq, Repr

/-- A table or view. -/
structure TableRow where
  catalog : String
  schema : String
  name : String
deriving DecidableEq, Repr

/-- A column of a table; `typeName` is the raw name of its type. -/
structure ColumnRow where
  position : Int32
  name : String
  typeName : String
  nullable : Bool
deriving DecidableEq, Repr

/-- An index of a table. A key is the name of a column, or an expression as the database prints it,
    in which names may be quoted. -/
structure IndexRow where
  name : String
  keys : List String
deriving DecidableEq, Repr

end Introspect
