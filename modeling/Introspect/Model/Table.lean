import Introspect.Types.Registry

/-! Columns, tables and schemas.

    A table keeps its columns in the order of their positions, and its primary key as the columns
    that are flagged as key columns, in that same order. A column looks its type up in a registry,
    and everything that generated code needs about it follows from that type and from whether the
    column may be null. -/

namespace Introspect

/-- A column of a table. -/
structure Column where
  position : Int32
  name : String
  typeName : String
  nullable : Bool
  isKey : Bool
deriving DecidableEq, Repr

namespace Column

/-- The name of the column in generated code. -/
def exported (c : Column) : String := Name.exported c.name

/-- The name of a local variable for the column. -/
def camel (c : Column) : String := Name.camel c.name

/-- The type of the column. -/
def type (c : Column) (r : Registry) : Except RegistryError ColumnType := r.lookup c.typeName

/-- The type in which generated code stores the column, an option if it may be null. -/
def storage (c : Column) (r : Registry) : Except RegistryError String :=
  (c.type r).map fun t => if c.nullable then s!"Option<{t.storage}>" else t.storage

/-- The expression that reads the column from `row`. -/
def decode (c : Column) (r : Registry) (row : String) : Except RegistryError String :=
  (c.type r).map (·.decode row c.name c.nullable)

/-- The expression that binds `value` for the column. -/
def encode (c : Column) (r : Registry) (value : String) : Except RegistryError String :=
  (c.type r).map (·.encode value c.nullable)

end Column

/-- An index over columns of a table. -/
structure Index where
  name : String
  columns : List Column
deriving DecidableEq, Repr

/-- A table or view. -/
structure Table where
  catalog : String
  schema : String
  name : String
  columns : List Column
  primaryKey : List Column
  indexes : List Index
deriving DecidableEq, Repr

namespace Table

/-- Columns in the order of their positions; columns at one position keep their order. -/
def byPosition (columns : List Column) : List Column :=
  columns.mergeSort (fun a b => a.position ≤ b.position)

/-- The table with the given columns, without indexes. -/
def ofColumns (catalog schema name : String) (columns : List Column) : Table :=
  let sorted := byPosition columns
  ⟨catalog, schema, name, sorted, sorted.filter (·.isKey), []⟩

/-- The name of the table in generated code. -/
def exported (t : Table) : String := Name.exported t.name

/-- The name of a local variable for a row. -/
def camel (t : Table) : String := Name.camel t.name

/-- The initials of the exported name. -/
def short (t : Table) : String := Name.short t.name

/-- The first column with the given name. -/
def column? (t : Table) (name : String) : Option Column := t.columns.find? (·.name = name)

/-- The first index with the given name. -/
def index? (t : Table) (name : String) : Option Index := t.indexes.find? (·.name = name)

/-- Whether the table has a primary key. -/
def hasPrimaryKey (t : Table) : Bool := !t.primaryKey.isEmpty

end Table

/-- The enums and tables that were found for a schema. -/
structure Schema where
  name : String
  enums : List Enumeration
  tables : List Table
deriving DecidableEq, Repr

namespace Schema

/-- The first table with the given name. -/
def table? (s : Schema) (name : String) : Option Table := s.tables.find? (·.name = name)

/-- The first enum with the given name. -/
def enum? (s : Schema) (name : String) : Option Enumeration := s.enums.find? (·.name = name)

end Schema

end Introspect
