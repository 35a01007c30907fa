import Introspect.Catalog.Basic
import Introspect.Model.Table
import Introspect.Text.Quoted

/-! Building the model of a schema from a catalog.

    The enums come first, and all of them are registered. Then the tables follow in the order of
    their rows, each with its columns, primary key and indexes, and at the end every column must
    have a type that the registry knows. The first thing that goes wrong ends the build; what was
    registered until then stays registered.

    A column is a key column if its name is among those of the primary key. An index is kept if each
    of its keys names a column, either as it is or as a quoted identifier; other indexes are over
    expressions and are left out. -/

namespace Introspect

/-- Why a schema cannot be built. -/
inductive BuildError
  | inspect (e : InspectError)
  | registry (e : RegistryError)
  | unmappedType (table column typeName : String)
  | duplicatePosition (table : String) (position : Int32)
  | duplicateTable (name : String)
deriving DecidableEq, Repr

/-- The error in words. -/
def BuildError.message : BuildError → String
  | inspect e => e.message
  | registry e => s!"registering enum: {e.message}"
  | unmappedType table column typeName =>
    s!"column '{table}.{column}' has unmapped type '{typeName}'"
  | duplicatePosition table position =>
    s!"table '{table}' has more than one column at position {position.toInt}"
  | duplicateTable name => s!"duplicate table name '{name}'"

/-- An answer of a catalog, as a step of a build. -/
def inspected {α : Type} (answer : Except InspectError α) : Except BuildError α :=
  answer.mapError .inspect

/-! ### Columns -/

/-- The column of a row, where `keys` are the names of the key columns. -/
def Column.ofRow (keys : List String) (row : ColumnRow) : Column :=
  ⟨row.position, row.name, row.typeName, row.nullable, keys.contains row.name⟩

/-- The first position that stands in a row and, before it, in another row or in `seen`. -/
def repeatedPosition? (seen : List Int32) : List ColumnRow → Option Int32
  | [] => none
  | row :: rows =>
    if row.position ∈ seen then some row.position
    else repeatedPosition? (row.position :: seen) rows

/-- The columns of a table, which must have different positions. -/
def columnsOfRows (table : String) (rows : List ColumnRow) (keys : List String) :
    Except BuildError (List Column) :=
  match repeatedPosition? [] rows with
  | some p => .error (.duplicatePosition table p)
  | none => .ok (rows.map (Column.ofRow keys))

/-! ### Indexes -/

/-- The column that a key of an index names. -/
def Table.keyColumn? (t : Table) (key : String) : Option Column :=
  (t.column? key).or ((Text.unquote key.toList).bind fun name => t.column? (.ofList name))

/-- The index of a row, if all of its keys name columns. -/
def Table.resolveIndex? (t : Table) (row : IndexRow) : Option Index :=
  (row.keys.mapM t.keyColumn?).map fun columns => ⟨row.name, columns⟩

/-! ### Tables -/

/-- The table of a row. -/
def Table.build (c : Catalog) (row : TableRow) : Except BuildError Table := do
  let columnRows ← inspected (c.columns row.schema row.name)
  let keys ← inspected (c.primaryKey row.schema row.name)
  let columns ← columnsOfRows row.name columnRows keys
  let table := Table.ofColumns row.catalog row.schema row.name columns
  let indexRows ← inspected (c.indexes row.schema row.name)
  return { table with indexes := indexRows.filterMap table.resolveIndex? }

/-- The tables of the rows, which must have different names, none of them in `seen`. -/
def buildTables (c : Catalog) (seen : List String) : List TableRow → Except BuildError (List Table)
  | [] => .ok []
  | row :: rows =>
    if row.name ∈ seen then .error (.duplicateTable row.name)
    else do
      let table ← Table.build c row
      let tables ← buildTables c (row.name :: seen) rows
      return table :: tables

/-- The error for the first column whose type the registry does not know. -/
def Table.unmapped? (r : Registry) (t : Table) : Option BuildError :=
  (t.columns.find? fun c => !r.contains c.typeName).map fun c =>
    .unmappedType t.name c.name c.typeName

/-! ### Schemas -/

/-- The tables of a schema, all of whose columns have types that the registry knows. -/
def typedTables (c : Catalog) (schema : String) (r : Registry) :
    Except BuildError (List Table) := do
  let rows ← inspected (c.tables schema)
  let tables ← buildTables c [] rows
  match tables.findSome? (Table.unmapped? r) with
  | some e => throw e
  | none => return tables

/-- Builds the model of a schema. The registry that comes back holds what was registered, whether
    the build succeeded or not. -/
def Schema.build (c : Catalog) (schema : String) (r : Registry) :
    Except BuildError Schema × Registry :=
  match c.enums with
  | .error e => (.error (.inspect e), r)
  | .ok labels =>
    let enums := Enumeration.group labels
    match r.registerAll enums with
    | (some e, r') => (.error (.registry e), r')
    | (none, r') => ((typedTables c schema r').map fun tables => ⟨schema, enums, tables⟩, r')

end Introspect
