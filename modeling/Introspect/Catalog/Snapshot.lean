import Introspect.Catalog.Basic

/-! Snapshots: catalogs that are held as data.

    A snapshot lists enum labels and tables, of any number of schemas. As a catalog it answers from
    its lists, a question about a table from the first one with the schema and name asked for. It
    can be made to fail on one operation. `capture` asks another catalog everything about one schema
    and keeps the answers. -/

namespace Introspect

/-- All that a catalog says about a table. -/
structure TableRecord where
  catalog : String
  schema : String
  name : String
  columns : List ColumnRow
  primaryKey : List String
  indexes : List IndexRow
deriving DecidableEq, Repr

namespace TableRecord

/-- A table without columns. -/
def new (schema name : String) : TableRecord := ⟨"", schema, name, [], [], []⟩

/-- The row that lists the table. -/
def row (t : TableRecord) : TableRow := ⟨t.catalog, t.schema, t.name⟩

/-- The table with one more column, at the next position. -/
def addColumn (t : TableRecord) (name typeName : String) (nullable : Bool) : TableRecord :=
  { t with columns := t.columns ++ [⟨.ofNat (t.columns.length + 1), name, typeName, nullable⟩] }

/-- The table with the given key columns. -/
def withPrimaryKey (t : TableRecord) (names : List String) : TableRecord :=
  { t with primaryKey := names }

/-- The table with one more index. -/
def addIndex (t : TableRecord) (name : String) (keys : List String) : TableRecord :=
  { t with indexes := t.indexes ++ [⟨name, keys⟩] }

end TableRecord

/-- A catalog held as data; `failing` is the operation on which it fails, if any. -/
structure Snapshot where
  labels : List LabelRow
  tables : List TableRecord
  failing : Option Operation
deriving DecidableEq, Repr

namespace Snapshot

/-- The snapshot without labels and tables. -/
def empty : Snapshot := ⟨[], [], none⟩

/-- The snapshot with the labels of one more enum. -/
def addEnum (s : Snapshot) (schema name : String) (values : List String) : Snapshot :=
  { s with labels := s.labels ++ values.map fun v => ⟨schema, name, v⟩ }

/-- The snapshot with one more table. -/
def addTable (s : Snapshot) (t : TableRecord) : Snapshot := { s with tables := s.tables ++ [t] }

/-- The snapshot, failing on the given operation. -/
def failingOn (s : Snapshot) (op : Operation) : Snapshot := { s with failing := some op }

/-- An answer, unless the snapshot fails on the operation. -/
def answer {α : Type} (s : Snapshot) (op : Operation) (value : α) : Except InspectError α :=
  if s.failing = some op then .error (.query op .closed) else .ok value

/-- The first table with the given schema and name. -/
def find? (s : Snapshot) (schema table : String) : Option TableRecord :=
  s.tables.find? fun t => t.schema = schema ∧ t.name = table

/-- An answer about a table. -/
def answerFor {α : Type} (s : Snapshot) (op : Operation) (value : TableRecord → α)
    (schema table : String) : Except InspectError α := do
  let found ← s.answer op (s.find? schema table)
  match found with
  | some t => .ok (value t)
  | none => .error (.missingTable op schema table)

/-- The snapshot as a catalog. -/
def toCatalog (s : Snapshot) : Catalog where
  enums := s.answer .enums s.labels
  tables schema := s.answer .tables ((s.tables.filter (·.schema = schema)).map TableRecord.row)
  columns := s.answerFor .columns (·.columns)
  primaryKey := s.answerFor .primaryKey (·.primaryKey)
  indexes := s.answerFor .indexes (·.indexes)

/-- All that a catalog says about the table of a row. -/
def captureTable (c : Catalog) (row : TableRow) : Except InspectError TableRecord := do
  let columns ← c.columns row.schema row.name
  let primaryKey ← c.primaryKey row.schema row.name
  let indexes ← c.indexes row.schema row.name
  return ⟨row.catalog, row.schema, row.name, columns, primaryKey, indexes⟩

/-- All that a catalog says about a schema, with all of its enum labels. -/
def capture (c : Catalog) (schema : String) : Except InspectError Snapshot := do
  let labels ← c.enums
  let rows ← c.tables schema
  let tables ← rows.mapM (captureTable c)
  return ⟨labels, tables, none⟩

end Snapshot

end Introspect
