import Introspect.Document.Record
import Introspect.Model.Table

/-! Types, registries and the model of a schema as documents. -/

namespace Introspect

namespace ColumnType

/-- The type as a document, told apart by its kind. -/
def toDatum : ColumnType → Datum
  | .scalar s => .record [("kind", .text "scalar"), ("scalar", .text s.label)]
  | .enumeration name exported =>
    .record [("kind", .text "enum"), ("name", .text name), ("exported", .text exported)]

/-- The label of a scalar; next to a kind it may also stand as the only, empty field of a record. -/
def scalar? : Datum → Option Scalar
  | .record [(name, .record [])] => Scalar.ofLabel? name
  | d => d.word?.bind Scalar.ofLabel?

/-- Reads the type of the given kind from its other parts. -/
def ofKind? (kind : String) (rest : Datum) : Option ColumnType :=
  if kind = "scalar" then do
    let p ← rest.parts .refused ["scalar"]
    (p.required "scalar" scalar?).map .scalar
  else if kind = "enum" then do
    let p ← rest.parts .refused ["name", "exported"]
    let name ← p.required "name" Datum.text?
    let exported ← p.required "exported" Datum.text?
    return .enumeration name exported
  else none

/-- Reads a type: the kind is a field of the record, or the first item of the list. -/
def ofDatum? : Datum → Option ColumnType
  | .record fields => do
    let p ← (Datum.record fields).parts .refused ["kind"]
    let kind ← p.required "kind" Datum.text?
    ofKind? kind (.record (fields.filter (·.1 ≠ "kind")))
  | .list (.text kind :: rest) => ofKind? kind (.list rest)
  | _ => none

end ColumnType

/-- The registry as a document: a record with the type of each name. -/
def Registry.toDatum (r : Registry) : Datum :=
  .record (r.entries.map fun e => (e.1, e.2.toDatum))

namespace Column

/-- The column as a document. -/
def toDatum (c : Column) : Datum :=
  .record [("position", .integer c.position.toInt), ("name", .text c.name),
    ("udt_name", .text c.typeName), ("nullable", .bool c.nullable),
    ("is_primary_key", .bool c.isKey)]

/-- Reads a column. -/
def ofDatum? (d : Datum) : Option Column := do
  let p ← d.parts .refused ["position", "name", "udt_name", "nullable", "is_primary_key"]
  let position ← p.required "position" Datum.int32?
  let name ← p.required "name" Datum.text?
  let typeName ← p.required "udt_name" Datum.text?
  let nullable ← p.required "nullable" Datum.bool?
  let isKey ← p.required "is_primary_key" Datum.bool?
  return ⟨position, name, typeName, nullable, isKey⟩

end Column

namespace Index

/-- The index as a document. -/
def toDatum (i : Index) : Datum :=
  .record [("name", .text i.name), ("columns", .list (i.columns.map Column.toDatum))]

/-- Reads an index. -/
def ofDatum? (d : Datum) : Option Index := do
  let p ← d.parts .refused ["name", "columns"]
  let name ← p.required "name" Datum.text?
  let columns ← p.required "columns" (Datum.list? Column.ofDatum?)
  return ⟨name, columns⟩

end Index

namespace Table

/-- The table as a document. -/
def toDatum (t : Table) : Datum :=
  .record [("catalog", .text t.catalog), ("schema", .text t.schema), ("name", .text t.name),
    ("columns", .list (t.columns.map Column.toDatum)),
    ("primary_keys", .list (t.primaryKey.map Column.toDatum)),
    ("indexes", .list (t.indexes.map Index.toDatum))]

/-- Reads a table; its columns and its primary key are taken as they are. -/
def ofDatum? (d : Datum) : Option Table := do
  let p ← d.parts .refused ["catalog", "schema", "name", "columns", "primary_keys", "indexes"]
  let catalog ← p.required "catalog" Datum.text?
  let schema ← p.required "schema" Datum.text?
  let name ← p.required "name" Datum.text?
  let columns ← p.required "columns" (Datum.list? Column.ofDatum?)
  let primaryKey ← p.required "primary_keys" (Datum.list? Column.ofDatum?)
  let indexes ← p.optional "indexes" [] (Datum.list? Index.ofDatum?)
  return ⟨catalog, schema, name, columns, primaryKey, indexes⟩

end Table

namespace Enumeration

/-- The enum as a document. -/
def toDatum (e : Enumeration) : Datum :=
  .record [("schema", .text e.schema), ("name", .text e.name), ("values", .ofTexts e.values)]

/-- Reads an enum. -/
def ofDatum? (d : Datum) : Option Enumeration := do
  let p ← d.parts .refused ["schema", "name", "values"]
  let schema ← p.required "schema" Datum.text?
  let name ← p.required "name" Datum.text?
  let values ← p.required "values" (Datum.list? Datum.text?)
  return ⟨schema, name, values⟩

end Enumeration

namespace Schema

/-- The schema as a document. -/
def toDatum (s : Schema) : Datum :=
  .record [("name", .text s.name), ("enums", .list (s.enums.map Enumeration.toDatum)),
    ("tables", .list (s.tables.map Table.toDatum))]

/-- Reads a schema. -/
def ofDatum? (d : Datum) : Option Schema := do
  let p ← d.parts .refused ["name", "enums", "tables"]
  let name ← p.required "name" Datum.text?
  let enums ← p.required "enums" (Datum.list? Enumeration.ofDatum?)
  let tables ← p.required "tables" (Datum.list? Table.ofDatum?)
  return ⟨name, enums, tables⟩

end Schema

end Introspect
