import Introspect.Catalog.Snapshot
import Introspect.Document.Record
import Introspect.Json.Reader
import Introspect.Json.Writer

/-! Catalog rows and snapshots as documents.

    A snapshot is kept as JSON text. What it fails on is no part of the text. A list or name that is
    empty by default may be left out. -/

namespace Introspect

namespace LabelRow

/-- The row as a document. -/
def toDatum (r : LabelRow) : Datum :=
  .record [("schema", .text r.schema), ("name", .text r.name), ("value", .text r.value)]

/-- Reads a row. -/
def ofDatum? (d : Datum) : Option LabelRow := do
  let p ← d.parts .refused ["schema", "name", "value"]
  let schema ← p.required "schema" Datum.text?
  let name ← p.required "name" Datum.text?
  let value ← p.required "value" Datum.text?
  return ⟨schema, name, value⟩

end LabelRow

/-- The row as a document. -/
def TableRow.toDatum (r : TableRow) : Datum :=
  .record [("catalog", .text r.catalog), ("schema", .text r.schema), ("name", .text r.name)]

namespace ColumnRow

/-- The row as a document. -/
def toDatum (r : ColumnRow) : Datum :=
  .record [("position", .integer r.position.toInt), ("name", .text r.name),
    ("udt_name", .text r.typeName), ("nullable", .bool r.nullable)]

/-- Reads a row. -/
def ofDatum? (d : Datum) : Option ColumnRow := do
  let p ← d.parts .refused ["position", "name", "udt_name", "nullable"]
  let position ← p.required "position" Datum.int32?
  let name ← p.required "name" Datum.text?
  let typeName ← p.required "udt_name" Datum.text?
  let nullable ← p.required "nullable" Datum.bool?
  return ⟨position, name, typeName, nullable⟩

end ColumnRow

namespace IndexRow

/-- The row as a document. -/
def toDatum (r : IndexRow) : Datum :=
  .record [("name", .text r.name), ("keys", .ofTexts r.keys)]

/-- Reads a row. -/
def ofDatum? (d : Datum) : Option IndexRow := do
  let p ← d.parts .refused ["name", "keys"]
  let name ← p.required "name" Datum.text?
  let keys ← p.required "keys" (Datum.list? Datum.text?)
  return ⟨name, keys⟩

end IndexRow

namespace TableRecord

/-- The table as a document. -/
def toDatum (t : TableRecord) : Datum :=
  .record [("catalog", .text t.catalog), ("schema", .text t.schema), ("name", .text t.name),
    ("columns", .list (t.columns.map ColumnRow.toDatum)),
    ("primary_key", .ofTexts t.primaryKey),
    ("indexes", .list (t.indexes.map IndexRow.toDatum))]

/-- Reads a table. -/
def ofDatum? (d : Datum) : Option TableRecord := do
  let p ← d.parts .refused ["catalog", "schema", "name", "columns", "primary_key", "indexes"]
  let catalog ← p.optional "catalog" "" Datum.text?
  let schema ← p.required "schema" Datum.text?
  let name ← p.required "name" Datum.text?
  let columns ← p.optional "columns" [] (Datum.list? ColumnRow.ofDatum?)
  let primaryKey ← p.optional "primary_key" [] (Datum.list? Datum.text?)
  let indexes ← p.optional "indexes" [] (Datum.list? IndexRow.ofDatum?)
  return ⟨catalog, schema, name, columns, primaryKey, indexes⟩

end TableRecord

namespace Snapshot

/-- The snapshot as a document. -/
def toDatum (s : Snapshot) : Datum :=
  .record [("enums", .list (s.labels.map LabelRow.toDatum)),
    ("tables", .list (s.tables.map TableRecord.toDatum))]

/-- Reads a snapshot, which fails on nothing. -/
def ofDatum? (d : Datum) : Option Snapshot := do
  let p ← d.parts .refused ["enums", "tables"]
  let labels ← p.optional "enums" [] (Datum.list? LabelRow.ofDatum?)
  let tables ← p.optional "tables" [] (Datum.list? TableRecord.ofDatum?)
  return ⟨labels, tables, none⟩

/-- The snapshot as JSON text. -/
def toJson (s : Snapshot) : String := Json.indentedText s.toDatum

/-- Reads a snapshot from JSON text. -/
def ofJson? (text : String) : Option Snapshot := (Json.read text).bind ofDatum?

end Snapshot

end Introspect
