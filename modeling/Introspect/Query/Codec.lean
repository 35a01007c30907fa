import Introspect.CodeModel
import Introspect.Model.Codec
import Introspect.Toml.Reader

/-! Definitions, queries and code models as documents. Definitions are written in TOML, where each is
    a table in the list `query`. -/

namespace Introspect

namespace Definition

/-- The definition as a document. -/
def toDatum (d : Definition) : Datum :=
  .record [("name", .text d.name), ("table", .text d.table), ("fields", .ofTexts d.filters),
    ("sort", .ofTexts d.sorts), ("return", .ofText? d.mode)]

/-- Reads a definition. -/
def ofDatum? (surplus : Surplus) (d : Datum) : Option Definition := do
  let p ← d.parts surplus ["name", "table", "fields", "sort", "return"]
  let name ← p.required "name" Datum.text?
  let table ← p.required "table" Datum.text?
  let filters ← p.optional "fields" [] (Datum.list? Datum.text?)
  let sorts ← p.optional "sort" [] (Datum.list? Datum.text?)
  let mode ← p.optional "return" none (Datum.option? Datum.text?)
  return ⟨name, table, filters, sorts, mode⟩

/-- Definitions as a document. -/
def listToDatum (ds : List Definition) : Datum := .record [("query", .list (ds.map toDatum))]

/-- Reads the definitions of a document. -/
def listOfDatum? (surplus : Surplus) (d : Datum) : Option (List Definition) := do
  let p ← d.parts surplus ["query"]
  p.optional "query" [] (Datum.list? (ofDatum? surplus))

/-- Reads definitions from TOML text. -/
def listOfToml? (text : String) : Option (List Definition) :=
  (Toml.read text).bind (listOfDatum? .ignored)

end Definition

namespace Condition

/-- The condition as a document. -/
def toDatum (f : Condition) : Datum :=
  .record [("column", f.column.toDatum), ("op", .text f.comparison.name)]

/-- Reads a condition. -/
def ofDatum? (d : Datum) : Option Condition := do
  let p ← d.parts .refused ["column", "op"]
  let column ← p.required "column" Column.ofDatum?
  let comparison ← p.required "op" fun op => op.word?.bind Comparison.ofName?
  return ⟨column, comparison⟩

end Condition

namespace SortKey

/-- The sort key as a document. -/
def toDatum (s : SortKey) : Datum :=
  .record [("column", s.column.toDatum), ("descending", .bool s.descending)]

/-- Reads a sort key. -/
def ofDatum? (d : Datum) : Option SortKey := do
  let p ← d.parts .refused ["column", "descending"]
  let column ← p.required "column" Column.ofDatum?
  let descending ← p.required "descending" Datum.bool?
  return ⟨column, descending⟩

end SortKey

namespace Query

/-- The query as a document. -/
def toDatum (q : Query) : Datum :=
  .record [("name", .text q.name), ("table", q.table.toDatum),
    ("filters", .list (q.filters.map Condition.toDatum)),
    ("sorts", .list (q.sorts.map SortKey.toDatum)),
    ("return_one", .bool q.returnsOne), ("return_many", .bool q.returnsMany),
    ("paged", .bool q.paged), ("synthetic", .bool q.synthetic)]

/-- Reads a query. -/
def ofDatum? (d : Datum) : Option Query := do
  let p ← d.parts .refused
    ["name", "table", "filters", "sorts", "return_one", "return_many", "paged", "synthetic"]
  let name ← p.required "name" Datum.text?
  let table ← p.required "table" Table.ofDatum?
  let filters ← p.required "filters" (Datum.list? Condition.ofDatum?)
  let sorts ← p.required "sorts" (Datum.list? SortKey.ofDatum?)
  let returnsOne ← p.required "return_one" Datum.bool?
  let returnsMany ← p.required "return_many" Datum.bool?
  let paged ← p.required "paged" Datum.bool?
  let synthetic ← p.optional "synthetic" false Datum.bool?
  return ⟨name, table, filters, sorts, returnsOne, returnsMany, paged, synthetic⟩

end Query

/-- The code model as a document. -/
def CodeModel.toDatum (m : CodeModel) : Datum :=
  .record [("schema", .text m.schema), ("types", m.types.toDatum),
    ("enums", .list (m.enums.map Enumeration.toDatum)),
    ("tables", .list (m.tables.map Table.toDatum)),
    ("queries", .list (m.queries.map Query.toDatum))]

end Introspect
