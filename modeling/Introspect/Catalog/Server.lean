import Introspect.Catalog.Basic

/-! Catalogs of a database server.

    A server answers each catalog query with rows of cells, in the order of the query's columns. The
    cells of a row are decoded one after another and the rows in their order, so the first cell that
    cannot be decoded decides the error; whether a column may be null is asked for first and checked
    last. A server can be scripted: a list of replies, of which the first that fits a query and its
    parameters is given. -/

namespace Introspect

/-- A cell of a row. -/
inductive Cell
  | null
  | word (n : Int32)
  | text (s : String)
  /-- An array of texts, some of which may be null. -/
  | texts (items : List (Option String))
deriving DecidableEq, Repr

/-- A server: what it answers to a query with the given parameters. -/
structure Server where
  reply : (query : Operation) → (parameters : List String) → Except Failure (List (List Cell))

/-- A scripted reply to a query, for any parameters or for those given. -/
structure Reply where
  query : Operation
  parameters : Option (List String)
  result : Except Failure (List (List Cell))

namespace Reply

/-- Whether the reply is for a query with the given parameters. -/
def fits (r : Reply) (query : Operation) (parameters : List String) : Bool :=
  r.query == query && (r.parameters.isNone || r.parameters == some parameters)

end Reply

namespace Server

/-- The server that gives the first reply that fits, and no rows if none does. -/
def scripted (replies : List Reply) : Server where
  reply query parameters :=
    match replies.find? (·.fits query parameters) with
    | some r => r.result
    | none => .ok []

/-- The server whose connections are closed. -/
def closed : Server where
  reply _ _ := .error .closed

/-- The text in a cell. -/
def textCell (column : String) : Option Cell → Except Failure String
  | some (.text s) => .ok s
  | some (.word n) => .ok (toString n.toInt)
  | _ => .error (.unexpectedNull column)

/-- The whole number in a cell. -/
def wordCell (column : String) : Option Cell → Except Failure Int32
  | some (.word n) => .ok n
  | _ => .error (.unexpectedNull column)

/-- The texts in a cell, none of which may be null. -/
def textsCell (column : String) : Option Cell → Except Failure (List String)
  | some (.texts items) =>
    items.mapM fun
      | some s => .ok s
      | none => .error (.unexpectedNull column)
  | _ => .error (.unexpectedNull column)

/-- A label of an enum. -/
def labelRow (cells : List Cell) : Except Failure LabelRow := do
  let schema ← textCell "enum_schema" cells[0]?
  let name ← textCell "enum_name" cells[1]?
  let value ← textCell "enum_value" cells[2]?
  return ⟨schema, name, value⟩

/-- A table. -/
def tableRow (cells : List Cell) : Except Failure TableRow := do
  let catalog ← textCell "table_catalog" cells[0]?
  let schema ← textCell "table_schema" cells[1]?
  let name ← textCell "table_name" cells[2]?
  return ⟨catalog, schema, name⟩

/-- The name of a key column. -/
def keyRow (cells : List Cell) : Except Failure String := textCell "column_name" cells[0]?

/-- An index. -/
def indexRow (cells : List Cell) : Except Failure IndexRow := do
  let name ← textCell "index_name" cells[0]?
  let keys ← textsCell "index_keys" cells[1]?
  return ⟨name, keys⟩

/-- Whether a column may be null: `YES` or `NO`. -/
def nullable (value : String) : Except InspectError Bool :=
  if value = "YES" then .ok true
  else if value = "NO" then .ok false
  else .error (.decode .columns "is_nullable" value)

/-- A column. -/
def columnRow (cells : List Cell) : Except InspectError ColumnRow := do
  let (position, name, typeName, word) ← Except.mapError (InspectError.query .columns) do
    let word ← textCell "is_nullable" cells[3]?
    let position ← wordCell "ordinal_position" cells[0]?
    let name ← textCell "column_name" cells[1]?
    let typeName ← textCell "udt_name" cells[2]?
    return (position, name, typeName, word)
  return ⟨position, name, typeName, ← nullable word⟩

/-- The rows of a reply. -/
def fetch (s : Server) (op : Operation) (parameters : List String) :
    Except InspectError (List (List Cell)) :=
  (s.reply op parameters).mapError (.query op)

/-- The rows of a reply, each read by `row`. -/
def rows {α : Type} (s : Server) (op : Operation) (row : List Cell → Except Failure α)
    (parameters : List String) : Except InspectError (List α) := do
  let cells ← s.fetch op parameters
  (cells.mapM row).mapError (.query op)

/-- The server as a catalog. -/
def toCatalog (s : Server) : Catalog where
  enums := s.rows .enums labelRow []
  tables schema := s.rows .tables tableRow [schema]
  columns schema table := do
    let cells ← s.fetch .columns [schema, table]
    cells.mapM columnRow
  primaryKey schema table := s.rows .primaryKey keyRow [schema, table]
  indexes schema table := s.rows .indexes indexRow [schema, table]

end Server

end Introspect
