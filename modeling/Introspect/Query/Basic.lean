import Introspect.Model.Table
import Introspect.Query.Definition

/-! Queries: definitions whose table and columns are known.

    Besides the queries that are defined, each table has a lookup query, which filters by the
    columns of the primary key and returns one row. -/

namespace Introspect

/-- A condition on a column. -/
structure Condition where
  column : Column
  comparison : Comparison
deriving DecidableEq, Repr

/-- A sort by a column. -/
structure SortKey where
  column : Column
  descending : Bool
deriving DecidableEq, Repr

/-- The direction of a sort in a statement. -/
def SortKey.keyword (s : SortKey) : String := if s.descending then "DESC" else "ASC"

/-- How many rows a query returns. -/
inductive Cardinality
  | one | paged | many | unspecified
deriving DecidableEq, Repr

/-- The cardinality as a word. -/
def Cardinality.name : Cardinality → String
  | one => "One"
  | paged => "Paged"
  | many => "Many"
  | unspecified => "Unspecified"

/-- A query on a table. -/
structure Query where
  name : String
  table : Table
  filters : List Condition
  sorts : List SortKey
  returnsOne : Bool
  returnsMany : Bool
  paged : Bool
  synthetic : Bool
deriving DecidableEq, Repr

namespace Query

/-- The name of the query in generated code. -/
def exported (q : Query) : String := Name.exported q.name

/-- How many rows the query returns: one before a page, a page before many. -/
def cardinality (q : Query) : Cardinality :=
  if q.returnsOne then .one
  else if q.paged then .paged
  else if q.returnsMany then .many
  else .unspecified

/-- Whether the query has no filter. -/
def matchesAllRows (q : Query) : Bool := q.filters.isEmpty

/-- The name of the lookup query of a table. -/
def lookupName (t : Table) : String := "Get" ++ t.exported

/-- The lookup query of a table. -/
def lookup (t : Table) : Query where
  name := lookupName t
  table := t
  filters := t.primaryKey.map fun c => ⟨c, .eq⟩
  sorts := []
  returnsOne := true
  returnsMany := false
  paged := false
  synthetic := true

/-- The definition that says in full what the query is. -/
def toDefinition (q : Query) : Definition where
  name := q.name
  table := q.table.name
  filters := q.filters.map fun f => f.column.name ++ ":" ++ f.comparison.name
  sorts := q.sorts.map fun s => (if s.descending then "-" else "") ++ s.column.name
  mode :=
    if q.returnsOne then some ResultMode.one.name
    else if q.paged then some ResultMode.paged.name
    else if q.returnsMany then some ResultMode.many.name
    else none

end Query

end Introspect
