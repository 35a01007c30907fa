import Introspect.Query.Basic
import Introspect.Query.Report

/-! Resolving definitions against a schema.

    Each definition becomes a query, in their order, and the lookup queries of all tables follow.
    The exported names of definitions must differ from each other and from those of the lookup
    queries; a definition whose name is taken by an earlier one is not looked at any further.
    Otherwise all that is wrong with a definition is found: its filters first, then its sorts, then
    its mode. If anything is wrong with any definition, there are no queries.

    A filter names a column by its whole name. A sort may name the end of a column's name: a column
    of just that name is preferred, else the first column whose name ends so is taken, with a
    warning. There is also one where a single row is asked for in spite of a range, and one for each
    table without a primary key, whose lookup query has no filter. -/

namespace Introspect

/-! ### Parts of a definition -/

/-- The column that a sort names. -/
def Table.sortColumn? (t : Table) (name : String) : Option Column :=
  if name = "" then none
  else (t.column? name).or (t.columns.find? fun c => name.toList.isSuffixOf c.name.toList)

namespace Definition

/-- Resolves a filter; an unknown comparison is reported before an unknown column. -/
def resolveFilter (d : Definition) (t : Table) (spec : String) : Except ResolveError Condition :=
  match (FilterSpec.parse spec).comparison with
  | .error word => .error (.unknownComparison d.name spec word)
  | .ok comparison =>
    match t.column? (FilterSpec.parse spec).column with
    | some c => .ok ⟨c, comparison⟩
    | none => .error (.unknownColumn d.name t.name .filter spec)

/-- Resolves a sort. -/
def runSort (d : Definition) (t : Table) (spec : String) :
    Logged (Except ResolveError SortKey) := do
  match t.sortColumn? (SortSpec.parse spec).column with
  | some c =>
    if c.name ≠ (SortSpec.parse spec).column then
      Logged.warn (.suffixMatch d.name spec c.name)
    return .ok ⟨c, (SortSpec.parse spec).descending⟩
  | none => return .error (.unknownColumn d.name t.name .sort spec)

/-- Resolves the result mode; an empty word is no mode at all. -/
def resolveMode (d : Definition) : Except ResolveError (Option ResultMode) :=
  match d.mode with
  | none => .ok none
  | some word =>
    if word = "" then .ok none
    else match ResultMode.ofName? word with
      | some mode => .ok (some mode)
      | none => .error (.unknownMode d.name word)

/-- The query of a definition whose parts are resolved. -/
def toQuery (d : Definition) (t : Table) (filters : List Condition) (sorts : List SortKey)
    (mode : Option ResultMode) : Query where
  name := d.name
  table := t
  filters := filters
  sorts := sorts
  returnsOne := mode = some .one
  returnsMany := filters.any (·.comparison.isRange) || mode = some .many || mode = some .paged
  paged := mode = some .paged
  synthetic := false

end Definition

/-! ### Definitions -/

/-- The errors among the outcomes, in their order. -/
def errorsOf {ε α : Type} (outcomes : List (Except ε α)) : List ε :=
  outcomes.filterMap fun
    | .error e => some e
    | .ok _ => none

/-- The values among the outcomes, in their order. -/
def valuesOf {ε α : Type} (outcomes : List (Except ε α)) : List α :=
  outcomes.filterMap fun
    | .error _ => none
    | .ok a => some a

namespace Definition

/-- Resolves a definition whose table is known. -/
def runOn (d : Definition) (t : Table) : Logged (Except (List ResolveError) Query) := do
  let filters := d.filters.map (d.resolveFilter t)
  let sorts ← d.sorts.mapM (d.runSort t)
  match errorsOf filters ++ errorsOf sorts, d.resolveMode with
  | [], .ok mode =>
    let q := d.toQuery t (valuesOf filters) (valuesOf sorts) mode
    if q.returnsOne && q.filters.any (·.comparison.isRange) then
      Logged.warn (.onePrecedence d.name)
    return .ok q
  | errors, .ok _ => return .error errors
  | errors, .error e => return .error (errors ++ [e])

/-- Resolves a definition. -/
def run (d : Definition) (s : Schema) : Logged (Except (List ResolveError) Query) :=
  match s.table? d.table with
  | none => return .error [.unknownTable d.name d.table]
  | some t => d.runOn t

/-- What a sort resolves to. -/
def resolveSort (d : Definition) (t : Table) (spec : String) : Except ResolveError SortKey :=
  (d.runSort t spec).value

/-- What a definition resolves to on a table. -/
def resolveOn (d : Definition) (t : Table) : Except (List ResolveError) Query := (d.runOn t).value

/-- What a definition resolves to. -/
def resolve (d : Definition) (s : Schema) : Except (List ResolveError) Query := (d.run s).value

end Definition

/-! ### Runs -/

/-- The definitions that are the first with their exported name, where those in `taken` are already
    in use; each of the others is an error. -/
def firstUses (taken : List String) : List Definition → List (Except ResolveError Definition)
  | [] => []
  | d :: ds =>
    if d.exported ∈ taken then .error (.duplicateQuery d.name) :: firstUses taken ds
    else .ok d :: firstUses (d.exported :: taken) ds

/-- Resolves the use of a name. -/
def runUse (s : Schema) :
    Except ResolveError Definition → Logged (Except (List ResolveError) Query)
  | .error e => return .error [e]
  | .ok d => d.run s

/-- The error about the definition that takes the name of a table's lookup query, if any. -/
def lookupClash? (definitions : List Definition) (t : Table) : Option ResolveError :=
  (definitions.find? (·.exported = Name.exported (Query.lookupName t))).map
    fun d => .duplicateQuery d.name

/-- Makes the lookup query of a table. -/
def runLookup (t : Table) : Logged Query := do
  if !t.hasPrimaryKey then Logged.warn (.noPrimaryKey t.name)
  return .lookup t

/-- Resolves definitions: the queries that they define and the lookup queries of all tables. -/
def runAll (definitions : List Definition) (s : Schema) :
    Logged (Except (List ResolveError) (List Query)) := do
  let declared ← (firstUses [] definitions).mapM (runUse s)
  match (errorsOf declared).flatten ++ s.tables.filterMap (lookupClash? definitions) with
  | [] => return .ok (valuesOf declared ++ (← s.tables.mapM runLookup))
  | errors => return .error errors

/-- What definitions resolve to. -/
def resolve (definitions : List Definition) (s : Schema) :
    Except (List ResolveError) (List Query) := (runAll definitions s).value

/-- The warnings of a run, in the order in which they come up. -/
def resolveWarnings (definitions : List Definition) (s : Schema) : List Warning :=
  (runAll definitions s).warnings

end Introspect
