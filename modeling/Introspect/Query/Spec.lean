/-! The small notations inside a query definition.

    A filter is a column, or a column and a comparison after the first colon; without one it asks
    for equality. A sort is a column, descending if a minus stands before it. The result mode is one
    of three words. -/

namespace Introspect

/-- A comparison of a column with a parameter. -/
inductive Comparison
  | eq | ne | lt | lteq | gt | gteq
deriving DecidableEq, Repr

namespace Comparison

/-- Every comparison. -/
def all : List Comparison := [eq, ne, lt, lteq, gt, gteq]

/-- The word by which a definition names the comparison. -/
def name : Comparison → String
  | eq => "eq"
  | ne => "ne"
  | lt => "lt"
  | lteq => "lteq"
  | gt => "gt"
  | gteq => "gteq"

/-- The operator in a statement. -/
def sql : Comparison → String
  | eq => "="
  | ne => "!="
  | lt => "<"
  | lteq => "<="
  | gt => ">"
  | gteq => ">="

/-- Whether the comparison is for a range of values, so that many rows may match. -/
def isRange : Comparison → Bool
  | eq | ne => false
  | lt | lteq | gt | gteq => true

/-- The comparison with the given name. -/
def ofName? (name : String) : Option Comparison := all.find? (·.name == name)

end Comparison

/-- How many rows a definition asks for. -/
inductive ResultMode
  | one | many | paged
deriving DecidableEq, Repr

namespace ResultMode

/-- Every result mode. -/
def all : List ResultMode := [one, many, paged]

/-- The word by which a definition names the mode. -/
def name : ResultMode → String
  | one => "one"
  | many => "many"
  | paged => "paged"

/-- The mode with the given name. -/
def ofName? (name : String) : Option ResultMode := all.find? (·.name == name)

end ResultMode

/-- A filter as it is written: a column and a comparison, or the word that names none. -/
structure FilterSpec where
  column : String
  comparison : Except String Comparison

/-- Reads a filter: what stands before the first colon, and the comparison after it. -/
def FilterSpec.parse (spec : String) : FilterSpec :=
  let column := String.ofList (spec.toList.takeWhile (· ≠ ':'))
  match spec.toList.dropWhile (· ≠ ':') with
  | [] => ⟨column, .ok .eq⟩
  | _ :: rest =>
    let word := String.ofList rest
    match Comparison.ofName? word with
    | some comparison => ⟨column, .ok comparison⟩
    | none => ⟨column, .error word⟩

/-- A sort as it is written. -/
structure SortSpec where
  column : String
  descending : Bool
deriving DecidableEq, Repr

/-- Reads a sort: at most one minus is taken off. -/
def SortSpec.parse (spec : String) : SortSpec :=
  match spec.toList with
  | '-' :: rest => ⟨.ofList rest, true⟩
  | _ => ⟨spec, false⟩

end Introspect
