import Introspect.Catalog.Row
import Introspect.Name.Exported

/-! Enums of the database, grouped from the rows of their labels.

    An enum is known by its name alone: labels of enums with one name in several schemas are merged
    into the enum of the first of these rows. Enums come in the order in which their names are first
    met, and the labels of each in the order of their rows. -/

namespace Introspect

/-- An enum and its labels. -/
structure Enumeration where
  schema : String
  name : String
  values : List String
deriving DecidableEq, Repr

namespace Enumeration

/-- The name of the enum in generated code. -/
def exported (e : Enumeration) : String := Name.exported e.name

/-- The initials of the exported name. -/
def short (e : Enumeration) : String := Name.short e.name

/-- Each label with the name of its variant in generated code. -/
def variants (e : Enumeration) : List (String × String) :=
  e.values.map fun v => (v, Name.exported v)

/-- Adds a label to the enum of its name, or a new enum at the end. -/
def addLabel (row : LabelRow) : List Enumeration → List Enumeration
  | [] => [⟨row.schema, row.name, [row.value]⟩]
  | e :: es =>
    if e.name = row.name then { e with values := e.values ++ [row.value] } :: es
    else e :: addLabel row es

/-- The enums of the given rows. -/
def group (rows : List LabelRow) : List Enumeration := rows.foldl (fun es row => addLabel row es) []

/-- The rows of an enum, one for each label. -/
def rows (e : Enumeration) : List LabelRow := e.values.map fun v => ⟨e.schema, e.name, v⟩

end Enumeration

end Introspect
