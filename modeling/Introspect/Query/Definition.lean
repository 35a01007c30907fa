import Introspect.Name.Exported
import Introspect.Query.Spec

/-! Query definitions, as they are written by hand: a name, a table, filters, sorts and a result
    mode, all of them texts that are looked at only when the definition is resolved. -/

namespace Introspect

/-- A query definition. -/
structure Definition where
  name : String
  table : String
  filters : List String
  sorts : List String
  mode : Option String
deriving DecidableEq, Repr

namespace Definition

/-- A definition without filters, sorts and mode. -/
def new (name table : String) : Definition := ⟨name, table, [], [], none⟩

/-- The definition with one more filter. -/
def filter (d : Definition) (spec : String) : Definition :=
  { d with filters := d.filters ++ [spec] }

/-- The definition with one more sort. -/
def sort (d : Definition) (spec : String) : Definition := { d with sorts := d.sorts ++ [spec] }

/-- The definition with the given result mode. -/
def returning (d : Definition) (mode : String) : Definition := { d with mode := some mode }

/-- The name of the query in generated code. -/
def exported (d : Definition) : String := Name.exported d.name

end Definition

end Introspect
