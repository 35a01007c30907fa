import Introspect.Entries
import Introspect.Model.Enumeration
import Introspect.Types.ColumnType

/-! The registry of column types: the type that each raw name stands for.

    A fresh registry knows the built-in scalars. Enums are registered as they are found. An insertion
    would replace the entry of its name, so it is left to registration to refuse a name that is taken.
    The entries are kept in ascending order of their names, which makes two registries with the same
    entries equal. -/

namespace Introspect

/-- Why the registry has no answer. -/
inductive RegistryError
  | unmapped (name : String)
  | duplicate (name : String)
deriving DecidableEq, Repr

/-- The error in words. -/
def RegistryError.message : RegistryError → String
  | unmapped name => s!"no type mapping registered for '{name}'"
  | duplicate name => s!"type mapping for '{name}' is already registered"

/-- A registry: entries in ascending order of their names. -/
structure Registry where
  entries : List (String × ColumnType)
  ascending : entries.Pairwise (·.1 < ·.1)

namespace Registry

/-- The registry without entries. -/
def empty : Registry := ⟨[], .nil⟩

/-- The registry in which a name stands for a type, whatever it stood for before. -/
def insert (r : Registry) (name : String) (type : ColumnType) : Registry :=
  ⟨insertEntry name type r.entries, insertEntry_ascending name type r.ascending⟩

/-- The registry that knows the built-in scalars. -/
def fresh : Registry := Scalar.all.foldl (fun r s => r.insert s.rawName (.scalar s)) empty

/-- The type that a raw name stands for. -/
def find? (r : Registry) (name : String) : Option ColumnType :=
  (r.entries.find? (·.1 = name)).map (·.2)

/-- Whether a raw name stands for a type. -/
def contains (r : Registry) (name : String) : Bool := (r.find? name).isSome

/-- The type that a raw name stands for, or the reason why there is none. -/
def lookup (r : Registry) (name : String) : Except RegistryError ColumnType :=
  match r.find? name with
  | some t => .ok t
  | none => .error (.unmapped name)

/-- Registers an enum under its raw name. -/
def register (r : Registry) (e : Enumeration) : Except RegistryError Registry :=
  if r.contains e.name then .error (.duplicate e.name)
  else .ok (r.insert e.name (.enumeration e.name e.exported))

/-- Registers enums one after another, up to the first whose name is taken: what stopped it, if
    anything, and the registry with those before. -/
def registerAll (r : Registry) : List Enumeration → Option RegistryError × Registry
  | [] => (none, r)
  | e :: es =>
    match r.register e with
    | .ok r' => r'.registerAll es
    | .error err => (some err, r)

/-- The number of entries. -/
def size (r : Registry) : Nat := r.entries.length

/-- The names of the registered enums, in ascending order. -/
def enumNames (r : Registry) : List String :=
  (r.entries.filter (·.2.isEnumeration)).map (·.1)

end Registry

end Introspect
