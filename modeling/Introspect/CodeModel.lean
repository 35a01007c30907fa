import Introspect.Model.Build
import Introspect.Query.Resolution

/-! All that code is generated from: the model of a schema, its types and its queries.

    Each run starts from a fresh registry. The schema is built from a catalog first, and then the
    definitions are resolved against it. -/

namespace Introspect

/-- Why there is no code model. -/
inductive CodeModelError
  | build (e : BuildError)
  | resolve (errors : List ResolveError)
deriving DecidableEq, Repr

/-- The error in words, after the stage in which it arose. -/
def CodeModelError.message : CodeModelError → String
  | build e => s!"inspecting schema: {e.message}"
  | resolve errors => s!"resolving queries: {ResolveError.report errors}"

/-- The schema of a catalog and the types that its columns have. -/
def inspect (c : Catalog) (schema : String) : Except CodeModelError (Schema × Registry) :=
  match Schema.build c schema .fresh with
  | (.ok s, r) => .ok (s, r)
  | (.error e, _) => .error (.build e)

/-- What code is generated from. -/
structure CodeModel where
  schema : String
  types : Registry
  enums : List Enumeration
  tables : List Table
  queries : List Query

namespace CodeModel

/-- The first query with the given name. -/
def query? (m : CodeModel) (name : String) : Option Query := m.queries.find? (·.name = name)

/-- The code model of a catalog, with the queries of the given definitions. -/
def generate (c : Catalog) (definitions : List Definition) (schema : String) :
    Except CodeModelError CodeModel := do
  let (s, types) ← inspect c schema
  let queries ← (resolve definitions s).mapError .resolve
  return ⟨s.name, types, s.enums, s.tables, queries⟩

end CodeModel

end Introspect
