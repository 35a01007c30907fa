import Introspect.CodeModel

/-! Sessions: one registry for several builds.

    A session keeps its registry from build to build, so an enum that was registered once makes the
    next build fail. It also keeps the last schema that was built. -/

namespace Introspect

/-- A registry, and the last schema that was built. -/
structure Session where
  types : Registry
  schema? : Option Schema

namespace Session

/-- The session in which nothing happened yet. -/
def start : Session := ⟨.fresh, none⟩

/-- Registers an enum. -/
def register (s : Session) (e : Enumeration) : Except RegistryError Unit × Session :=
  match s.types.register e with
  | .ok r => (.ok (), { s with types := r })
  | .error err => (.error err, s)

/-- Builds a schema; a build that fails leaves the last schema. -/
def build (s : Session) (c : Catalog) (schema : String) : Except BuildError Schema × Session :=
  match Schema.build c schema s.types with
  | (.ok m, r) => (.ok m, ⟨r, some m⟩)
  | (.error e, r) => (.error e, { s with types := r })

/-- Starts again with a fresh registry. -/
def freshTypes (s : Session) : Session := { s with types := .fresh }

end Session

end Introspect
