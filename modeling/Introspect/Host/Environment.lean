/-! The environment of a program: variables and their values. -/

namespace Introspect

/-- The value of each variable that is set. -/
abbrev Environment := String → Option String

namespace Environment

/-- The value that an entry has under a name. An entry is a line of a name, an equals sign and a
    value, and what follows the asked name and an equals sign counts, even if that sign is not the
    first of the line. -/
def valueUnder? (name : String) (entry : String × String) : Option String :=
  ((name ++ "=").toList.isPrefixOf? (entry.1 ++ "=" ++ entry.2).toList).map .ofList

/-- The environment with the given entries, of which the first with a value counts. -/
def ofList (entries : List (String × String)) : Environment :=
  fun name => entries.findSome? (valueUnder? name)

/-- The environment that falls back on another where a variable is not set. -/
def orElse (first second : Environment) : Environment := fun name => (first name).or (second name)

end Environment

end Introspect
