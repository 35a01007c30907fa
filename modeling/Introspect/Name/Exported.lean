import Introspect.Name.Casing

/-! The names that generated code uses for a name of the database.

    An exported name is the Pascal case, a camel name the camel case, in both of which the first
    `Id`, the first `Ip` and the first `Url` are written as acronyms. A short name collects the
    initials of the exported name. -/

namespace Introspect.Name

open Introspect.Text

/-- An acronym: how it stands in Pascal case, and how it is written instead. -/
structure Acronym where
  titled : List Char
  capitals : List Char

/-- The acronyms, in the order in which they are looked for. -/
def acronyms : List Acronym :=
  [⟨['I', 'd'], ['I', 'D']⟩, ⟨['I', 'p'], ['I', 'P']⟩, ⟨['U', 'r', 'l'], ['U', 'R', 'L']⟩]

/-- Writes `new` in place of the first occurrence of `old`; no occurrence changes nothing. -/
def replaceFirst (old new : List Char) : List Char → List Char
  | [] => []
  | c :: rest =>
    if old.isPrefixOf (c :: rest) then new ++ (c :: rest).drop old.length
    else c :: replaceFirst old new rest

/-- Writes the first occurrence of each acronym in capitals. -/
def withAcronyms (name : List Char) : List Char :=
  acronyms.foldl (fun s a => replaceFirst a.titled a.capitals s) name

/-- The initials of the words of a name: the first letter of each run of upper-case letters, in
    lower case. `inRun` tells whether the character before was upper case. -/
def initialsFrom (inRun : Bool) : List Char → List Char
  | [] => []
  | c :: rest =>
    if isUpper c then
      (if inRun then [] else lowered c) ++ initialsFrom true rest
    else initialsFrom false rest

/-- The name under which generated code exports a table, a column, an enum or a query. -/
def exported (name : String) : String := .ofList (withAcronyms (pascalCase name.toList))

/-- The name of a local variable; a leading acronym stays in lower case. -/
def camel (name : String) : String := .ofList (withAcronyms (camelCase name.toList))

/-- The initials of a name that is already exported: `UserAccount` has `ua`. -/
def initials (name : String) : String := .ofList (initialsFrom false name.toList)

/-- The initials of the exported name. -/
def short (name : String) : String := initials (exported name)

end Introspect.Name
