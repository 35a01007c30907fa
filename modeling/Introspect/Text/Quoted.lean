/-! Quoted identifiers, as a database prints a name that is no plain word.

    The name stands between double quotes and each of its double quotes is written twice. Reading
    accepts the quoted form of a name that is not empty, and nothing else. -/

namespace Introspect.Text

/-- Writes each double quote twice. -/
def doubled (name : List Char) : List Char :=
  name.flatMap fun c => if c = '"' then ['"', '"'] else [c]

/-- The quoted form of a name. -/
def quote (name : List Char) : List Char := '"' :: (doubled name ++ ['"'])

/-- Reads what follows the opening quote, up to the closing quote at the very end. -/
def unquoteTail : List Char → Option (List Char)
  | ['"'] => some []
  | '"' :: '"' :: rest => (unquoteTail rest).map ('"' :: ·)
  | c :: rest => if c = '"' then none else (unquoteTail rest).map (c :: ·)
  | [] => none

/-- The name of which `key` is the quoted form; the empty name has none. -/
def unquote : List Char → Option (List Char)
  | '"' :: rest => (unquoteTail rest).filter (!·.isEmpty)
  | _ => none

end Introspect.Text
