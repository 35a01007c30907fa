import Introspect.Document.Basic

/-! Values with named parts.

    Such a value may be written as a record, in any order and with further fields that are ignored,
    or as a list of its parts in the order of their declaration. A declared part may not be given
    twice, and a part that is absent is an error unless it has a default. A field that is ignored is
    still read, so it may not hold a number without a value; what a list holds beyond the declared
    parts is not read at all. The notations differ only in whether a list may hold more. -/

namespace Introspect

/-- What becomes of items of a list beyond the declared parts of a value. -/
inductive Surplus
  | refused
  | ignored
deriving DecidableEq, Repr

/-- The parts of a value, by their names. -/
structure Parts where
  value? : String → Option Datum

namespace Parts

/-- Reads a part that must be there. -/
def required {α : Type} (p : Parts) (name : String) (read : Datum → Option α) : Option α :=
  (p.value? name).bind read

/-- Reads a part that has a default. -/
def optional {α : Type} (p : Parts) (name : String) (default : α) (read : Datum → Option α) :
    Option α :=
  match p.value? name with
  | none => some default
  | some d => read d

end Parts

namespace Datum

/-- The value of the first field with the given name. -/
def field? (fields : List (String × Datum)) (name : String) : Option Datum :=
  (fields.find? (·.1 = name)).map (·.2)

/-- Whether one of the names stands more than once among the fields. -/
def repeats (names : List String) (fields : List (String × Datum)) : Bool :=
  names.any fun name => (fields.filter (·.1 = name)).length > 1

/-- The parts of a value, by their declared names. A moment counts as a record none of whose fields
    is ever declared. -/
def parts (surplus : Surplus) (names : List String) : Datum → Option Parts
  | record fields =>
    if repeats names fields ∨ !haveReadable (fields.filter (·.1 ∉ names)) then none
    else some ⟨field? fields⟩
  | list items =>
    if surplus = .refused ∧ names.length < items.length then none
    else some ⟨field? (names.zip items)⟩
  | moment => some ⟨fun _ => none⟩
  | _ => none

/-- A word out of a fixed choice: a text, or a record whose only field has that name and is null. -/
def word? : Datum → Option String
  | text s => some s
  | record [(name, null)] => some name
  | _ => none

end Datum

end Introspect
