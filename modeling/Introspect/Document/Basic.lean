import Introspect.Entries

/-! The data of a document, whatever notation it is written in.

    A document is built from scalars, lists and records; a record keeps its fields in the order in
    which they were written, repeated names included. What no reader of this library can use as a
    value is kept as well, because a field that nobody asks for may hold it; only a number without a
    value may not even stand there. -/

namespace Introspect

/-- A value of a document. -/
inductive Datum
  | null
  | bool (b : Bool)
  | integer (n : Int)
  /-- A number that is not written as an integer, by its spelling. -/
  | decimal (spelling : String)
  /-- A number without a value, so that it may stand only where nothing is read. -/
  | unreadable
  | text (s : String)
  /-- A date or a time of day. -/
  | moment
  /-- A text, or a record with a name, that holds one half of a surrogate pair. -/
  | garbled
  | list (items : List Datum)
  | record (fields : List (String × Datum))
deriving Repr

namespace Datum

/-- The text, if the value is one. -/
def text? : Datum → Option String
  | text s => some s
  | _ => none

/-- The truth value, if the value is one. -/
def bool? : Datum → Option Bool
  | bool b => some b
  | _ => none

/-- The integer, if the value is one. -/
def integer? : Datum → Option Int
  | integer n => some n
  | _ => none

/-- The integer as a word of 32 bits with a sign, if it fits. -/
def int32? (d : Datum) : Option Int32 :=
  d.integer?.bind fun n =>
    if Int32.minValue.toInt ≤ n ∧ n ≤ Int32.maxValue.toInt then some (Int32.ofInt n) else none

/-- The integer as a word of 32 bits without a sign, if it fits. -/
def word32? (d : Datum) : Option UInt32 :=
  d.integer?.bind fun n =>
    if 0 ≤ n ∧ n.toNat < UInt32.size then some (UInt32.ofNat n.toNat) else none

/-- The items, each read by `item`, if the value is a list of such. -/
def list? {α : Type} (item : Datum → Option α) : Datum → Option (List α)
  | list ds => ds.mapM item
  | _ => none

mutual

/-- Whether the value holds no number without a value. -/
def isReadable : Datum → Bool
  | unreadable => false
  | list items => areReadable items
  | record fields => haveReadable fields
  | _ => true

/-- Whether no item holds a number without a value. -/
def areReadable : List Datum → Bool
  | [] => true
  | d :: ds => d.isReadable && areReadable ds

/-- Whether no field holds a number without a value. -/
def haveReadable : List (String × Datum) → Bool
  | [] => true
  | (_, d) :: fields => d.isReadable && haveReadable fields

end

mutual

/-- The value with the fields of every record, at every depth, in ascending order of their names; of
    several fields with one name the last counts. -/
def sorted : Datum → Datum
  | list items => list (sortedItems items)
  | record fields => record (ascendingEntries (sortedFields fields))
  | d => d

/-- The items with their records sorted. -/
def sortedItems : List Datum → List Datum
  | [] => []
  | d :: ds => d.sorted :: sortedItems ds

/-- The fields in their order, with the records in their values sorted. -/
def sortedFields : List (String × Datum) → List (String × Datum)
  | [] => []
  | (name, d) :: fields => (name, d.sorted) :: sortedFields fields

end

/-- An optional value: `null` stands for nothing. -/
def option? {α : Type} (value : Datum → Option α) : Datum → Option (Option α)
  | null => some none
  | d => (value d).map some

/-- A list of texts. -/
def ofTexts (texts : List String) : Datum := list (texts.map text)

/-- A text, or `null` for nothing. -/
def ofText? : Option String → Datum
  | some s => text s
  | none => null

end Datum

end Introspect
