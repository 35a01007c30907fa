import Introspect.Document.Basic

/-! Tables under construction.

    The tables of a TOML document are built up statement by statement, and each table may be defined
    once only. So every table remembers how it came to be: by its own header, by being on the way to
    a table with a header, or by a key with dots. A header may define a table of the second kind,
    and keys with dots may add to those of the third. -/

namespace Introspect.Toml

/-- How a table came to be. -/
inductive Origin
  | header
  | implied
  | dotted
deriving DecidableEq

/-- What a key stands for: a value that is complete, a table, or a list of tables, of which only the
    last may still grow. -/
inductive Node
  | value (d : Datum)
  | table (origin : Origin) (entries : List (String × Node))
  | tables (earlier : List (List (String × Node))) (last : List (String × Node))

/-- The entries of a table, in the order in which their keys were first met. -/
abbrev Entries := List (String × Node)

namespace Entries

/-- Changes what a key stands for. -/
def update (key : String) (f : Option Node → Option Node) : Entries → Option Entries
  | [] => (f none).map fun n => [(key, n)]
  | e :: es =>
    if e.1 = key then (f (some e.2)).map fun n => (key, n) :: es
    else (update key f es).map (e :: ·)

/-- Changes the entries of the table that a node is, which is made if there is none. -/
def within (f : Entries → Option Entries) : Option Node → Option Node
  | none => (f []).map (.table .implied)
  | some (.table origin es) => (f es).map (.table origin)
  | some (.tables earlier last) => (f last).map (.tables earlier)
  | some (.value _) => none

/-- Changes the entries of the table at a path. -/
def inside : List String → (Entries → Option Entries) → Entries → Option Entries
  | [], f, es => f es
  | k :: ks, f, es => update k (within (inside ks f)) es

/-- What a header makes of the node that it names. -/
def define : Option Node → Option Node
  | none => some (.table .header [])
  | some (.table .implied es) => some (.table .header es)
  | some _ => none

/-- What the header of a list of tables makes of the node that it names. -/
def extend : Option Node → Option Node
  | none => some (.tables [] [])
  | some (.tables earlier last) => some (.tables (earlier ++ [last]) [])
  | some _ => none

/-- Changes the node at a path by a header. -/
def open? (change : Option Node → Option Node) (path : List String) (es : Entries) :
    Option Entries :=
  match path.getLast? with
  | some k => inside path.dropLast (update k change) es
  | none => none

/-- Gives a key with the given parts a value, which it must not have yet. The tables on the way have
    no header, and the one that gets the value exists by keys with dots only. -/
def assign (d : Datum) : List String → Entries → Option Entries
  | [], _ => none
  | [k], es =>
    update k (fun
      | none => some (.value d)
      | some _ => none) es
  | k :: ks, es =>
    update k (fun
      | none => (assign d ks []).map (.table .dotted)
      | some (.table origin inner) =>
        if origin = .dotted ∨ (origin = .implied ∧ 1 < ks.length) then
          (assign d ks inner).map (.table origin)
        else none
      | some (.tables earlier last) =>
        if 1 < ks.length then (assign d ks last).map (.tables earlier) else none
      | some (.value _) => none) es

/-- The entries that assignments make. -/
def ofAssignments (items : List (List String × Datum)) : Option Entries :=
  items.foldlM (fun es item => assign item.2 item.1 es) []

end Entries

mutual

/-- The finished value of a node. -/
def Node.toDatum : Node → Datum
  | .value d => d
  | .table _ es => .record (entriesToFields es)
  | .tables earlier last => .list (tablesToItems earlier ++ [.record (entriesToFields last)])

/-- The fields of a finished table. -/
def entriesToFields : List (String × Node) → List (String × Datum)
  | [] => []
  | (k, n) :: es => (k, n.toDatum) :: entriesToFields es

/-- The items of a finished list of tables. -/
def tablesToItems : List (List (String × Node)) → List Datum
  | [] => []
  | es :: rest => .record (entriesToFields es) :: tablesToItems rest

end

end Introspect.Toml
