import Introspect.Toml.Scalar
import Introspect.Toml.Table

/-! Reading a TOML text.

    A document is a sequence of lines, each with a header, a key and its value, a comment or
    nothing. Keys belong to the table of the last header before them. Lists and inline tables may
    run over several lines, with comments between their pieces and a comma after the last member,
    and may be nested eighty deep; only a key with dots stays on its line. -/

namespace Introspect.Toml

/-- How deep lists and inline tables may be nested. -/
def maxDepth : Nat := 80

/-- Reads members with commas between them, up to the closing character. Each takes up a
    character. -/
def members {α : Type} (close : Char) (member : List Char → Option (α × List Char)) :
    Nat → List Char → Option (List α × List Char)
  | 0, _ => none
  | fuel + 1, s => do
    match ← filler false s with
    | [] => none
    | c :: rest =>
      if c = close then some ([], rest)
      else
        let (a, rest) ← member (c :: rest)
        match ← filler false rest with
        | [] => none
        | c :: rest =>
          if c = close then some ([a], rest)
          else if c = ',' then do
            let (as, rest) ← members close member fuel rest
            return (a :: as, rest)
          else none

/-- Reads a key and its value; `gap` skips what may stand on either side of the sign between
    them. -/
def assignment (gap : List Char → Option (List Char))
    (value : List Char → Option (Datum × List Char)) (s : List Char) :
    Option ((List String × Datum) × List Char) := do
  let (path, rest) ← key s
  let rest ← skipChar? '=' (← gap rest)
  let (d, rest) ← value (← gap rest)
  return ((path, d), rest)

/-- Reads a value in which lists and inline tables are nested up to a depth. -/
def value : Nat → List Char → Option (Datum × List Char)
  | depth, '[' :: rest =>
    match depth with
    | 0 => none
    | depth + 1 => (members ']' (value depth) (rest.length + 1) rest).map fun r => (.list r.1, r.2)
  | depth, '{' :: rest =>
    match depth with
    | 0 => none
    | depth + 1 => do
      let (items, rest) ←
        members '}' (assignment (filler false) (value depth)) (rest.length + 1) rest
      let entries ← Entries.ofAssignments items
      return (.record (entriesToFields entries), rest)
  | _, s =>
    match quotedText? s with
    | some (text, rest) => some (.text text, rest)
    | none => scalar? s

/-- A document that is being read: its tables so far, and the path of the current one. -/
structure Draft where
  root : Entries
  current : List String

namespace Draft

/-- Reads a statement at the start of `s`, with the rest of its line. -/
def statement (d : Draft) : List Char → Option (Draft × List Char)
  | '[' :: '[' :: rest => do
    let (path, rest) ← key rest
    let rest ← skipChar? ']' (← skipChar? ']' rest)
    let root ← d.root.open? Entries.extend path
    return (⟨root, path⟩, ← lineEnd rest)
  | '[' :: rest => do
    let (path, rest) ← key rest
    let rest ← skipChar? ']' rest
    let root ← d.root.open? Entries.define path
    return (⟨root, path⟩, ← lineEnd rest)
  | s => do
    let ((path, v), rest) ← assignment (some ∘ skipSpaces) (value maxDepth) s
    let root ← d.root.inside d.current (Entries.assign v path)
    return (⟨root, d.current⟩, ← lineEnd rest)

/-- Reads statements up to the end of the text. Each takes up a character. -/
def statements : Nat → Draft → List Char → Option Draft
  | 0, _, _ => none
  | fuel + 1, d, s => do
    match ← filler false s with
    | [] => some d
    | s =>
      let (d, rest) ← d.statement s
      statements fuel d rest

end Draft

/-- Reads a TOML text, before which a byte order mark may stand. -/
def read (text : String) : Option Datum := do
  let s := match text.toList with
    | '\uFEFF' :: rest => rest
    | s => s
  let d ← Draft.statements (s.length + 1) ⟨[], []⟩ s
  return .record (entriesToFields d.root)

end Introspect.Toml
