import Introspect.Proofs.Build
import Introspect.Proofs.Quoted

/-! Keys of indexes: which columns they name, and which indexes a table keeps.

    A key names the first column of just that name. Only if there is none it may be a quoted
    identifier, and then it names the first column of the name that it quotes (`Table.Names`). A row
    of an index stays in its place if all of its keys name columns, and is left out otherwise
    (`Table.Keeps`); it never stops the build of the table.

    A key can be read both ways only if some column has the quoted form of another column's name.
    Without such columns each key that was written for a column names it, quoted or not
    (`names_of_written`), and an index is over the columns that it was written for
    (`Table.build_indexes`). -/

namespace Introspect

open Text (quoted)

variable {c : Catalog} {t : Table} {x : Column} {key name : String}

/-- The column is the first of its table with the name. -/
def Table.FirstNamed (t : Table) (name : String) (x : Column) : Prop :=
  x.name = name ∧ ∃ before after, t.columns = before ++ x :: after ∧ name ∉ before.map (·.name)

/-- The column that a key of an index names: the first of just that name or, if no column has it,
    the first of the name that is quoted. -/
inductive Table.Names (t : Table) (key : String) (x : Column) : Prop
  | plain (first : t.FirstNamed key x)
  | quoted (name : String) (form : key = quoted name) (something : name ≠ "")
      (other : ∀ y ∈ t.columns, y.name ≠ key) (first : t.FirstNamed name x)

/-- The index of a row has its name, and for each key in turn the column that it names. -/
structure Table.Resolves (t : Table) (row : IndexRow) (i : Index) : Prop where
  name : i.name = row.name
  columns : List.Forall₂ t.Names row.keys i.columns

/-- The indexes of rows: those with a key that names no column are left out. -/
inductive Table.Keeps (t : Table) : List IndexRow → List Index → Prop
  | nil : Keeps t [] []
  | kept {row : IndexRow} {rows : List IndexRow} {i : Index} {is : List Index}
      (here : t.Resolves row i) (others : Keeps t rows is) : Keeps t (row :: rows) (i :: is)
  | leftOut {row : IndexRow} {rows : List IndexRow} {is : List Index}
      (unnamed : ∃ key ∈ row.keys, ∀ x, ¬ t.Names key x) (others : Keeps t rows is) :
      Keeps t (row :: rows) is

/-- The key is written for the column: its name as it is, or quoted. -/
def Column.Written (x : Column) (key : String) : Prop := key = x.name ∨ key = quoted x.name

/-- All columns have names, and no key can be written for two of them. -/
structure Table.Unambiguous (t : Table) : Prop where
  distinct : (t.columns.map (·.name)).Nodup
  something : ∀ x ∈ t.columns, x.name ≠ ""
  unquoted : ∀ x ∈ t.columns, ∀ y ∈ t.columns, x ≠ y → y.name ≠ quoted x.name

namespace Table

/-! ### Keys -/

theorem column?_eq_some : t.column? name = some x ↔ t.FirstNamed name x := find?_key_eq_some

theorem keyColumn?_eq_some : t.keyColumn? key = some x ↔ t.Names key x := by
  rw [keyColumn?, Option.or_eq_some_iff, column?_eq_some, column?_eq_none]
  constructor
  · rintro (first | ⟨other, found⟩)
    · exact .plain first
    · obtain ⟨name, read, found⟩ := Option.bind_eq_some_iff.1 found
      obtain ⟨something, form⟩ := Text.unquote_toList_eq_some.1 read
      exact .quoted _ form something other (column?_eq_some.1 found)
  · rintro (first | ⟨name, form, something, other, first⟩)
    · exact .inl first
    · refine .inr ⟨other, Option.bind_eq_some_iff.2 ⟨name.toList, ?_, ?_⟩⟩
      · rw [Text.unquote_toList_eq_some, String.ofList_toList]
        exact ⟨something, form⟩
      · rw [String.ofList_toList]
        exact column?_eq_some.2 first

/-! ### Rows -/

theorem resolves_iff {row : IndexRow} {i : Index} :
    t.resolveIndex? row = some i ↔ t.Resolves row i := by
  rw [resolveIndex?_eq_some]
  simp only [keyColumn?_eq_some]
  exact ⟨fun h => ⟨h.1, h.2⟩, fun h => ⟨h.name, h.columns⟩⟩

theorem resolveIndex?_eq_none {row : IndexRow} :
    t.resolveIndex? row = none ↔ ∃ key ∈ row.keys, ∀ x, ¬ t.Names key x := by
  have resolved : (∃ i, t.resolveIndex? row = some i) ↔ ∀ key ∈ row.keys, ∃ x, t.Names key x := by
    rw [← exists_forall₂_iff]
    simp only [resolves_iff]
    exact ⟨fun ⟨i, h⟩ => ⟨i.columns, h.columns⟩, fun ⟨xs, h⟩ => ⟨⟨row.name, xs⟩, rfl, h⟩⟩
  rw [← not_iff_not, ← ne_eq, Option.ne_none_iff_exists', resolved]
  simp

theorem keeps_filterMap (t : Table) (rows : List IndexRow) :
    t.Keeps rows (rows.filterMap t.resolveIndex?) := by
  induction rows with
  | nil => exact .nil
  | cons row rows ih =>
    cases resolved : t.resolveIndex? row with
    | none =>
      rw [List.filterMap_cons_none resolved]
      exact .leftOut (resolveIndex?_eq_none.1 resolved) ih
    | some i =>
      rw [List.filterMap_cons_some resolved]
      exact .kept (resolves_iff.1 resolved) ih

/-! ### Keys that are written for columns -/

theorem names_of_written (plain : t.Unambiguous) (hx : x ∈ t.columns) (written : x.Written key) :
    t.Names key x := by
  have first : t.FirstNamed x.name x :=
    column?_eq_some.1 ((find?_key_of_nodup plain.distinct).2 ⟨hx, rfl⟩)
  rcases written with rfl | rfl
  · exact .plain first
  · refine .quoted x.name rfl (plain.something x hx) (fun y hy same => ?_) first
    by_cases self : x = y
    · subst self
      exact Text.ne_quoted x.name same
    · exact plain.unquoted x hx y hy self same

theorem resolves_written (plain : t.Unambiguous) {row : IndexRow} {xs : List Column}
    (written : List.Forall₂ (fun key x => x ∈ t.columns ∧ x.Written key) row.keys xs) :
    t.Resolves row ⟨row.name, xs⟩ :=
  ⟨rfl, written.imp fun _ _ h => names_of_written plain h.1 h.2⟩

/-! ### Builds -/

/-- Rows of indexes do not stop the build of a table. -/
theorem build_indexRows {row : TableRow} {rows : List IndexRow}
    (plain : Table.build { c with indexes := fun _ _ => .ok [] } row = .ok t)
    (listed : c.indexes row.schema row.name = .ok rows) :
    Table.build c row = .ok { t with indexes := rows.filterMap t.resolveIndex? } := by
  obtain ⟨columnRows, keys, none, hc, hk, distinct, unlisted, rfl⟩ := Table.build_eq_ok.1 plain
  exact Table.build_eq_ok.2 ⟨columnRows, keys, rows, hc, hk, distinct, listed, rfl⟩

/-- INDEXES: a table is built with any rows of indexes as it is without them, and keeps those all of
    whose keys name columns. If no key can be written for two columns, an index whose keys were
    written for columns is over these. -/
theorem build_indexes (c : Catalog) (row : TableRow) (t : Table) (rows : List IndexRow)
    (plain : Table.build { c with indexes := fun _ _ => .ok [] } row = .ok t)
    (listed : c.indexes row.schema row.name = .ok rows) :
    ∃ indexes, Table.build c row = .ok { t with indexes } ∧ t.Keeps rows indexes ∧
      (t.Unambiguous → ∀ before r after, rows = before ++ r :: after → ∀ xs,
        List.Forall₂ (fun key x => x ∈ t.columns ∧ x.Written key) r.keys xs →
          ∃ kept kept', indexes = kept ++ ⟨r.name, xs⟩ :: kept' ∧
            t.Keeps before kept ∧ t.Keeps after kept') := by
  refine ⟨_, build_indexRows plain listed, keeps_filterMap t rows, ?_⟩
  rintro plain before r after rfl xs written
  refine ⟨_, _, ?_, keeps_filterMap t before, keeps_filterMap t after⟩
  have here := resolves_iff.2 (resolves_written plain written)
  rw [List.filterMap_append, List.filterMap_cons_some here]

end Table

/-- A column for the number of a note. -/
def noteId : Column := ⟨1, "id", "int8", false, true⟩

/-- A column with a double quote in its name. -/
def noteBody : Column := ⟨2, "bo\"dy", "text", true, false⟩

/-- The table of notes, without indexes. -/
def notes : Table := ⟨"", "public", "notes", [noteId, noteBody], [noteId], []⟩

/-- Indexes of notes: over an expression that starts and ends with quotes, and over both columns. -/
def noteRows : List IndexRow :=
  [⟨"notes_joined", ["\"id\" || \"id\""]⟩, ⟨"notes_body", ["\"bo\"\"dy\"", "id", "\"id\""]⟩]

/-- The row of the table of notes. -/
def noteRow : TableRow := ⟨"", "public", "notes"⟩

/-- A catalog of notes. -/
def noteCatalog : Catalog where
  enums := .ok []
  tables _ := .ok [noteRow]
  columns _ _ := .ok [noteBody.row, noteId.row]
  primaryKey _ _ := .ok ["id"]
  indexes _ _ := .ok noteRows

theorem notes_unambiguous : notes.Unambiguous := by
  refine ⟨by decide, by decide, ?_⟩
  have plain : ∀ x ∈ notes.columns, ∀ y ∈ notes.columns, y.name ≠ quoted x.name := by decide
  exact fun x hx y hy _ => plain x hx y hy

theorem Table.build_indexes_notes :
    Table.build { noteCatalog with indexes := fun _ _ => .ok [] } noteRow = .ok notes ∧
    noteCatalog.indexes "public" "notes" = .ok noteRows ∧ notes.Unambiguous ∧
    ∃ indexes, Table.build noteCatalog noteRow = .ok { notes with indexes } ∧
      ∃ kept kept', indexes = kept ++ ⟨"notes_body", [noteBody, noteId, noteId]⟩ :: kept' ∧
        notes.Keeps [⟨"notes_joined", ["\"id\" || \"id\""]⟩] kept ∧ notes.Keeps [] kept' := by
  have plain : Table.build { noteCatalog with indexes := fun _ _ => .ok [] } noteRow =
      .ok notes := by cbv
  have id : noteId ∈ notes.columns := by simp [notes]
  have body : noteBody ∈ notes.columns := by simp [notes]
  have written : List.Forall₂ (fun key x => x ∈ notes.columns ∧ x.Written key)
      ["\"bo\"\"dy\"", "id", "\"id\""] [noteBody, noteId, noteId] :=
    .cons ⟨body, .inr (by cbv)⟩ (.cons ⟨id, .inl rfl⟩ (.cons ⟨id, .inr (by cbv)⟩ .nil))
  obtain ⟨indexes, built, -, resolved⟩ := Table.build_indexes noteCatalog _ notes noteRows plain rfl
  exact ⟨plain, rfl, notes_unambiguous, indexes, built,
    resolved notes_unambiguous [_] _ [] rfl _ written⟩

end Introspect
