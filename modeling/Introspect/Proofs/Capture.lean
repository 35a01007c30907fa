import Mathlib
import Introspect.Catalog.Snapshot
import Introspect.CodeModel
import Introspect.Proofs.Outcome

/-! Captures: a run over a snapshot is the run over what it was captured from.

    A run asks a catalog for its enums, for the tables of one schema, and about these tables.
    Catalogs that agree on these answers give the same schema or the same error, and leave the same
    registry (`Schema.build_congr`). A capture asks the same questions, but keeps what it was told
    under the schema and the name of a row, where another row may stand before. Its first match
    answers for all of them, and answers the same, since it was captured with the same question
    (`Snapshot.agrees_of_capture`). -/

namespace Introspect

variable {c c' : Catalog} {n : String} {row : TableRow} {snap : Snapshot}

/-! ### Catalogs that agree -/

/-- Two catalogs say the same about the table of a row. -/
structure Catalog.AgreeAt (c c' : Catalog) (row : TableRow) : Prop where
  columns : c.columns row.schema row.name = c'.columns row.schema row.name
  primaryKey : c.primaryKey row.schema row.name = c'.primaryKey row.schema row.name
  indexes : c.indexes row.schema row.name = c'.indexes row.schema row.name

/-- Two catalogs say the same about a schema. -/
structure Catalog.AgreeOn (c c' : Catalog) (n : String) : Prop where
  enums : c.enums = c'.enums
  tables : c.tables n = c'.tables n
  rows : ∀ rows, c.tables n = .ok rows → ∀ row ∈ rows, c.AgreeAt c' row

theorem Table.build_congr (same : c.AgreeAt c' row) : Table.build c row = Table.build c' row := by
  rw [Table.build, Table.build, same.columns, same.primaryKey, same.indexes]

theorem buildTables_congr : ∀ {rows : List TableRow} {seen : List String},
    (∀ row ∈ rows, c.AgreeAt c' row) → buildTables c seen rows = buildTables c' seen rows
  | [], _, _ => rfl
  | row :: rows, seen, same => by
    obtain ⟨first, rest⟩ := List.forall_mem_cons.1 same
    rw [buildTables, buildTables, Table.build_congr first, buildTables_congr rest]

theorem typedTables_congr {r : Registry} (same : c.AgreeOn c' n) :
    typedTables c n r = typedTables c' n r := by
  rw [typedTables, typedTables, ← same.tables]
  cases answer : c.tables n with
  | error e => rfl
  | ok rows =>
    have tables := @buildTables_congr c c' rows [] (same.rows rows answer)
    simp only [inspected, Except.mapError, bind, Except.bind, tables]

theorem Schema.build_congr (same : c.AgreeOn c' n) (r : Registry) :
    Schema.build c n r = Schema.build c' n r := by
  have tables := fun r' => @typedTables_congr c c' n r' same
  simp only [Schema.build, same.enums, tables]

theorem CodeModel.generate_congr (same : c.AgreeOn c' n) (ds : List Definition) :
    CodeModel.generate c ds n = CodeModel.generate c' ds n := by
  rw [CodeModel.generate, CodeModel.generate, inspect, inspect, Schema.build_congr same]

/-! ### Rows of a schema -/

/-- All tables that the catalog lists for a schema are of this schema. -/
def Catalog.Owns (c : Catalog) (n : String) : Prop :=
  ∀ rows, c.tables n = .ok rows → ∀ row ∈ rows, row.schema = n

theorem Snapshot.answer_eq_ok {α : Type} {op : Operation} {value a : α} :
    snap.answer op value = .ok a ↔ snap.failing ≠ some op ∧ value = a := by
  rw [answer]
  split
  · simp_all
  · simp_all

theorem Snapshot.answerFor_eq_ok {α : Type} {op : Operation} {value : TableRecord → α}
    {schema name : String} {a : α} : snap.answerFor op value schema name = .ok a ↔
      snap.failing ≠ some op ∧ ∃ t, snap.find? schema name = some t ∧ value t = a := by
  simp only [answerFor, bind_eq_ok, answer_eq_ok]
  cases snap.find? schema name with
  | none => simp
  | some t => simp

theorem Snapshot.owns (snap : Snapshot) (n : String) : snap.toCatalog.Owns n := by
  intro rows h row hrow
  obtain ⟨-, rfl⟩ := answer_eq_ok.1 h
  obtain ⟨t, ht, rfl⟩ := List.mem_map.1 hrow
  exact of_decide_eq_true (List.mem_filter.1 ht).2

/-! ### Records of a snapshot -/

namespace Snapshot

variable {t : TableRecord}

/-- The tables of a schema, in the order of the snapshot. -/
def listed (snap : Snapshot) (n : String) : List TableRecord := snap.tables.filter (·.schema = n)

theorem mem_listed : t ∈ snap.listed n ↔ t ∈ snap.tables ∧ t.schema = n := by
  simp [listed]

theorem find?_listed (snap : Snapshot) (n name : String) :
    snap.find? n name = (snap.listed n).find? (·.name = name) := by
  rw [listed, List.find?_filter, find?]
  simp

/-- Every record of a snapshot is found, or one of its schema and name in its stead. -/
theorem exists_find? (ht : t ∈ snap.tables) : ∃ first, snap.find? t.schema t.name = some first ∧
    first ∈ snap.tables ∧ first.schema = t.schema ∧ first.name = t.name := by
  cases found : snap.find? t.schema t.name with
  | none => exact absurd (List.find?_eq_none.1 found t ht) (by simp)
  | some first =>
    obtain ⟨schema, name⟩ : first.schema = t.schema ∧ first.name = t.name := by
      simpa using List.find?_some found
    exact ⟨first, rfl, List.mem_of_find?_eq_some found, schema, name⟩

theorem toCatalog_enums (answers : snap.failing = none) :
    snap.toCatalog.enums = .ok snap.labels :=
  answer_eq_ok.2 ⟨by simp [answers], rfl⟩

theorem toCatalog_tables (answers : snap.failing = none) (n : String) :
    snap.toCatalog.tables n = .ok ((snap.listed n).map TableRecord.row) :=
  answer_eq_ok.2 ⟨by simp [answers], rfl⟩

end Snapshot

/-! ### Captures -/

/-- A record keeps what the catalog says about the table of a schema and name. -/
structure TableRecord.Keeps (t : TableRecord) (c : Catalog) (schema name : String) : Prop where
  columns : c.columns schema name = .ok t.columns
  primaryKey : c.primaryKey schema name = .ok t.primaryKey
  indexes : c.indexes schema name = .ok t.indexes

namespace Snapshot

/-- What a snapshot answers about a table is kept by the first record of that schema and name. -/
theorem keeps_of_find? {schema name : String} {t : TableRecord} (answers : snap.failing = none)
    (found : snap.find? schema name = some t) : t.Keeps snap.toCatalog schema name := by
  have answer {α : Type} (op : Operation) (value : TableRecord → α) :
      snap.answerFor op value schema name = .ok (value t) := by
    rw [answerFor, found]
    exact bind_eq_ok.2 ⟨some t, answer_eq_ok.2 ⟨by simp [answers], rfl⟩, rfl⟩
  exact ⟨answer .., answer .., answer ..⟩

theorem captureTable_eq_ok {t : TableRecord} : captureTable c row = .ok t ↔
    t.row = row ∧ t.Keeps c row.schema row.name := by
  simp only [captureTable, bind_eq_ok, pure_eq_ok]
  constructor
  · rintro ⟨columns, hc, keys, hk, indexes, hi, rfl⟩
    exact ⟨rfl, hc, hk, hi⟩
  · rintro ⟨rfl, kept⟩
    exact ⟨_, kept.columns, _, kept.primaryKey, _, kept.indexes, rfl⟩

theorem capture_eq_ok : capture c n = .ok snap ↔ ∃ labels rows records, c.enums = .ok labels ∧
    c.tables n = .ok rows ∧ List.Forall₂ (fun row t => captureTable c row = .ok t) rows records ∧
      snap = ⟨labels, records, none⟩ := by
  simp only [capture, bind_eq_ok, mapM_eq_ok, pure_eq_ok]
  constructor
  · rintro ⟨labels, hl, rows, hr, records, each, rfl⟩
    exact ⟨labels, rows, records, hl, hr, each, rfl⟩
  · rintro ⟨labels, rows, records, hl, hr, each, rfl⟩
    exact ⟨labels, hl, rows, hr, records, each, rfl⟩

/-- Catalogs that agree on a schema give the same snapshot of it. -/
theorem capture_congr (same : c.AgreeOn c' n) : capture c n = capture c' n := by
  rw [capture, capture, same.enums, ← same.tables]
  cases answer : c.tables n with
  | error e => rfl
  | ok rows =>
    have records : rows.mapM (captureTable c) = rows.mapM (captureTable c') := by
      refine mapM_congr fun row hrow => ?_
      obtain ⟨columns, primaryKey, indexes⟩ := same.rows rows answer row hrow
      rw [captureTable, captureTable, columns, primaryKey, indexes]
    simp only [bind, Except.bind, records]

/-- The first record with the schema and name of a captured row answers for that row: it may be the
    record of another row, but of one that was captured with the same question. -/
theorem find?_of_captured {rows : List TableRow} {records : List TableRecord}
    (each : List.Forall₂ (fun row t => captureTable c row = .ok t) rows records) (hrow : row ∈ rows)
    (labels : List LabelRow) : ∃ t, find? ⟨labels, records, none⟩ row.schema row.name = some t ∧
      t.Keeps c row.schema row.name := by
  obtain ⟨own, hown, captured⟩ := forall₂_mem_right each.flip hrow
  obtain ⟨rfl, -⟩ := captureTable_eq_ok.1 captured
  have kept : own ∈ (⟨labels, records, none⟩ : Snapshot).tables := hown
  obtain ⟨t, found, ht, schema, name⟩ := exists_find? kept
  obtain ⟨other, -, asked⟩ := forall₂_mem_right each ht
  obtain ⟨rfl, keeps⟩ := captureTable_eq_ok.1 asked
  have sameSchema : t.row.schema = own.row.schema := schema
  have sameName : t.row.name = own.row.name := name
  exact ⟨t, found, sameSchema ▸ sameName ▸ keeps⟩

/-- A snapshot says of the schema it was captured for what the catalog says. -/
theorem agrees_of_capture (own : c.Owns n) (h : capture c n = .ok snap) :
    snap.toCatalog.AgreeOn c n := by
  obtain ⟨labels, rows, records, hl, hr, each, rfl⟩ := capture_eq_ok.1 h
  have listed : rows = records.map TableRecord.row := by
    rw [← forall₂_map_eq each fun _ _ asked => (captureTable_eq_ok.1 asked).1.symm, List.map_id']
  have all : records.filter (·.schema = n) = records := by
    rw [List.filter_eq_self]
    intro t ht
    have schema := own rows hr t.row (listed ▸ List.mem_map_of_mem ht)
    exact decide_eq_true schema
  have tables : (Snapshot.toCatalog ⟨labels, records, none⟩).tables n = .ok rows := by
    rw [listed]
    exact congrArg (Except.ok <| List.map TableRecord.row ·) all
  refine ⟨hl.symm, tables.trans hr.symm, ?_⟩
  intro asked hasked row hrow
  cases tables.symm.trans hasked
  obtain ⟨t, found, kept⟩ := find?_of_captured each hrow labels
  have again := keeps_of_find? rfl found
  exact ⟨again.columns.trans kept.columns.symm, again.primaryKey.trans kept.primaryKey.symm,
    again.indexes.trans kept.indexes.symm⟩

/-- FAITHFUL: over a captured schema, a run gives what it gives over the catalog, be it a schema, a
    code model or an error; and whatever a snapshot lists for a schema is of this schema. -/
theorem capture_faithful (n : String) : (∀ source : Snapshot, source.toCatalog.Owns n) ∧
    ∀ (c : Catalog) (snap : Snapshot), c.Owns n → capture c n = .ok snap →
      (∀ r, Schema.build snap.toCatalog n r = Schema.build c n r) ∧
        ∀ ds, CodeModel.generate snap.toCatalog ds n = CodeModel.generate c ds n := by
  refine ⟨fun source => source.owns n, fun c snap own h => ?_⟩
  have same := agrees_of_capture own h
  exact ⟨Schema.build_congr same, CodeModel.generate_congr same⟩

/-- A snapshot that lists a table twice, with and without columns, and one of another schema. -/
def doubled : Snapshot where
  labels := [⟨"audit", "mood", "calm"⟩]
  tables := [(TableRecord.new "public" "users").addColumn "id" "int8" false,
    .new "audit" "users", .new "public" "users"]
  failing := none

/-- What is captured of it: the columns of the first table, twice. -/
def captured : Snapshot where
  labels := doubled.labels
  tables := .replicate 2 ((TableRecord.new "public" "users").addColumn "id" "int8" false)
  failing := none

theorem capture_faithful_doubled : capture doubled.toCatalog "public" = .ok captured ∧
    (∀ r, Schema.build captured.toCatalog "public" r = Schema.build doubled.toCatalog "public" r) ∧
      ∀ ds, CodeModel.generate captured.toCatalog ds "public" =
        CodeModel.generate doubled.toCatalog ds "public" := by
  have took : capture doubled.toCatalog "public" = .ok captured := by cbv
  obtain ⟨own, same⟩ := capture_faithful "public"
  exact ⟨took, same _ _ (own doubled) took⟩

end Snapshot

end Introspect
