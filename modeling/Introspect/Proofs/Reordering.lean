import Introspect.Proofs.CodeModel
import Introspect.Proofs.Refusal

/-! Reorderings: the order in which a snapshot lists things does not matter.

    A snapshot that answers what a build asks is built to one schema only: the enums of its labels,
    and for each table of the schema what its record describes (`Snapshot.build_eq_ok`). What a
    record describes does not depend on the order of its columns, which is that of their positions,
    nor on the order of its key names. So tables in another order give the same tables in another
    order. Labels give the same enums in another order, as long as those of one enum keep theirs,
    and the registry sees nothing of either (`Snapshot.inspect_reordered`). -/

namespace Introspect

variable {c : Catalog} {n : String} {r r' : Registry} {s : Schema} {t u : TableRecord} {x : Table}

/-! ### Tables of records -/

namespace TableRecord

/-- The table that a record describes. -/
def table (t : TableRecord) : Table :=
  let table := Table.ofColumns t.catalog t.schema t.name (t.columns.map (Column.ofRow t.primaryKey))
  { table with indexes := t.indexes.filterMap table.resolveIndex? }

/-- A table is built from what is kept of it exactly when the positions of its columns differ. -/
theorem build_eq_ok (kept : t.Keeps c t.row.schema t.row.name) :
    Table.build c t.row = .ok x ↔ (t.columns.map (·.position)).Nodup ∧ x = t.table := by
  rw [Table.build_eq_ok]
  constructor
  · rintro ⟨columns, keys, indexes, hc, hk, distinct, hi, rfl⟩
    cases kept.columns.symm.trans hc
    cases kept.primaryKey.symm.trans hk
    cases kept.indexes.symm.trans hi
    exact ⟨distinct, rfl⟩
  · rintro ⟨distinct, rfl⟩
    exact ⟨_, _, _, kept.columns, kept.primaryKey, distinct, kept.indexes, rfl⟩

theorem typed_table : (∀ x ∈ t.table.columns, r.contains x.typeName = true) ↔
    ∀ row ∈ t.columns, r.contains row.typeName = true := by
  have perm : t.table.columns.Perm (t.columns.map (Column.ofRow t.primaryKey)) :=
    Table.byPosition_perm _
  simp only [perm.mem_iff, List.forall_mem_map, Column.ofRow]

end TableRecord

/-! ### Builds of a snapshot -/

namespace Snapshot

open TableRecord (Separate)

variable {snap : Snapshot} {row : TableRow} {ts : List Table}

/-- The snapshot answers what a build of the schema asks. Only if there are tables, this is
    everything. -/
structure Answers (snap : Snapshot) (n : String) : Prop where
  enums : snap.failing ≠ some .enums
  tables : snap.failing ≠ some .tables
  each : ∀ t ∈ snap.listed n, snap.failing = none

/-- Whoever tells of labels and tables, and all about one table, fails on no question. -/
theorem failing_eq_none (enums : snap.failing ≠ some .enums) (tables : snap.failing ≠ some .tables)
    (built : Table.build snap.toCatalog row = .ok x) : snap.failing = none := by
  obtain ⟨_, _, _, columns, keys, -, indexes, -⟩ := Table.build_eq_ok.1 built
  replace columns := (answerFor_eq_ok.1 columns).1
  replace keys := (answerFor_eq_ok.1 keys).1
  replace indexes := (answerFor_eq_ok.1 indexes).1
  cases failing : snap.failing with
  | none => rfl
  | some op => cases op <;> contradiction

/-- Tables that can be told apart are built to what their records describe. -/
theorem buildTables_eq_ok (answers : ∀ t ∈ snap.listed n, snap.failing = none) :
    buildTables snap.toCatalog [] ((snap.listed n).map TableRecord.row) = .ok ts ↔
      Separate (snap.listed n) ∧ ts = (snap.listed n).map TableRecord.table := by
  by_cases none : snap.listed n = []
  · have separate : Separate ([] : List TableRecord) := ⟨by simp, by simp⟩
    simp [none, buildTables, separate, eq_comm]
  · obtain ⟨first, member⟩ := List.exists_mem_of_ne_nil _ none
    replace answers := answers first member
    have tables (separate : Separate (snap.listed n)) :
        List.Forall₂ (fun t x => Table.build snap.toCatalog t.row = .ok x) (snap.listed n) ts ↔
          ts = (snap.listed n).map TableRecord.table := by
      refine forall₂_iff_eq_map fun t ht x => ?_
      rw [TableRecord.build_eq_ok (keeps_of_mem answers separate.names ht)]
      exact and_iff_right (separate.positions t ht)
    constructor
    · intro built
      have separate := separate_of_buildTables answers (List.append_nil _).symm built
      have each := (Introspect.buildTables_eq_ok.1 built).2
      rw [List.forall₂_map_left_iff, tables separate] at each
      exact ⟨separate, each⟩
    · rintro ⟨separate, rfl⟩
      refine Introspect.buildTables_eq_ok.2 ⟨?_, ?_⟩
      · rw [fresh_mem_nil, List.map_map]
        exact separate.names
      · rw [List.forall₂_map_left_iff, tables separate]

/-- A schema is built of a snapshot exactly when it answers, the names of its enums are free, its
    tables can be told apart and their columns have types; and then it is what the records say. -/
theorem build_eq_ok : Schema.build snap.toCatalog n r = (.ok s, r') ↔ snap.Answers n ∧
    r.registerAll (Enumeration.group snap.labels) = (none, r') ∧ Separate (snap.listed n) ∧
      (∀ t ∈ snap.listed n, ∀ row ∈ t.columns, r'.contains row.typeName = true) ∧
        s = ⟨n, Enumeration.group snap.labels, (snap.listed n).map TableRecord.table⟩ := by
  rw [Schema.build_eq_ok]
  constructor
  · rintro ⟨labels, ts, asked, registered, h, rfl⟩
    obtain ⟨enums, rfl⟩ := answer_eq_ok.1 asked
    obtain ⟨rows, asked, built, typed⟩ := typedTables_eq_ok.1 h
    obtain ⟨tables, rfl⟩ := answer_eq_ok.1 asked
    have each : ∀ t ∈ snap.listed n, snap.failing = none := by
      intro t ht
      obtain ⟨x, hx⟩ := exists_forall₂_iff.1 ⟨ts, (Introspect.buildTables_eq_ok.1 built).2⟩ t.row
        (List.mem_map_of_mem ht)
      exact failing_eq_none enums tables hx
    obtain ⟨separate, rfl⟩ := (buildTables_eq_ok each).1 built
    refine ⟨⟨enums, tables, each⟩, registered, separate, fun t ht => ?_, rfl⟩
    exact TableRecord.typed_table.1 (typed t.table (List.mem_map_of_mem ht))
  · rintro ⟨answers, registered, separate, typed, rfl⟩
    refine ⟨_, _, answer_eq_ok.2 ⟨answers.enums, rfl⟩, registered, ?_, rfl⟩
    refine typedTables_eq_ok.2 ⟨_, answer_eq_ok.2 ⟨answers.tables, rfl⟩,
      (buildTables_eq_ok answers.each).2 ⟨separate, rfl⟩, ?_⟩
    intro x hx
    obtain ⟨t, ht, rfl⟩ := List.mem_map.1 hx
    exact TableRecord.typed_table.2 (typed t ht)

end Snapshot

/-! ### Reorderings -/

/-- Two records say the same of a table, its columns and its key names in any order. -/
structure TableRecord.Reordered (t u : TableRecord) : Prop where
  row : t.row = u.row
  columns : t.columns.Perm u.columns
  primaryKey : t.primaryKey.Perm u.primaryKey
  indexes : t.indexes = u.indexes

/-- Two snapshots say the same, with tables in any order and labels in any order that keeps those of
    one enum as they follow each other. -/
structure Snapshot.Reordered (a b : Snapshot) : Prop where
  failing : a.failing = b.failing
  labels : a.labels.Perm b.labels
  order : ∀ k, a.labels.filter (·.name = k) = b.labels.filter (·.name = k)
  tables : ∃ ts, List.Forall₂ TableRecord.Reordered a.tables ts ∧ ts.Perm b.tables

namespace TableRecord.Reordered

theorem symm (h : t.Reordered u) : u.Reordered t :=
  ⟨h.row.symm, h.columns.symm, h.primaryKey.symm, h.indexes.symm⟩

theorem schema (h : t.Reordered u) : t.schema = u.schema := congrArg TableRow.schema h.row

theorem name (h : t.Reordered u) : t.name = u.name := congrArg TableRow.name h.row

theorem positions (h : t.Reordered u) (distinct : (t.columns.map (·.position)).Nodup) :
    (u.columns.map (·.position)).Nodup :=
  (h.columns.map _).nodup_iff.1 distinct

/-- Columns at different positions are the same table in any order. -/
theorem table (h : t.Reordered u) (distinct : (t.columns.map (·.position)).Nodup) :
    t.table = u.table := by
  have flags (row : ColumnRow) : Column.ofRow t.primaryKey row = Column.ofRow u.primaryKey row := by
    rw [Column.ofRow, Column.ofRow, h.primaryKey.contains_eq]
  have columns : Table.byPosition (t.columns.map (Column.ofRow t.primaryKey)) =
      Table.byPosition (u.columns.map (Column.ofRow u.primaryKey)) := by
    rw [← funext flags]
    refine Table.byPosition_eq_of_perm (h.columns.map _) ?_
    rw [List.map_map]
    exact distinct
  have catalog : t.catalog = u.catalog := congrArg TableRow.catalog h.row
  simp only [TableRecord.table, Table.ofColumns, catalog, h.schema, h.name, h.indexes, columns]

end TableRecord.Reordered

namespace Snapshot

open TableRecord (Separate)

variable {a b : Snapshot}

theorem Reordered.symm (h : a.Reordered b) : b.Reordered a := by
  obtain ⟨ts, each, perm⟩ := h.tables
  have back : Relation.Comp List.Perm (List.Forall₂ TableRecord.Reordered) b.tables a.tables :=
    ⟨ts, perm.symm, (each.imp fun _ _ => .symm).flip⟩
  rw [← List.forall₂_comp_perm_eq_perm_comp_forall₂] at back
  exact ⟨h.failing.symm, h.labels.symm, fun k => (h.order k).symm, back⟩

/-- The tables of each schema are reordered in the same manner. -/
theorem Reordered.listed (h : a.Reordered b) (n : String) :
    ∃ ts, List.Forall₂ TableRecord.Reordered (a.listed n) ts ∧ ts.Perm (b.listed n) := by
  obtain ⟨ts, each, perm⟩ := h.tables
  refine ⟨ts.filter (·.schema = n), List.rel_filter ?_ each, perm.filter _⟩
  intro t u same
  simp [same.schema]

theorem Reordered.answers (h : a.Reordered b) (answers : a.Answers n) : b.Answers n := by
  obtain ⟨ts, each, perm⟩ := h.listed n
  refine ⟨h.failing ▸ answers.enums, h.failing ▸ answers.tables, fun u hu => ?_⟩
  obtain ⟨t, ht, -⟩ := forall₂_mem_right each (perm.mem_iff.2 hu)
  exact h.failing ▸ answers.each t ht

theorem Reordered.separate (h : a.Reordered b) (separate : Separate (a.listed n)) :
    Separate (b.listed n) := by
  obtain ⟨ts, each, perm⟩ := h.listed n
  have names : (a.listed n).map (·.name) = ts.map (·.name) :=
    forall₂_map_eq each fun _ _ same => same.name
  refine ⟨(perm.map _).nodup_iff.1 (names ▸ separate.names), fun u hu => ?_⟩
  obtain ⟨t, ht, same⟩ := forall₂_mem_right each (perm.mem_iff.2 hu)
  exact same.positions (separate.positions t ht)

theorem Reordered.typed (h : a.Reordered b)
    (typed : ∀ t ∈ a.listed n, ∀ row ∈ t.columns, r.contains row.typeName = true) :
    ∀ u ∈ b.listed n, ∀ row ∈ u.columns, r.contains row.typeName = true := by
  obtain ⟨ts, each, perm⟩ := h.listed n
  intro u hu row hrow
  obtain ⟨t, ht, same⟩ := forall₂_mem_right each (perm.mem_iff.2 hu)
  exact typed t ht row (same.columns.mem_iff.2 hrow)

/-- Tables that can be told apart are the same in any order. -/
theorem Reordered.tables_perm (h : a.Reordered b) (separate : Separate (a.listed n)) :
    ((a.listed n).map TableRecord.table).Perm ((b.listed n).map TableRecord.table) := by
  obtain ⟨ts, each, perm⟩ := h.listed n
  have same : (a.listed n).map TableRecord.table = ts.map TableRecord.table :=
    forall₂_map_eq ((List.forall₂_and_left _ _).2 ⟨separate.positions, each⟩)
      fun _ _ both => both.2.table both.1
  rw [same]
  exact perm.map _

/-- What is built of a snapshot is built of it in any other order. -/
theorem Reordered.build (h : a.Reordered b) (built : Schema.build a.toCatalog n r = (.ok s, r')) :
    ∃ s', Schema.build b.toCatalog n r = (.ok s', r') ∧ s.enums.Perm s'.enums ∧
      s.tables.Perm s'.tables := by
  obtain ⟨answers, registered, separate, typed, rfl⟩ := build_eq_ok.1 built
  have enums := Enumeration.group_perm h.order
  exact ⟨_, build_eq_ok.2 ⟨h.answers answers, Registry.registerAll_perm enums registered,
    h.separate separate, h.typed typed, rfl⟩, enums, h.tables_perm separate⟩

/-- UNORDERED: a schema is found in a snapshot exactly when it is found in the same snapshot in
    another order; and then the types are the same, and the enums and the tables are the same up to
    their order. -/
theorem inspect_reordered (h : a.Reordered b) (n : String) :
    ((∃ found, inspect a.toCatalog n = .ok found) ↔
      ∃ found, inspect b.toCatalog n = .ok found) ∧
    ∀ s types s' types', inspect a.toCatalog n = .ok (s, types) →
      inspect b.toCatalog n = .ok (s', types') →
        types = types' ∧ s.enums.Perm s'.enums ∧ s.tables.Perm s'.tables := by
  have finds {a b : Snapshot} (h : a.Reordered b) :
      (∃ found, inspect a.toCatalog n = .ok found) →
        ∃ found, inspect b.toCatalog n = .ok found := by
    rintro ⟨⟨s, types⟩, found⟩
    obtain ⟨s', built, -⟩ := h.build (inspect_eq_ok.1 found)
    exact ⟨(s', types), inspect_eq_ok.2 built⟩
  refine ⟨⟨finds h, finds h.symm⟩, ?_⟩
  intro s types s' types' found found'
  obtain ⟨s₁, built, enums, tables⟩ := h.build (inspect_eq_ok.1 found)
  cases built.symm.trans (inspect_eq_ok.1 found')
  exact ⟨rfl, enums, tables⟩

/-- A snapshot of two enums and of tables in two schemas. -/
def bazaar : Snapshot where
  labels := [⟨"public", "mood", "happy"⟩, ⟨"public", "size", "small"⟩, ⟨"audit", "mood", "sad"⟩]
  tables := [
    ⟨"app", "public", "orders", [⟨1, "id", "int8", false⟩, ⟨2, "state", "mood", true⟩],
      ["id", "state"], [⟨"orders_state", ["state"]⟩]⟩,
    ⟨"app", "public", "parcels", [⟨1, "size", "size", false⟩], [], []⟩,
    .new "audit" "orders"]
  failing := none

/-- The same snapshot in another order. -/
def bazaarShuffled : Snapshot where
  labels := [⟨"public", "size", "small"⟩, ⟨"public", "mood", "happy"⟩, ⟨"audit", "mood", "sad"⟩]
  tables := [.new "audit" "orders",
    ⟨"app", "public", "parcels", [⟨1, "size", "size", false⟩], [], []⟩,
    ⟨"app", "public", "orders", [⟨2, "state", "mood", true⟩, ⟨1, "id", "int8", false⟩],
      ["state", "id"], [⟨"orders_state", ["state"]⟩]⟩]
  failing := none

theorem bazaar_reordered : bazaar.Reordered bazaarShuffled := by
  refine ⟨rfl, by decide, fun k => ?_, bazaarShuffled.tables.reverse, ?_, List.reverse_perm _⟩
  · -- order
    by_cases mood : "mood" = k
    · simp [bazaar, bazaarShuffled, ← mood]
    · simp [bazaar, bazaarShuffled, List.filter_cons, mood]
  · -- tables
    refine .cons ⟨rfl, by decide, by decide, rfl⟩ (.cons ?_ (.cons ?_ .nil))
    · exact ⟨rfl, .refl _, .refl _, rfl⟩
    · exact ⟨rfl, .refl _, .refl _, rfl⟩

/-- The schema `public` as it is found in the first. -/
def bazaarSchema : Schema :=
  let id : Column := ⟨1, "id", "int8", false, true⟩
  let state : Column := ⟨2, "state", "mood", true, true⟩
  ⟨"public", [⟨"public", "mood", ["happy", "sad"]⟩, ⟨"public", "size", ["small"]⟩],
    [⟨"app", "public", "orders", [id, state], [id, state], [⟨"orders_state", [state]⟩]⟩,
      ⟨"app", "public", "parcels", [⟨1, "size", "size", false, false⟩], [], []⟩]⟩

theorem inspect_reordered_bazaar : bazaar.Reordered bazaarShuffled ∧
    ∃ types s', inspect bazaar.toCatalog "public" = .ok (bazaarSchema, types) ∧
      inspect bazaarShuffled.toCatalog "public" = .ok (s', types) ∧
      bazaarSchema.enums.Perm s'.enums ∧ bazaarSchema.tables.Perm s'.tables := by
  have built : Schema.build bazaar.toCatalog "public" .fresh =
      (.ok bazaarSchema, (Schema.build bazaar.toCatalog "public" .fresh).2) := Prod.ext (by cbv) rfl
  have found := inspect_eq_ok.2 built
  obtain ⟨succeeds, same⟩ := inspect_reordered bazaar_reordered "public"
  obtain ⟨⟨s', types'⟩, found'⟩ := succeeds.1 ⟨_, found⟩
  obtain ⟨rfl, enums, tables⟩ := same _ _ _ _ found found'
  exact ⟨bazaar_reordered, _, s', found, found', enums, tables⟩

end Snapshot

end Introspect
