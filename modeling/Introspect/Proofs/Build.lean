import Mathlib
import Introspect.Catalog.Snapshot
import Introspect.Proofs.Registry
import Introspect.Proofs.Table

/-! Builds: what it takes to build a schema, and what a schema that was built is like.

    Each step of a build has one statement that says when it succeeds and with what: columns need
    different positions, tables different names, enums names that are new, and columns types that
    are known (`Schema.build_eq_ok`). From these follow the invariants of the model. A table says of
    its row what the catalog says, no more and no less (`Table.Describes`), and a schema does so of
    all rows and enums, while the registry gains the enums and nothing else
    (`Schema.Describes`).

    A build asks no question twice: there is one about enums and one about tables, and those about
    single tables name different tables. So nothing is lost by catalogs being plain values. -/

namespace Introspect

theorem inspected_eq_ok {α : Type} {answer : Except InspectError α} {a : α} :
    inspected answer = .ok a ↔ answer = .ok a :=
  mapError_eq_ok

/-! ### Columns -/

/-- The row that reports a column. -/
def Column.row (x : Column) : ColumnRow := ⟨x.position, x.name, x.typeName, x.nullable⟩

theorem map_row_ofRow (keys : List String) (rows : List ColumnRow) :
    (rows.map (Column.ofRow keys)).map Column.row = rows := by
  rw [List.map_map]
  exact List.map_id' rows

theorem isKey_ofRow {keys : List String} {row : ColumnRow} :
    (Column.ofRow keys row).isKey = true ↔ (Column.ofRow keys row).name ∈ keys := by
  simp [Column.ofRow]

theorem repeatedPosition?_eq_none : ∀ {seen : List Int32} {rows : List ColumnRow},
    repeatedPosition? seen rows = none ↔ Fresh (· ∈ seen) (rows.map (·.position))
  | _, [] => by simp [repeatedPosition?, fresh_nil]
  | seen, row :: rows => by
    rw [repeatedPosition?, List.map_cons, fresh_mem_cons]
    by_cases again : row.position ∈ seen
    · simp [again]
    · rw [if_neg again, repeatedPosition?_eq_none, and_iff_right again]

theorem columnsOfRows_eq_ok {table : String} {rows : List ColumnRow} {keys : List String}
    {columns : List Column} : columnsOfRows table rows keys = .ok columns ↔
      (rows.map (·.position)).Nodup ∧ columns = rows.map (Column.ofRow keys) := by
  rw [columnsOfRows, ← fresh_mem_nil, ← repeatedPosition?_eq_none]
  cases repeatedPosition? [] rows with
  | some p => simp
  | none => simp [eq_comm]

/-! ### Tables -/

variable {c : Catalog} {row : TableRow} {t : Table}

theorem Table.build_eq_ok : Table.build c row = .ok t ↔
    ∃ columnRows keys indexRows, c.columns row.schema row.name = .ok columnRows ∧
      c.primaryKey row.schema row.name = .ok keys ∧ (columnRows.map (·.position)).Nodup ∧
      c.indexes row.schema row.name = .ok indexRows ∧
      t = let table := Table.ofColumns row.catalog row.schema row.name
            (columnRows.map (Column.ofRow keys))
          { table with indexes := indexRows.filterMap table.resolveIndex? } := by
  simp only [Table.build, bind_eq_ok, inspected_eq_ok, columnsOfRows_eq_ok, pure_eq_ok]
  constructor
  · rintro ⟨columnRows, hc, keys, hk, columns, ⟨distinct, rfl⟩, indexRows, hi, rfl⟩
    exact ⟨columnRows, keys, indexRows, hc, hk, distinct, hi, rfl⟩
  · rintro ⟨columnRows, keys, indexRows, hc, hk, distinct, hi, rfl⟩
    exact ⟨columnRows, hc, keys, hk, _, ⟨distinct, rfl⟩, indexRows, hi, rfl⟩

theorem buildTables_eq_ok : ∀ {rows : List TableRow} {seen : List String} {ts : List Table},
    buildTables c seen rows = .ok ts ↔ Fresh (· ∈ seen) (rows.map (·.name)) ∧
      List.Forall₂ (fun row t => Table.build c row = .ok t) rows ts
  | [], seen, ts => by simp [buildTables, fresh_nil, eq_comm]
  | row :: rows, seen, ts => by
    rw [buildTables, List.map_cons, fresh_mem_cons, List.forall₂_cons_left_iff]
    by_cases again : row.name ∈ seen
    · simp [again]
    · simp only [if_neg again, bind_eq_ok, pure_eq_ok, buildTables_eq_ok]
      constructor
      · rintro ⟨t, ht, us, ⟨fresh, hus⟩, rfl⟩
        exact ⟨⟨again, fresh⟩, t, us, ht, hus, rfl⟩
      · rintro ⟨⟨-, fresh⟩, t, us, ht, hus, rfl⟩
        exact ⟨t, ht, us, ⟨fresh, hus⟩, rfl⟩

theorem unmapped?_eq_none {r : Registry} :
    t.unmapped? r = none ↔ ∀ x ∈ t.columns, r.contains x.typeName = true := by
  rw [Table.unmapped?, Option.map_eq_none_iff, List.find?_eq_none]
  simp

/-! ### Schemas -/

theorem typedTables_eq_ok {n : String} {r : Registry} {ts : List Table} :
    typedTables c n r = .ok ts ↔ ∃ rows, c.tables n = .ok rows ∧ buildTables c [] rows = .ok ts ∧
      ∀ t ∈ ts, ∀ x ∈ t.columns, r.contains x.typeName = true := by
  simp only [typedTables, bind_eq_ok, inspected_eq_ok]
  constructor
  · rintro ⟨rows, hrows, us, hus, h⟩
    split at h
    · cases h
    · rename_i typed
      cases h
      rw [List.findSome?_eq_none_iff] at typed
      exact ⟨rows, hrows, hus, fun t ht => unmapped?_eq_none.1 (typed t ht)⟩
  · rintro ⟨rows, hrows, hts, typed⟩
    refine ⟨rows, hrows, ts, hts, ?_⟩
    rw [List.findSome?_eq_none_iff.2 fun t ht => unmapped?_eq_none.2 (typed t ht)]
    rfl

theorem Schema.build_eq_ok {n : String} {r r' : Registry} {s : Schema} :
    Schema.build c n r = (.ok s, r') ↔ ∃ labels tables, c.enums = .ok labels ∧
      r.registerAll (Enumeration.group labels) = (none, r') ∧
      typedTables c n r' = .ok tables ∧ s = ⟨n, Enumeration.group labels, tables⟩ := by
  rw [Schema.build]
  constructor
  · intro h
    split at h
    · cases h
    · rename_i labels hl
      dsimp only at h
      split at h
      · cases h
      · rename_i r₁ hr
        obtain ⟨hs, rfl⟩ := Prod.mk.inj h
        obtain ⟨tables, ht, rfl⟩ := map_eq_ok.1 hs
        exact ⟨labels, tables, hl, hr, ht, rfl⟩
  · rintro ⟨labels, tables, hl, hr, ht, rfl⟩
    simp only [hl, hr, ht]
    rfl

/-! ### Invariants -/

/-- What a table says of its row is what the catalog says: the same columns, each once and in the
    order of their positions, the key columns among them, and indexes over them. -/
structure Table.Describes (c : Catalog) (row : TableRow) (t : Table) : Prop where
  catalog : t.catalog = row.catalog
  schema : t.schema = row.schema
  name : t.name = row.name
  columns : ∃ rows, c.columns row.schema row.name = .ok rows ∧
    (t.columns.map Column.row).Perm rows
  ascending : t.columns.Pairwise (·.position < ·.position)
  isKey : ∃ keys, c.primaryKey row.schema row.name = .ok keys ∧
    ∀ x ∈ t.columns, x.isKey = true ↔ x.name ∈ keys
  primaryKey : t.primaryKey = t.columns.filter (·.isKey)
  indexes : ∀ i ∈ t.indexes, ∀ x ∈ i.columns, x ∈ t.columns

/-- What a schema says of a catalog, and a registry `r'` of the registry `r` before it: a table for
    each row, enums that are new, and types that are those of before and the enums. -/
structure Schema.Describes (c : Catalog) (n : String) (r : Registry) (s : Schema) (r' : Registry) :
    Prop where
  tables : ∃ rows, c.tables n = .ok rows ∧ List.Forall₂ (Table.Describes c) rows s.tables
  tableNames : (s.tables.map (·.name)).Nodup
  enums : ∃ labels, c.enums = .ok labels ∧ s.enums = Enumeration.group labels
  enumNames : (s.enums.map (·.name)).Nodup
  known : ∀ k, r'.contains k = true ↔ r.contains k = true ∨ ∃ e ∈ s.enums, e.name = k
  kept : ∀ k, r.contains k = true → r'.find? k = r.find? k
  added : ∀ e ∈ s.enums, r.contains e.name = false ∧
    r'.find? e.name = some (.enumeration e.name e.exported)
  storage : ∀ e ∈ s.enums, ∀ x : Column, x.typeName = e.name →
    x.storage r' = .ok (if x.nullable then s!"Option<{e.exported}>" else e.exported)

theorem Table.describes_of_build (h : Table.build c row = .ok t) : Table.Describes c row t := by
  obtain ⟨columnRows, keys, indexRows, hc, hk, distinct, -, rfl⟩ := Table.build_eq_ok.1 h
  have perm := Table.byPosition_perm (columnRows.map (Column.ofRow keys))
  refine ⟨rfl, rfl, rfl, ⟨columnRows, hc, ?_⟩, ?_, ⟨keys, hk, ?_⟩, rfl, ?_⟩
  · -- columns
    have same := perm.map Column.row
    rwa [map_row_ofRow] at same
  · -- ascending
    refine Table.byPosition_ascending ?_
    rw [List.map_map]
    exact distinct
  · -- isKey
    intro x hx
    obtain ⟨columnRow, -, rfl⟩ := List.mem_map.1 (perm.mem_iff.1 hx)
    exact isKey_ofRow
  · -- indexes
    intro i hi
    obtain ⟨indexRow, -, found⟩ := List.mem_filterMap.1 hi
    exact Table.resolveIndex?_mem found

theorem Column.storage_of_enumeration {x : Column} {r : Registry} {name exported : String}
    (h : r.find? x.typeName = some (.enumeration name exported)) :
    x.storage r = .ok (if x.nullable then s!"Option<{exported}>" else exported) := by
  rw [Column.storage, Column.type, Registry.lookup_eq_ok.2 h]
  rfl

/-- The tables of a build describe its rows, and all of their columns have types. -/
theorem describes_of_typedTables {n : String} {r : Registry} {ts : List Table}
    (h : typedTables c n r = .ok ts) : (ts.map (·.name)).Nodup ∧
      (∃ rows, c.tables n = .ok rows ∧ List.Forall₂ (Table.Describes c) rows ts) ∧
      ∀ t ∈ ts, ∀ x ∈ t.columns, r.contains x.typeName = true := by
  obtain ⟨rows, hrows, hts, typed⟩ := typedTables_eq_ok.1 h
  obtain ⟨distinct, built⟩ := buildTables_eq_ok.1 hts
  have described := built.imp fun _ _ => Table.describes_of_build
  have names := forall₂_map_eq described fun _ _ d => d.name.symm
  exact ⟨names ▸ distinct.1, ⟨rows, hrows, described⟩, typed⟩

/-- INVARIANTS: a schema that was built describes the catalog, and its registry the one before. -/
theorem Schema.build_describes (c : Catalog) (n : String) (r r' : Registry) (s : Schema)
    (h : Schema.build c n r = (.ok s, r')) : Schema.Describes c n r s r' := by
  obtain ⟨labels, tables, hl, hr, ht, rfl⟩ := Schema.build_eq_ok.1 h
  obtain ⟨distinct, described, -⟩ := describes_of_typedTables ht
  have new := Registry.registerAll_eq_none.1 (congrArg Prod.fst hr)
  refine ⟨described, distinct, ⟨labels, hl, rfl⟩, new.1, ?_, ?_, ?_, ?_⟩
  · -- known
    exact fun k => Registry.contains_registerAll hr
  · -- kept
    exact fun k hk => Registry.find?_registerAll_of_contains hr hk
  · -- added
    intro e he
    have free := new.2 e.name (List.mem_map_of_mem he)
    exact ⟨Bool.not_eq_true _ ▸ free, Registry.find?_registerAll_of_mem hr he⟩
  · -- storage
    intro e he x hx
    have entry := Registry.find?_registerAll_of_mem hr he
    exact Column.storage_of_enumeration (hx ▸ entry)

/-- A catalog with columns out of order, and with names of no column among the keys. -/
def shop : Catalog :=
  let orders : TableRecord := ⟨"app", "public", "orders",
    [⟨2, "state", "mood", true⟩, ⟨1, "id", "int8", false⟩], ["id", "ghost", "id"],
    [⟨"orders_state", ["\"state\"", "id"]⟩, ⟨"orders_lower", ["lower(note)"]⟩]⟩
  let labels : List LabelRow := [⟨"public", "mood", "happy"⟩, ⟨"public", "mood", "sad"⟩]
  Snapshot.toCatalog ⟨labels, [orders, .new "public" "users"], none⟩

/-- The key column of its orders. -/
def shopId : Column := ⟨1, "id", "int8", false, true⟩

/-- The other column of its orders. -/
def shopState : Column := ⟨2, "state", "mood", true, false⟩

/-- The schema of `shop`: columns in order, the key without the other names, and no index over an
    expression. -/
def shopSchema : Schema :=
  ⟨"public", [⟨"public", "mood", ["happy", "sad"]⟩],
    [⟨"app", "public", "orders", [shopId, shopState], [shopId],
        [⟨"orders_state", [shopState, shopId]⟩]⟩,
      ⟨"", "public", "users", [], [], []⟩]⟩

set_option maxRecDepth 4000 in
theorem Schema.build_describes_shop : ∃ r',
    Schema.build shop "public" .fresh = (.ok shopSchema, r') ∧
      Schema.Describes shop "public" .fresh shopSchema r' := by
  have built : Schema.build shop "public" .fresh =
      (.ok shopSchema, (Schema.build shop "public" .fresh).2) := Prod.ext (by cbv) rfl
  exact ⟨_, built, Schema.build_describes _ _ _ _ _ built⟩

end Introspect
