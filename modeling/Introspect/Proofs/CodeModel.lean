import Introspect.CodeModel
import Introspect.Proofs.Build
import Introspect.Proofs.Resolution

/-! Code models: nothing in them points outside.

    Types are looked up only for the columns in which tables list themselves, while the same columns
    turn up in primary keys, in indexes, in queries, and in the tables that queries carry along. All
    of these are columns of a table of the model (`CodeModel.Closed`), so code can be generated for
    each of them: it has a type, it can be stored, read and bound. -/

namespace Introspect

variable {c : Catalog} {n : String} {ds : List Definition} {m : CodeModel} {x : Column}

/-! ### Columns that are mentioned -/

/-- All that a table mentions as a column. -/
def Table.mentioned (t : Table) : List Column :=
  t.columns ++ t.primaryKey ++ t.indexes.flatMap (·.columns)

/-- All that a code model mentions as a column. -/
def CodeModel.mentioned (m : CodeModel) : List Column :=
  m.tables.flatMap Table.mentioned ++ m.queries.flatMap fun q => q.table.mentioned ++ q.columns

/-- Everything that generated code asks of a column has an answer. -/
structure Column.Typed (x : Column) (r : Registry) : Prop where
  type : ∃ t, x.type r = .ok t
  storage : ∃ text, x.storage r = .ok text
  decode : ∀ row, ∃ text, x.decode r row = .ok text
  encode : ∀ value, ∃ text, x.encode r value = .ok text

/-- What a code model mentions is in it: tables of queries are among the tables, columns of keys, of
    indexes and of queries among the columns of their table, and types of columns in the
    registry. -/
structure CodeModel.Closed (m : CodeModel) : Prop where
  tables : ∀ q ∈ m.queries, q.table ∈ m.tables
  columns : ∀ t ∈ m.tables, ∀ x ∈ t.mentioned, x ∈ t.columns
  queryColumns : ∀ t ∈ m.tables, ∀ q ∈ m.queries, q.table = t → ∀ x ∈ q.columns, x ∈ t.columns
  typed : ∀ x ∈ m.mentioned, x.Typed m.types

theorem Column.typed_of_contains {r : Registry} (h : r.contains x.typeName = true) :
    x.Typed r := by
  obtain ⟨t, found⟩ := Registry.contains_iff.1 h
  have typed : x.type r = .ok t := Registry.lookup_eq_ok.2 found
  exact ⟨⟨t, typed⟩, ⟨_, map_eq_ok.2 ⟨t, typed, rfl⟩⟩, fun _ => ⟨_, map_eq_ok.2 ⟨t, typed, rfl⟩⟩,
    fun _ => ⟨_, map_eq_ok.2 ⟨t, typed, rfl⟩⟩⟩

theorem Table.Describes.mem_columns {row : TableRow} {t : Table} (d : Table.Describes c row t)
    (hx : x ∈ t.mentioned) : x ∈ t.columns := by
  rw [Table.mentioned, List.mem_append, List.mem_append, List.mem_flatMap] at hx
  rcases hx with (hx | hx) | ⟨i, hi, hx⟩
  · exact hx
  · rw [d.primaryKey] at hx
    exact List.mem_of_mem_filter hx
  · exact d.indexes i hi x hx

/-! ### Stages -/

theorem inspect_eq_ok {s : Schema} {types : Registry} :
    inspect c n = .ok (s, types) ↔ Schema.build c n .fresh = (.ok s, types) := by
  rw [inspect]
  split
  · rename_i built
    rw [built]
    simp
  · rename_i built
    rw [built]
    simp

theorem CodeModel.generate_eq_ok : CodeModel.generate c ds n = .ok m ↔ ∃ s types queries,
    Schema.build c n .fresh = (.ok s, types) ∧ resolve ds s = .ok queries ∧
      m = ⟨s.name, types, s.enums, s.tables, queries⟩ := by
  simp only [CodeModel.generate, bind_eq_ok, mapError_eq_ok, pure_eq_ok, Prod.exists,
    inspect_eq_ok]
  constructor
  · rintro ⟨s, types, built, queries, resolved, rfl⟩
    exact ⟨s, types, queries, built, resolved, rfl⟩
  · rintro ⟨s, types, queries, built, resolved, rfl⟩
    exact ⟨s, types, built, queries, resolved, rfl⟩

theorem CodeModel.generate_of_build {e : BuildError}
    (failed : (Schema.build c n .fresh).1 = .error e) (ds : List Definition) :
    CodeModel.generate c ds n = .error (.build e) := by
  have stopped : inspect c n = .error (.build e) := by
    rw [inspect]
    split
    · rename_i built
      rw [built] at failed
      cases failed
    · rename_i built
      rw [built] at failed
      cases failed
      rfl
  rw [CodeModel.generate, stopped]
  rfl

/-- CLOSED: whatever the catalog answers, a code model that is generated points nowhere outside. -/
theorem CodeModel.generate_closed (c : Catalog) (ds : List Definition) (n : String) (m : CodeModel)
    (h : CodeModel.generate c ds n = .ok m) : m.Closed := by
  obtain ⟨s, types, queries, built, resolved, rfl⟩ := CodeModel.generate_eq_ok.1 h
  obtain ⟨labels, tables, -, -, typedTables, rfl⟩ := Schema.build_eq_ok.1 built
  obtain ⟨-, ⟨rows, -, described⟩, typed⟩ := describes_of_typedTables typedTables
  have columns : ∀ t ∈ tables, ∀ x ∈ t.mentioned, x ∈ t.columns := by
    intro t ht x hx
    obtain ⟨row, -, d⟩ := forall₂_mem_right described ht
    exact d.mem_columns hx
  have query : ∀ q ∈ queries, q.table ∈ tables ∧ ∀ x ∈ q.columns, x ∈ q.table.columns := by
    intro q hq
    rcases mem_of_resolve resolved hq with ⟨d, -, hd⟩ | ⟨t, ht, rfl⟩
    · exact Definition.resolve_mem hd
    · rw [Query.columns_lookup]
      exact ⟨ht, fun x hx => columns t ht x (by simp [Table.mentioned, hx])⟩
  refine ⟨fun q hq => (query q hq).1, columns, ?_, ?_⟩
  · -- queryColumns
    rintro t - q hq rfl
    exact (query q hq).2
  · -- typed
    intro x hx
    apply Column.typed_of_contains
    rcases List.mem_append.1 hx with hx | hx
    · obtain ⟨t, ht, hx⟩ := List.mem_flatMap.1 hx
      exact typed t ht x (columns t ht x hx)
    · obtain ⟨q, hq, hx⟩ := List.mem_flatMap.1 hx
      obtain ⟨ht, named⟩ := query q hq
      rcases List.mem_append.1 hx with hx | hx
      · exact typed q.table ht x (columns q.table ht x hx)
      · exact typed q.table ht x (named x hx)

/-- A definition on the orders of `shop`, with a filter and a sort. -/
def shopDefinition : Definition := ⟨"waiting", "orders", ["state:eq"], ["-id"], some "paged"⟩

/-- The code model of `shop` and this definition. -/
def shopModel : CodeModel where
  schema := "public"
  types := (Schema.build shop "public" .fresh).2
  enums := shopSchema.enums
  tables := shopSchema.tables
  queries :=
    (shopSchema.tables.take 1).map
        (fun t => ⟨"waiting", t, [⟨shopState, .eq⟩], [⟨shopId, true⟩], false, true, true, false⟩) ++
      shopSchema.tables.map Query.lookup

set_option maxRecDepth 4000 in
theorem CodeModel.generate_closed_shop :
    CodeModel.generate shop [shopDefinition] "public" = .ok shopModel ∧ shopModel.Closed := by
  have generated : CodeModel.generate shop [shopDefinition] "public" = .ok shopModel := by cbv
  exact ⟨generated, CodeModel.generate_closed _ _ _ _ generated⟩

end Introspect
