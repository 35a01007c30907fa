import Introspect.Proofs.CodeModel

/-! Names of queries: when they are unique.

    A run checks the names of its definitions, against each other and against those of all lookup
    queries, but the names of lookup queries never against each other. Tables with different names
    can have the same exported name. Tables with different exported names can still have lookup
    queries whose names are exported alike, since the name of a lookup query is exported twice. So
    the names of a run are unique exactly when those of its lookup queries are, which holds for any
    notion of name that decides the exported name (`nodup_map_of_resolve`). -/

namespace Introspect

variable {ds : List Definition} {s : Schema} {q : Query} {qs : List Query}
  {c : Catalog} {n : String} {m : CodeModel} {κ : Type}

/-! ### Names of a run -/

/-- Names of a run are distinct exactly when those of its lookup queries are: those of definitions
    differ from each other and from these. -/
theorem nodup_map_of_resolve (name : Query → κ) (decode : κ → String)
    (decides : ∀ q, decode (name q) = q.exported) (h : resolve ds s = .ok qs) :
    (qs.map name).Nodup ↔ ((s.tables.map Query.lookup).map name).Nodup := by
  obtain ⟨distinct, free, declared, each, rfl⟩ := resolve_eq_ok.1 h
  have exported : ds.map (·.exported) = declared.map (·.exported) :=
    forall₂_map_eq each fun _ _ resolved => Definition.resolve_exported resolved
  have nodup : (declared.map name).Nodup := by
    refine .of_map decode ?_
    rw [List.map_map, Function.comp_def, funext decides, ← exported]
    exact distinct
  have disjoint : ∀ a ∈ declared.map name, ∀ b ∈ (s.tables.map Query.lookup).map name, a ≠ b := by
    intro a ha b hb same
    obtain ⟨q, hq, rfl⟩ := List.mem_map.1 ha
    obtain ⟨l, hl, rfl⟩ := List.mem_map.1 hb
    obtain ⟨t, ht, rfl⟩ := List.mem_map.1 hl
    obtain ⟨d, hd, resolved⟩ := forall₂_mem_right each hq
    refine free t ht d hd ?_
    rw [Definition.resolve_exported resolved, ← decides q, same, decides]
  rw [List.map_append, List.nodup_append]
  exact ⟨fun h => h.2.1, fun h => ⟨nodup, h, disjoint⟩⟩

/-! ### Names of lookup queries -/

theorem nodup_lookup {ts : List Table} (h : (ts.map (·.name)).Nodup) :
    (ts.map Query.lookup).Nodup := by
  refine .of_map (fun q => q.table.name) ?_
  rw [List.map_map]
  exact h

theorem nodup_lookup_name {ts : List Table} :
    ((ts.map Query.lookup).map (·.name)).Nodup ↔ (ts.map (·.exported)).Nodup := by
  have shape : (ts.map Query.lookup).map (·.name) = (ts.map (·.exported)).map ("Get" ++ ·) := by
    rw [List.map_map, List.map_map]
    rfl
  rw [shape]
  exact List.nodup_map_iff fun _ _ => (String.append_right_inj _).1

example :
    let tables := ["id_parent_id", "i_d_parent_id"]
    tables.map Name.exported = ["IDParentId", "IDParentID"] ∧
      tables.map (fun t => Name.exported ("Get" ++ Name.exported t)) =
        ["GetIDParentID", "GetIDParentID"] := by
  constructor <;> cbv

/-! ### Names of a code model -/

/-- Each query of a code model is found by its name exactly when the exported names of the tables
    differ, since only these tell the names of lookup queries apart. -/
theorem CodeModel.query?_iff (h : CodeModel.generate c ds n = .ok m) :
    (∀ q ∈ m.queries, m.query? q.name = some q) ↔ (m.tables.map (·.exported)).Nodup := by
  obtain ⟨s, types, queries, built, resolved, rfl⟩ := CodeModel.generate_eq_ok.1 h
  obtain ⟨labels, tables, -, -, typed, rfl⟩ := Schema.build_eq_ok.1 built
  obtain ⟨tableNames, -⟩ := describes_of_typedTables typed
  have distinct : queries.Nodup := by
    have runs := nodup_map_of_resolve id (·.exported) (fun _ => rfl) resolved
    rw [List.map_id, List.map_id] at runs
    exact runs.2 (nodup_lookup tableNames)
  have names := nodup_map_of_resolve (·.name) Name.exported (fun _ => rfl) resolved
  rw [nodup_lookup_name] at names
  exact (find?_key_iff distinct).trans names

/-- UNIQUE: the exported names of queries are unique exactly when those of the lookup queries are,
    and queries are found by their names exactly when the exported names of tables are unique. -/
theorem resolve_unique_iff (ds : List Definition) :
    (∀ s qs, resolve ds s = .ok qs → ((qs.map (·.exported)).Nodup ↔
      (s.tables.map fun t => (Query.lookup t).exported).Nodup)) ∧
    ∀ c n m, CodeModel.generate c ds n = .ok m →
      ((∀ q ∈ m.queries, m.query? q.name = some q) ↔ (m.tables.map (·.exported)).Nodup) := by
  refine ⟨fun s qs h => ?_, fun c n m h => CodeModel.query?_iff h⟩
  rw [nodup_map_of_resolve (·.exported) id (fun _ => rfl) h, List.map_map]
  rfl

set_option maxRecDepth 4000 in
theorem resolve_unique_shop : (shopModel.queries.map (·.exported)).Nodup ∧
    ∀ q ∈ shopModel.queries, shopModel.query? q.name = some q := by
  have resolved : resolve [shopDefinition] shopSchema = .ok shopModel.queries := by cbv
  have generated : CodeModel.generate shop [shopDefinition] "public" = .ok shopModel := by cbv
  obtain ⟨exported, found⟩ := resolve_unique_iff [shopDefinition]
  have tables : shopModel.tables.map (·.exported) = ["Orders", "Users"] := by cbv
  have lookups : (shopSchema.tables.map fun t => (Query.lookup t).exported) =
      ["GetOrders", "GetUsers"] := by cbv
  refine ⟨(exported _ _ resolved).2 ?_, (found _ _ _ generated).2 ?_⟩
  · rw [lookups]
    decide
  · rw [tables]
    decide

/-- The tables `users` and `Users`, without columns. -/
def twins : List Table := [⟨"", "public", "users", [], [], []⟩, ⟨"", "public", "Users", [], [], []⟩]

/-- A catalog with these tables. -/
def twinCatalog : Catalog :=
  Snapshot.toCatalog ⟨[], [.new "public" "users", .new "public" "Users"], none⟩

/-- The code model of this catalog. -/
def twinModel : CodeModel := ⟨"public", .fresh, [], twins, twins.map Query.lookup⟩

/-- Names are not unique for tables whose names differ but are exported alike: neither are the
    exported names of queries, nor is each query found by its name. -/
theorem resolve_not_unique : (twins.map (·.name)).Nodup ∧
    resolve [] ⟨"public", [], twins⟩ = .ok twinModel.queries ∧
    ¬ (twinModel.queries.map (·.exported)).Nodup ∧
    CodeModel.generate twinCatalog [] "public" = .ok twinModel ∧
    ¬ ∀ q ∈ twinModel.queries, twinModel.query? q.name = some q := by
  have generated : CodeModel.generate twinCatalog [] "public" = .ok twinModel := by cbv
  have queries : twinModel.queries.map (·.exported) = ["GetUsers", "GetUsers"] := by cbv
  have tables : twinModel.tables.map (·.exported) = ["Users", "Users"] := by cbv
  refine ⟨by decide, by cbv, ?_, generated, ?_⟩
  · -- exported names
    rw [queries]
    decide
  · -- found by name
    rw [CodeModel.query?_iff generated, tables]
    decide

end Introspect
