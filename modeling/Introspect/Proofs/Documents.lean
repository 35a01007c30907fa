import Introspect.Proofs.Canonical
import Introspect.Proofs.Sorted
import Introspect.Query.Codec

/-! Documents of the model: what is printed can be read again.

    Every document has a form of its own in JSON (`plain_toDatum`), so the reader finds it in the
    text that is printed. Tables and queries are read back from their documents as they were
    (`ofDatum?_toDatum`), so a list of them that stands in what is printed is the list that was
    meant. -/

namespace Introspect

open Datum

variable {d : Datum}

/-! ### Columns -/

namespace Column

variable {c : Column}

theorem ofDatum?_eq_some : ofDatum? d = some c ↔
    ∃ p, d.parts .refused ["position", "name", "udt_name", "nullable", "is_primary_key"] = some p ∧
      p.required "position" int32? = some c.position ∧ p.required "name" text? = some c.name ∧
      p.required "udt_name" text? = some c.typeName ∧
      p.required "nullable" bool? = some c.nullable ∧
      p.required "is_primary_key" bool? = some c.isKey := by
  cases c
  simp [ofDatum?, Option.bind_eq_some_iff, -Bool.exists_bool]

theorem ofDatum?_toDatum (c : Column) : ofDatum? c.toDatum = some c :=
  ofDatum?_eq_some.2 ⟨_, rfl, ColumnRow.int32?_toInt c.position, rfl, rfl, rfl, rfl⟩

theorem ofDatum?_sorted (c : Column) : ofDatum? c.toDatum.sorted = some c :=
  ofDatum?_eq_some.2 ⟨_, parts_sorted (by simp) (by simp), ColumnRow.int32?_toInt c.position, rfl,
    rfl, rfl, rfl⟩

theorem plain_toDatum (c : Column) : c.toDatum.Plain := by
  refine .record ?_
  simp [Plain.text, Plain.integer, Plain.bool]

end Column

/-! ### Tables -/

namespace Index

variable {i : Index}

theorem ofDatum?_eq_some : ofDatum? d = some i ↔
    ∃ p, d.parts .refused ["name", "columns"] = some p ∧ p.required "name" text? = some i.name ∧
      p.required "columns" (list? Column.ofDatum?) = some i.columns := by
  cases i
  simp [ofDatum?, Option.bind_eq_some_iff]

theorem ofDatum?_toDatum (i : Index) : ofDatum? i.toDatum = some i :=
  ofDatum?_eq_some.2 ⟨_, rfl, rfl, list?_map Column.ofDatum?_toDatum i.columns⟩

theorem ofDatum?_sorted (i : Index) : ofDatum? i.toDatum.sorted = some i :=
  ofDatum?_eq_some.2 ⟨_, parts_sorted (by simp) (by simp), rfl,
    list?_sorted Column.ofDatum?_sorted i.columns⟩

theorem plain_toDatum (i : Index) : i.toDatum.Plain := by
  refine .record ?_
  simp [Plain.text, plain_map Column.plain_toDatum]

end Index

namespace Table

variable {t : Table}

theorem ofDatum?_eq_some : ofDatum? d = some t ↔
    ∃ p, d.parts .refused
        ["catalog", "schema", "name", "columns", "primary_keys", "indexes"] = some p ∧
      p.required "catalog" text? = some t.catalog ∧ p.required "schema" text? = some t.schema ∧
      p.required "name" text? = some t.name ∧
      p.required "columns" (list? Column.ofDatum?) = some t.columns ∧
      p.required "primary_keys" (list? Column.ofDatum?) = some t.primaryKey ∧
      p.optional "indexes" [] (list? Index.ofDatum?) = some t.indexes := by
  cases t
  simp [ofDatum?, Option.bind_eq_some_iff]

theorem ofDatum?_toDatum (t : Table) : ofDatum? t.toDatum = some t :=
  ofDatum?_eq_some.2 ⟨_, rfl, rfl, rfl, rfl, list?_map Column.ofDatum?_toDatum t.columns,
    list?_map Column.ofDatum?_toDatum t.primaryKey, list?_map Index.ofDatum?_toDatum t.indexes⟩

theorem ofDatum?_sorted (t : Table) : ofDatum? t.toDatum.sorted = some t :=
  ofDatum?_eq_some.2 ⟨_, parts_sorted (by simp) (by simp), rfl, rfl, rfl,
    list?_sorted Column.ofDatum?_sorted t.columns, list?_sorted Column.ofDatum?_sorted t.primaryKey,
    list?_sorted Index.ofDatum?_sorted t.indexes⟩

theorem plain_toDatum (t : Table) : t.toDatum.Plain := by
  refine .record ?_
  simp [Plain.text, plain_map Column.plain_toDatum, plain_map Index.plain_toDatum]

end Table

/-! ### Queries -/

namespace Condition

variable {f : Condition}

theorem ofDatum?_eq_some : ofDatum? d = some f ↔
    ∃ p, d.parts .refused ["column", "op"] = some p ∧
      p.required "column" Column.ofDatum? = some f.column ∧
      p.required "op" (fun op => op.word?.bind Comparison.ofName?) = some f.comparison := by
  cases f
  simp [ofDatum?, Option.bind_eq_some_iff]

theorem ofDatum?_toDatum (f : Condition) : ofDatum? f.toDatum = some f :=
  ofDatum?_eq_some.2
    ⟨_, rfl, Column.ofDatum?_toDatum f.column, Comparison.ofName?_name f.comparison⟩

theorem plain_toDatum (f : Condition) : f.toDatum.Plain := by
  refine .record ?_
  simp [Plain.text, Column.plain_toDatum]

end Condition

namespace SortKey

variable {s : SortKey}

theorem ofDatum?_eq_some : ofDatum? d = some s ↔
    ∃ p, d.parts .refused ["column", "descending"] = some p ∧
      p.required "column" Column.ofDatum? = some s.column ∧
      p.required "descending" bool? = some s.descending := by
  cases s
  simp [ofDatum?, Option.bind_eq_some_iff, -Bool.exists_bool]

theorem ofDatum?_toDatum (s : SortKey) : ofDatum? s.toDatum = some s :=
  ofDatum?_eq_some.2 ⟨_, rfl, Column.ofDatum?_toDatum s.column, rfl⟩

theorem plain_toDatum (s : SortKey) : s.toDatum.Plain := by
  refine .record ?_
  simp [Plain.bool, Column.plain_toDatum]

end SortKey

namespace Query

variable {q : Query}

theorem ofDatum?_eq_some : ofDatum? d = some q ↔
    ∃ p, d.parts .refused ["name", "table", "filters", "sorts", "return_one", "return_many",
        "paged", "synthetic"] = some p ∧
      p.required "name" text? = some q.name ∧ p.required "table" Table.ofDatum? = some q.table ∧
      p.required "filters" (list? Condition.ofDatum?) = some q.filters ∧
      p.required "sorts" (list? SortKey.ofDatum?) = some q.sorts ∧
      p.required "return_one" bool? = some q.returnsOne ∧
      p.required "return_many" bool? = some q.returnsMany ∧
      p.required "paged" bool? = some q.paged ∧
      p.optional "synthetic" false bool? = some q.synthetic := by
  cases q
  simp [ofDatum?, Option.bind_eq_some_iff, -Bool.exists_bool]

theorem ofDatum?_toDatum (q : Query) : ofDatum? q.toDatum = some q :=
  ofDatum?_eq_some.2 ⟨_, rfl, rfl, Table.ofDatum?_toDatum q.table,
    list?_map Condition.ofDatum?_toDatum q.filters, list?_map SortKey.ofDatum?_toDatum q.sorts,
    rfl, rfl, rfl, rfl⟩

theorem plain_toDatum (q : Query) : q.toDatum.Plain := by
  refine .record ?_
  simp [Plain.text, Plain.bool, Table.plain_toDatum, plain_map Condition.plain_toDatum,
    plain_map SortKey.plain_toDatum]

end Query

/-! ### Enums and types -/

namespace Enumeration

variable {e : Enumeration}

theorem ofDatum?_eq_some : ofDatum? d = some e ↔
    ∃ p, d.parts .refused ["schema", "name", "values"] = some p ∧
      p.required "schema" text? = some e.schema ∧ p.required "name" text? = some e.name ∧
      p.required "values" (list? text?) = some e.values := by
  cases e
  simp [ofDatum?, Option.bind_eq_some_iff]

theorem ofDatum?_toDatum (e : Enumeration) : ofDatum? e.toDatum = some e :=
  ofDatum?_eq_some.2 ⟨_, rfl, rfl, rfl, list?_ofTexts e.values⟩

theorem ofDatum?_sorted (e : Enumeration) : ofDatum? e.toDatum.sorted = some e :=
  ofDatum?_eq_some.2 ⟨_, parts_sorted (by simp) (by simp), rfl, rfl,
    @list?_sorted _ text? text (fun _ => rfl) e.values⟩

theorem plain_toDatum (e : Enumeration) : e.toDatum.Plain := by
  refine .record ?_
  simp [Plain.text, plain_ofTexts]

end Enumeration

namespace ColumnType

theorem ofDatum?_toDatum (t : ColumnType) : ofDatum? t.toDatum = some t := by
  cases t with
  | scalar s => cases s <;> rfl
  | enumeration name exported => rfl

theorem ofDatum?_sorted (t : ColumnType) : ofDatum? t.toDatum.sorted = some t := by
  cases t with
  | scalar s => cases s <;> rfl
  | enumeration name exported =>
    have form : (enumeration name exported).toDatum.sorted =
        record [("exported", text exported), ("kind", text "enum"), ("name", text name)] := by cbv
    rw [form]
    rfl

theorem plain_toDatum (t : ColumnType) : t.toDatum.Plain := by
  cases t with
  | scalar s =>
    refine .record ?_
    simp [Plain.text]
  | enumeration name exported =>
    refine .record ?_
    simp [Plain.text]

end ColumnType

/-! ### Schemas and code models -/

theorem Registry.plain_toDatum (r : Registry) : r.toDatum.Plain := by
  refine .record fun f hf => ?_
  obtain ⟨e, -, rfl⟩ := List.mem_map.1 hf
  exact e.2.plain_toDatum

theorem Schema.plain_toDatum (s : Schema) : s.toDatum.Plain := by
  refine .record ?_
  simp [Plain.text, plain_map Enumeration.plain_toDatum, plain_map Table.plain_toDatum]

theorem CodeModel.plain_toDatum (m : CodeModel) : m.toDatum.Plain := by
  refine .record ?_
  simp [Plain.text, Registry.plain_toDatum, plain_map Enumeration.plain_toDatum,
    plain_map Table.plain_toDatum, plain_map Query.plain_toDatum]

end Introspect
