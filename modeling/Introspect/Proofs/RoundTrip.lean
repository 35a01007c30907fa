import Mathlib
import Introspect.Catalog.Codec
import Introspect.Proofs.Edits

/-! Snapshots and their texts.

    A snapshot is read back from its text, but for what it fails on. What its reader does not notice
    is said for each kind of record by the names that it declares and those that may be left out
    (`Snapshot.Edit`); a reader is stable because those of its parts are. -/

namespace Introspect

open Datum

variable {d : Datum}

/-! ### Lists -/

theorem list?_map {α : Type} {read : Datum → Option α} {toDatum : α → Datum}
    (back : ∀ x, read (toDatum x) = some x) (xs : List α) :
    (list (xs.map toDatum)).list? read = some xs := by
  rw [list?, mapM_eq_some, List.forall₂_map_left_iff]
  exact List.forall₂_same.2 fun x _ => back x

theorem list?_ofTexts (texts : List String) : (ofTexts texts).list? text? = some texts :=
  @list?_map _ text? text (fun _ => rfl) texts

theorem plain_map {α : Type} {toDatum : α → Datum} (plain : ∀ x, (toDatum x).Plain) (xs : List α) :
    (list (xs.map toDatum)).Plain := by
  refine .list fun d hd => ?_
  obtain ⟨x, -, rfl⟩ := List.mem_map.1 hd
  exact plain x

theorem plain_ofTexts (texts : List String) : (ofTexts texts).Plain := plain_map .text texts

/-! ### Labels -/

namespace LabelRow

/-- What the reader of a label does not notice. -/
def Edit : Datum → Datum → Prop := RowEdit ["schema", "name", "value"]

variable {r : LabelRow}

theorem ofDatum?_eq_some : ofDatum? d = some r ↔
    ∃ p, d.parts .refused ["schema", "name", "value"] = some p ∧
      p.required "schema" text? = some r.schema ∧ p.required "name" text? = some r.name ∧
      p.required "value" text? = some r.value := by
  cases r
  simp [ofDatum?, Option.bind_eq_some_iff]

theorem ofDatum?_toDatum (r : LabelRow) : ofDatum? r.toDatum = some r :=
  ofDatum?_eq_some.2 ⟨_, rfl, rfl, rfl, rfl⟩

theorem plain_toDatum (r : LabelRow) : r.toDatum.Plain := by
  refine .record ?_
  simp [Plain.text]

theorem stable : Stable Edit ofDatum? where
  readable := RowEdit.readable
  reads {_ _ r} h readable found := by
    obtain ⟨p, parts, schema, name, value⟩ := ofDatum?_eq_some.1 found
    obtain ⟨p', parts', same⟩ := RowEdit.parts h readable parts
    exact ofDatum?_eq_some.2 ⟨p', parts', same _ (by simp) schema, same _ (by simp) name,
      same _ (by simp) value⟩

end LabelRow

/-! ### Columns -/

namespace ColumnRow

/-- What the reader of a column does not notice. -/
def Edit : Datum → Datum → Prop := RowEdit ["position", "name", "udt_name", "nullable"]

variable {r : ColumnRow}

theorem ofDatum?_eq_some : ofDatum? d = some r ↔
    ∃ p, d.parts .refused ["position", "name", "udt_name", "nullable"] = some p ∧
      p.required "position" int32? = some r.position ∧ p.required "name" text? = some r.name ∧
      p.required "udt_name" text? = some r.typeName ∧
      p.required "nullable" bool? = some r.nullable := by
  cases r
  simp [ofDatum?, Option.bind_eq_some_iff, -Bool.exists_bool]

theorem int32?_toInt (n : Int32) : (integer n.toInt).int32? = some n := by
  have below : n.toInt < 2 ^ 31 := n.toInt_lt
  have above : -2 ^ 31 ≤ n.toInt := n.le_toInt
  have fits : Int32.minValue.toInt ≤ n.toInt ∧ n.toInt ≤ Int32.maxValue.toInt :=
    ⟨above, Int.le_of_lt_add_one below⟩
  simp only [int32?, integer?, Option.bind_some]
  rw [if_pos fits, Int32.ofInt_toInt]

theorem ofDatum?_toDatum (r : ColumnRow) : ofDatum? r.toDatum = some r :=
  ofDatum?_eq_some.2 ⟨_, rfl, int32?_toInt r.position, rfl, rfl, rfl⟩

theorem plain_toDatum (r : ColumnRow) : r.toDatum.Plain := by
  refine .record ?_
  simp [Plain.text, Plain.integer, Plain.bool]

theorem stable : Stable Edit ofDatum? where
  readable := RowEdit.readable
  reads {_ _ r} h readable found := by
    obtain ⟨p, parts, position, name, typeName, nullable⟩ := ofDatum?_eq_some.1 found
    obtain ⟨p', parts', same⟩ := RowEdit.parts h readable parts
    exact ofDatum?_eq_some.2 ⟨p', parts', same _ (by simp) position, same _ (by simp) name,
      same _ (by simp) typeName, same _ (by simp) nullable⟩

end ColumnRow

/-! ### Indexes -/

namespace IndexRow

/-- What the reader of an index does not notice. -/
def Edit : Datum → Datum → Prop := RowEdit ["name", "keys"]

variable {r : IndexRow}

theorem ofDatum?_eq_some : ofDatum? d = some r ↔
    ∃ p, d.parts .refused ["name", "keys"] = some p ∧ p.required "name" text? = some r.name ∧
      p.required "keys" (list? text?) = some r.keys := by
  cases r
  simp [ofDatum?, Option.bind_eq_some_iff]

theorem ofDatum?_toDatum (r : IndexRow) : ofDatum? r.toDatum = some r :=
  ofDatum?_eq_some.2 ⟨_, rfl, rfl, list?_ofTexts r.keys⟩

theorem plain_toDatum (r : IndexRow) : r.toDatum.Plain := by
  refine .record ?_
  simp [Plain.text, plain_ofTexts]

theorem stable : Stable Edit ofDatum? where
  readable := RowEdit.readable
  reads {_ _ r} h readable found := by
    obtain ⟨p, parts, name, keys⟩ := ofDatum?_eq_some.1 found
    obtain ⟨p', parts', same⟩ := RowEdit.parts h readable parts
    exact ofDatum?_eq_some.2 ⟨p', parts', same _ (by simp) name, same _ (by simp) keys⟩

end IndexRow

/-! ### Tables -/

namespace TableRecord

/-- Edits inside a part of a table: those of one of its columns or indexes. -/
def PartEdit : String → Datum → Datum → Prop
  | "columns" => ItemEdit ColumnRow.Edit
  | "indexes" => ItemEdit IndexRow.Edit
  | _ => fun _ _ => False

/-- What the reader of a table does not notice. -/
def Edit : Datum → Datum → Prop :=
  Datum.Edit ["catalog", "schema", "name", "columns", "primary_key", "indexes"]
    ["catalog", "columns", "primary_key", "indexes"] PartEdit

variable {t : TableRecord}

theorem ofDatum?_eq_some : ofDatum? d = some t ↔
    ∃ p, d.parts .refused
        ["catalog", "schema", "name", "columns", "primary_key", "indexes"] = some p ∧
      p.optional "catalog" "" text? = some t.catalog ∧ p.required "schema" text? = some t.schema ∧
      p.required "name" text? = some t.name ∧
      p.optional "columns" [] (list? ColumnRow.ofDatum?) = some t.columns ∧
      p.optional "primary_key" [] (list? text?) = some t.primaryKey ∧
      p.optional "indexes" [] (list? IndexRow.ofDatum?) = some t.indexes := by
  cases t
  simp [ofDatum?, Option.bind_eq_some_iff]

theorem ofDatum?_toDatum (t : TableRecord) : ofDatum? t.toDatum = some t :=
  ofDatum?_eq_some.2 ⟨_, rfl, rfl, rfl, rfl, list?_map ColumnRow.ofDatum?_toDatum t.columns,
    list?_ofTexts t.primaryKey, list?_map IndexRow.ofDatum?_toDatum t.indexes⟩

theorem plain_toDatum (t : TableRecord) : t.toDatum.Plain := by
  refine .record ?_
  simp [Plain.text, plain_ofTexts, plain_map ColumnRow.plain_toDatum,
    plain_map IndexRow.plain_toDatum]

theorem stable : Stable Edit ofDatum? where
  readable := by
    refine Datum.Edit.readable fun {k v v'} h => ?_
    unfold PartEdit at h
    split at h
    · exact ColumnRow.stable.items.readable h
    · exact IndexRow.stable.items.readable h
    · exact h.elim
  reads {_ _ t} h readable found := by
    obtain ⟨p, parts, catalog, schema, name, columns, primaryKey, indexes⟩ :=
      ofDatum?_eq_some.1 found
    obtain ⟨p', parts', kept⟩ := Datum.Edit.parts h readable parts
    have unedited {α : Type} {read : Datum → Option α} : Stable (fun _ _ => False) read :=
      .of_none fun _ _ => id
    exact ofDatum?_eq_some.2 ⟨p', parts',
      (kept "catalog" (by simp)).read_optional text_of_isEmpty unedited catalog,
      (kept "schema" (by simp)).read_required (by simp) unedited schema,
      (kept "name" (by simp)).read_required (by simp) unedited name,
      (kept "columns" (by simp)).read_optional list_of_isEmpty ColumnRow.stable.items columns,
      (kept "primary_key" (by simp)).read_optional list_of_isEmpty unedited primaryKey,
      (kept "indexes" (by simp)).read_optional list_of_isEmpty IndexRow.stable.items indexes⟩

end TableRecord

/-! ### Snapshots -/

namespace Snapshot

/-- Edits inside a part of a snapshot: those of one of its labels or tables. -/
def PartEdit : String → Datum → Datum → Prop
  | "enums" => ItemEdit LabelRow.Edit
  | "tables" => ItemEdit TableRecord.Edit
  | _ => fun _ _ => False

/-- What the reader of a snapshot does not notice. -/
def Edit : Datum → Datum → Prop := Datum.Edit ["enums", "tables"] ["enums", "tables"] PartEdit

variable {s : Snapshot}

theorem ofDatum?_eq_some : ofDatum? d = some s ↔
    ∃ p, d.parts .refused ["enums", "tables"] = some p ∧
      p.optional "enums" [] (list? LabelRow.ofDatum?) = some s.labels ∧
      p.optional "tables" [] (list? TableRecord.ofDatum?) = some s.tables ∧ s.failing = none := by
  cases s
  simp [ofDatum?, Option.bind_eq_some_iff, @eq_comm _ none]

theorem ofDatum?_toDatum (s : Snapshot) : ofDatum? s.toDatum = some { s with failing := none } :=
  ofDatum?_eq_some.2 ⟨_, rfl, list?_map LabelRow.ofDatum?_toDatum s.labels,
    list?_map TableRecord.ofDatum?_toDatum s.tables, rfl⟩

theorem plain_toDatum (s : Snapshot) : s.toDatum.Plain := by
  refine .record ?_
  simp [plain_map LabelRow.plain_toDatum, plain_map TableRecord.plain_toDatum]

theorem stable : Stable Edit ofDatum? where
  readable := by
    refine Datum.Edit.readable fun {k v v'} h => ?_
    unfold PartEdit at h
    split at h
    · exact LabelRow.stable.items.readable h
    · exact TableRecord.stable.items.readable h
    · exact h.elim
  reads {_ _ s} h readable found := by
    obtain ⟨p, parts, labels, tables, failing⟩ := ofDatum?_eq_some.1 found
    obtain ⟨p', parts', kept⟩ := Datum.Edit.parts h readable parts
    exact ofDatum?_eq_some.2 ⟨p', parts',
      (kept "enums" (by simp)).read_optional list_of_isEmpty LabelRow.stable.items labels,
      (kept "tables" (by simp)).read_optional list_of_isEmpty TableRecord.stable.items tables,
      failing⟩

/-- What is done to a table alone is done to it within a snapshot. -/
theorem edits_table {labels d d' : Datum} {before after : List Datum}
    (edits : Relation.ReflTransGen TableRecord.Edit d d') :
    Relation.ReflTransGen Edit
      (record [("enums", labels), ("tables", list (before ++ d :: after))])
      (record [("enums", labels), ("tables", list (before ++ d' :: after))]) := by
  induction edits with
  | refl => exact .refl
  | @tail d d' _ last ih =>
    have tables : PartEdit "tables" (list (before ++ d :: after)) (list (before ++ d' :: after)) :=
      ItemEdit.item last
    exact ih.tail (@Datum.Edit.inside _ _ _ [("enums", labels)] [] _ _ _ tables)

/-- ROUND TRIP: a snapshot is read back from its text, on one line or on many, but for what it fails
    on; and so it is from every text of its document after any edits, and in any layout. -/
theorem ofJson?_edited (s : Snapshot) :
    ofJson? s.toJson = some { s with failing := none } ∧
    ofJson? (Json.compactText s.toDatum) = some { s with failing := none } ∧
    ∀ d, Relation.ReflTransGen Edit s.toDatum d →
      (∀ text, Json.read text = some d → ofJson? text = some { s with failing := none }) ∧
      ∀ l : Json.Layout, l.Blank → d.Plain →
        ofJson? (.ofList (Json.write l 0 d)) = some { s with failing := none } := by
  have decoded (d : Datum) (edits : Relation.ReflTransGen Edit s.toDatum d) (text : String)
      (written : Json.read text = some d) : ofJson? text = some { s with failing := none } := by
    rw [ofJson?, written, Option.bind_some]
    exact stable.run edits (Json.readable_read written) s.ofDatum?_toDatum
  refine ⟨?_, ?_, fun d edits => ⟨decoded d edits, fun l blank plain => ?_⟩⟩
  · exact decoded _ .refl _ (Json.read_write Json.Layout.blank_indented s.plain_toDatum)
  · exact decoded _ .refl _ (Json.read_write Json.Layout.blank_compact s.plain_toDatum)
  · exact decoded d edits _ (Json.read_write blank plain)

/-- A snapshot with characters that are escaped, and with empty parts. -/
def quoted : Snapshot :=
  ⟨[⟨"a", "\"\\\n\x01é", ""⟩], [⟨"", "a", "t", [], [], []⟩], some .tables⟩

/-- The table of `quoted` without its empty parts. -/
def quotedTable : Datum := .record [("name", .text "t"), ("schema", .text "a")]

/-- The document of `quoted` after edits, with a further field in front. -/
def quotedDatum : Datum :=
  .record [("v", .list [.null]), ("enums", .list (quoted.labels.map LabelRow.toDatum)),
    ("tables", .list [quotedTable])]

/-- A text of this document, with other escapes than those that are written. -/
def quotedText : String :=
  "\x7b\"v\":[null],\"enums\":[\x7b\"schema\":\"a\",\"name\":\"\\u0022\\\\\\n\\u0001\\u00e9\"," ++
    "\"value\":\"\"\x7d],\"tables\":[\x7b\"name\":\"t\",\"schema\":\"a\"\x7d]\x7d"

theorem read_quotedText : Json.read quotedText = some quotedDatum := by cbv

theorem edits_quoted : Relation.ReflTransGen Edit quoted.toDatum quotedDatum := by
  have table : Relation.ReflTransGen TableRecord.Edit
      (record [("catalog", text ""), ("schema", text "a"), ("name", text "t"),
        ("columns", list []), ("primary_key", list []), ("indexes", list [])]) quotedTable :=
    .head (@Datum.Edit.drop _ _ _ [] _ "catalog" _ (by simp) (.inl rfl)) <|
    .head (@Datum.Edit.drop _ _ _ [_, _] _ "columns" _ (by simp) (.inr rfl)) <|
    .head (@Datum.Edit.drop _ _ _ [_, _] _ "primary_key" _ (by simp) (.inr rfl)) <|
    .head (@Datum.Edit.drop _ _ _ [_, _] [] "indexes" _ (by simp) (.inr rfl)) <|
    .single (.reorder (List.Perm.swap _ _ _))
  have version : Edit (record [("enums", list (quoted.labels.map LabelRow.toDatum)),
      ("tables", list [quotedTable])]) quotedDatum :=
    @Datum.Edit.add _ _ _ [] _ "v" _ (by simp)
  exact (@edits_table _ _ _ [] [] table).tail version

theorem plain_quotedDatum : quotedDatum.Plain := by
  have further : (list [.null]).Plain := .list (by simp [Plain.null])
  have table : quotedTable.Plain := .record (by simp [Plain.text])
  have tables : (list [quotedTable]).Plain := .list (by simpa using table)
  refine .record ?_
  simp [further, tables, plain_map LabelRow.plain_toDatum]

theorem ofJson?_edited_quoted :
    Relation.ReflTransGen Edit quoted.toDatum quotedDatum ∧
    Json.read quotedText = some quotedDatum ∧
    ofJson? quotedText = some { quoted with failing := none } ∧
    ofJson? (Json.indentedText quotedDatum) = some { quoted with failing := none } := by
  obtain ⟨-, -, edited⟩ := ofJson?_edited quoted
  obtain ⟨texts, layouts⟩ := edited _ edits_quoted
  exact ⟨edits_quoted, read_quotedText, texts _ read_quotedText,
    layouts _ Json.Layout.blank_indented plain_quotedDatum⟩

end Snapshot

end Introspect
