import Mathlib
import Introspect.Catalog.Server
import Introspect.Proofs.Failure

/-! Servers and snapshots: the same answers, the same run.

    A server that holds what a catalog says sends each answer row by row, a name as a text, a
    position as a number, and whether a column may be null as one of two words (`Server.Sends`).
    Every row is read back from its cells, and so is the answer, with nothing lost and in the same
    order. A run asks a snapshot only about tables that it lists, and these it answers, so a server
    that sends its answers agrees with it (`Server.Sends.agreeOn`). There is such a server for every
    snapshot, and even a scripted one (`Snapshot.sends_script`).

    A column about which a third word is sent cannot be read. The first of these decides, no column
    is reported at all, and a build that gets there ends with its word
    (`Server.exists_unknown`, `Schema.build_of_reaches`). -/

namespace Introspect

variable {c : Catalog} {s : Server} {n t : String} {r : Registry} {snap : Snapshot}

/-! ### Cells -/

/-- The cells of a label. -/
def LabelRow.cells (r : LabelRow) : List Cell := [.text r.schema, .text r.name, .text r.value]

/-- The cells of a table. -/
def TableRow.cells (r : TableRow) : List Cell := [.text r.catalog, .text r.schema, .text r.name]

/-- The cells of the name of a key column. -/
def keyCells (name : String) : List Cell := [.text name]

/-- The cells of an index. -/
def IndexRow.cells (r : IndexRow) : List Cell := [.text r.name, .texts (r.keys.map some)]

/-- A column as it is sent, with a word for whether it may be null. -/
structure ColumnReport where
  position : Int32
  name : String
  typeName : String
  nullable : String

/-- The cells of a column. -/
def ColumnReport.cells (r : ColumnReport) : List Cell :=
  [.word r.position, .text r.name, .text r.typeName, .text r.nullable]

/-- The column as it is sent. -/
def ColumnRow.report (r : ColumnRow) : ColumnReport :=
  ⟨r.position, r.name, r.typeName, if r.nullable then "YES" else "NO"⟩

/-- The word is one of the two for whether a column may be null. -/
def ColumnReport.Known (r : ColumnReport) : Prop := r.nullable = "YES" ∨ r.nullable = "NO"

namespace Server

/-! ### Rows that are read back -/

theorem labelRow_cells (r : LabelRow) : labelRow r.cells = .ok r := rfl

theorem tableRow_cells (r : TableRow) : tableRow r.cells = .ok r := rfl

theorem keyRow_cells (name : String) : keyRow (keyCells name) = .ok name := rfl

theorem indexRow_cells (r : IndexRow) : indexRow r.cells = .ok r := by
  have keys : textsCell "index_keys" (some (.texts (r.keys.map some))) = .ok r.keys := by
    rw [textsCell]
    exact mapM_map_eq_ok (g := some) (fun _ => rfl) r.keys
  exact bind_eq_ok.2 ⟨r.name, rfl, bind_eq_ok.2 ⟨r.keys, keys, rfl⟩⟩

/-- Of a column that is sent, nothing can fail but its word. -/
theorem columnRow_cells (r : ColumnReport) : columnRow r.cells =
    (nullable r.nullable).map fun b => ⟨r.position, r.name, r.typeName, b⟩ := by
  have cells : columnRow r.cells =
      (nullable r.nullable).bind fun b => .ok ⟨r.position, r.name, r.typeName, b⟩ := rfl
  rw [cells]
  cases nullable r.nullable with
  | error e => rfl
  | ok b => rfl

theorem columnRow_report (r : ColumnRow) : columnRow r.report.cells = .ok r := by
  rw [columnRow_cells, ColumnRow.report]
  cases r with
  | mk position name typeName nullable => cases nullable <;> rfl

theorem nullable_eq_error {word : String} {e : InspectError} : nullable word = .error e ↔
    ¬ (word = "YES" ∨ word = "NO") ∧ e = .decode .columns "is_nullable" word := by
  rw [nullable]
  by_cases yes : word = "YES"
  · simp [yes]
  · by_cases no : word = "NO"
    · simp [no]
    · simp [yes, no, eq_comm]

theorem exists_columnRow {r : ColumnReport} : (∃ row, columnRow r.cells = .ok row) ↔ r.Known := by
  rw [columnRow_cells, exists_ok_iff, ColumnReport.Known]
  simp only [ne_eq, map_eq_error, nullable_eq_error]
  by_cases known : r.nullable = "YES" ∨ r.nullable = "NO"
  · simp [known]
  · simp [known]

/-! ### Answers that are read back -/

/-- A server sends what a catalog says: each answer of the catalog is the reply to its query, with
    the schema and the table asked for as parameters, row by row. -/
structure Sends (s : Server) (c : Catalog) : Prop where
  enums : ∀ {rows}, c.enums = .ok rows → s.reply .enums [] = .ok (rows.map LabelRow.cells)
  tables : ∀ {n rows}, c.tables n = .ok rows → s.reply .tables [n] = .ok (rows.map TableRow.cells)
  columns : ∀ {n t rows}, c.columns n t = .ok rows →
    s.reply .columns [n, t] = .ok (rows.map fun row => row.report.cells)
  primaryKey : ∀ {n t names}, c.primaryKey n t = .ok names →
    s.reply .primaryKey [n, t] = .ok (names.map keyCells)
  indexes : ∀ {n t rows}, c.indexes n t = .ok rows →
    s.reply .indexes [n, t] = .ok (rows.map IndexRow.cells)

theorem rows_of_reply {α : Type} {op : Operation} {row : List Cell → Except Failure α}
    {cells : α → List Cell} {parameters : List String} {xs : List α}
    (sent : s.reply op parameters = .ok (xs.map cells)) (back : ∀ x, row (cells x) = .ok x) :
    s.rows op row parameters = .ok xs := by
  rw [rows, fetch, sent]
  exact mapError_eq_ok.2 (mapM_map_eq_ok back xs)

theorem columns_of_reply {cells : List (List Cell)} (sent : s.reply .columns [n, t] = .ok cells) :
    s.toCatalog.columns n t = cells.mapM columnRow := by
  simp only [toCatalog, fetch, sent]
  rfl

/-- What a catalog says about a table is said by a server that sends it. -/
theorem Sends.keeps {record : TableRecord} (sent : s.Sends c) (kept : record.Keeps c n t) :
    record.Keeps s.toCatalog n t where
  columns := (columns_of_reply (sent.columns kept.columns)).trans
    (mapM_map_eq_ok columnRow_report record.columns)
  primaryKey := rows_of_reply (sent.primaryKey kept.primaryKey) keyRow_cells
  indexes := rows_of_reply (sent.indexes kept.indexes) indexRow_cells

/-- A server that sends what a snapshot says agrees with it on every schema. -/
theorem Sends.agreeOn (sent : s.Sends snap.toCatalog) (answers : snap.failing = none) (n : String) :
    s.toCatalog.AgreeOn snap.toCatalog n := by
  have enums := Snapshot.toCatalog_enums answers
  have tables := Snapshot.toCatalog_tables answers n
  have labels : s.toCatalog.enums = .ok snap.labels :=
    rows_of_reply (sent.enums enums) labelRow_cells
  have listed : s.toCatalog.tables n = .ok ((snap.listed n).map TableRecord.row) :=
    rows_of_reply (sent.tables tables) tableRow_cells
  refine ⟨labels.trans enums.symm, listed.trans tables.symm, fun rows asked row hrow => ?_⟩
  cases listed.symm.trans asked
  obtain ⟨record, kept⟩ := Snapshot.exists_keeps answers hrow
  have same := sent.keeps kept
  exact ⟨same.columns.trans kept.columns.symm, same.primaryKey.trans kept.primaryKey.symm,
    same.indexes.trans kept.indexes.symm⟩

/-! ### Columns that cannot be read -/

/-- If some word is unknown, no column is reported; the error is about the first of these words. -/
theorem exists_unknown {reports : List ColumnReport}
    (sent : s.reply .columns [n, t] = .ok (reports.map ColumnReport.cells))
    (unknown : ∃ report ∈ reports, ¬ report.Known) :
    ∃ before bad after, reports = before ++ bad :: after ∧ (∀ x ∈ before, x.Known) ∧ ¬ bad.Known ∧
      s.toCatalog.columns n t = .error (.decode .columns "is_nullable" bad.nullable) := by
  rw [columns_of_reply sent, List.mapM_map]
  cases outcome : reports.mapM (columnRow ∘ ColumnReport.cells) with
  | ok rows =>
    obtain ⟨report, hreport, third⟩ := unknown
    obtain ⟨row, read⟩ := exists_forall₂_iff.1 ⟨rows, mapM_eq_ok.1 outcome⟩ report hreport
    exact absurd (exists_columnRow.1 ⟨row, read⟩) third
  | error e =>
    obtain ⟨before, bad, after, parts, fine, stop⟩ := mapM_eq_error.1 outcome
    rw [Function.comp_apply, columnRow_cells, map_eq_error, nullable_eq_error] at stop
    obtain ⟨third, rfl⟩ := stop
    exact ⟨before, bad, after, parts, fun x hx => exists_columnRow.1 (fine x hx), third, rfl⟩

end Server

/-- A build gets to the table of a row: the enums are registered, the tables are listed, those
    before it are built, and none of them has its name. -/
structure Schema.Reaches (c : Catalog) (n : String) (r : Registry) (row : TableRow) : Prop where
  enums : ∃ labels r', c.enums = .ok labels ∧ r.registerAll (Enumeration.group labels) = (none, r')
  tables : ∃ before after, c.tables n = .ok (before ++ row :: after) ∧
    (∃ ts, buildTables c [] before = .ok ts) ∧ row.name ∉ before.map (·.name)

theorem Schema.build_of_reaches {row : TableRow} {e : InspectError}
    (reached : Schema.Reaches c n r row) (failed : c.columns row.schema row.name = .error e) :
    (Schema.build c n r).1 = .error (.inspect e) := by
  obtain ⟨⟨labels, r', enums, registered⟩, before, after, listed, built, new⟩ := reached
  have stop : Table.build c row = .error (.inspect e) :=
    Table.build_eq_error.2 (.inl ⟨e, failed, rfl⟩)
  have tables : buildTables c [] (before ++ row :: after) = .error (.inspect e) :=
    buildTables_eq_error.2 ⟨before, row, after, rfl, built, .inr ⟨by simpa using new, stop⟩⟩
  rw [Schema.build_eq_error]
  exact .inr ⟨labels, enums, .inr ⟨r', registered, typedTables_eq_error.2
    (.inr ⟨_, listed, .inl tables⟩)⟩⟩

/-! ### Scripts -/

/-- The rows that are sent about a table. -/
def TableRecord.sent (t : TableRecord) : Operation → List (List Cell)
  | .columns => t.columns.map fun row => row.report.cells
  | .primaryKey => t.primaryKey.map keyCells
  | .indexes => t.indexes.map IndexRow.cells
  | .enums | .tables => []

namespace Snapshot

/-- The replies about a table, and to the question which tables its schema has. -/
def replies (snap : Snapshot) (t : TableRecord) : List Reply :=
  ⟨.tables, some [t.schema],
      .ok (((snap.listed t.schema).map TableRecord.row).map TableRow.cells)⟩ ::
    [Operation.columns, .primaryKey, .indexes].map fun op =>
      ⟨op, some [t.schema, t.name], .ok (t.sent op)⟩

/-- The script of a server that holds what a snapshot does. -/
def script (snap : Snapshot) : List Reply :=
  ⟨.enums, some [], .ok (snap.labels.map LabelRow.cells)⟩ :: snap.tables.flatMap snap.replies

/-- The first reply of a script that fits is among those about the first table with one. -/
theorem find?_flatMap_replies {p : Reply → Bool} {q : TableRecord → Bool}
    {reply : TableRecord → Reply}
    (hit : ∀ t, (snap.replies t).find? p = if q t then some (reply t) else none) :
    ∀ ts : List TableRecord, (ts.flatMap snap.replies).find? p = (ts.find? q).map reply
  | [] => rfl
  | t :: ts => by
    rw [List.flatMap_cons, List.find?_append, hit, find?_flatMap_replies hit ts, List.find?_cons]
    cases q t with
    | true => rfl
    | false => rfl

/-- The reply about a table is that of the record which answers. -/
theorem reply_script {op : Operation} {record : TableRecord} (about : op.AboutTable)
    (found : snap.find? n t = some record) :
    (Server.scripted snap.script).reply op [n, t] = .ok (record.sent op) := by
  have hit (u : TableRecord) : (snap.replies u).find? (·.fits op [n, t]) =
      if decide (u.schema = n ∧ u.name = t) then some ⟨op, some [u.schema, u.name], .ok (u.sent op)⟩
      else none := by
    by_cases own : u.schema = n ∧ u.name = t
    · cases op with
      | enums => exact absurd rfl about.1
      | tables => exact absurd rfl about.2
      | _ => simp [replies, Reply.fits, own]
    · simp [replies, Reply.fits, own]
  have first : snap.script.find? (·.fits op [n, t]) =
      some ⟨op, some [record.schema, record.name], .ok (record.sent op)⟩ := by
    rw [script, List.find?_cons_of_neg (by simp [Reply.fits]), find?_flatMap_replies hit]
    exact congrArg (Option.map _) found
  simp only [Server.scripted, first]

theorem tables_script (snap : Snapshot) (n : String) :
    (Server.scripted snap.script).reply .tables [n] =
      .ok (((snap.listed n).map TableRecord.row).map TableRow.cells) := by
  have hit (u : TableRecord) : (snap.replies u).find? (·.fits .tables [n]) =
      if decide (u.schema = n) then some ⟨.tables, some [u.schema],
        .ok (((snap.listed n).map TableRecord.row).map TableRow.cells)⟩ else none := by
    by_cases own : u.schema = n
    · simp [replies, Reply.fits, own]
    · simp [replies, Reply.fits, own]
  have first : snap.script.find? (·.fits .tables [n]) =
      (snap.tables.find? (·.schema = n)).map fun u => ⟨.tables, some [u.schema],
        .ok (((snap.listed n).map TableRecord.row).map TableRow.cells)⟩ := by
    rw [script, List.find?_cons_of_neg (by simp [Reply.fits]), find?_flatMap_replies hit]
  simp only [Server.scripted, first]
  cases found : snap.tables.find? (·.schema = n) with
  | some u => rfl
  | none =>
    have none : snap.listed n = [] := List.filter_eq_nil_iff.2 (List.find?_eq_none.1 found)
    rw [none]
    rfl

/-- Every snapshot can be served from a script. -/
theorem sends_script (snap : Snapshot) : (Server.scripted snap.script).Sends snap.toCatalog where
  enums {rows} answer := by
    obtain ⟨-, rfl⟩ := answer_eq_ok.1 answer
    rfl
  tables {n rows} answer := by
    obtain ⟨-, rfl⟩ := answer_eq_ok.1 answer
    exact tables_script snap n
  columns {n t rows} answer := by
    obtain ⟨-, record, found, rfl⟩ := answerFor_eq_ok.1 answer
    exact reply_script (by simp [Operation.AboutTable]) found
  primaryKey {n t names} answer := by
    obtain ⟨-, record, found, rfl⟩ := answerFor_eq_ok.1 answer
    exact reply_script (by simp [Operation.AboutTable]) found
  indexes {n t rows} answer := by
    obtain ⟨-, record, found, rfl⟩ := answerFor_eq_ok.1 answer
    exact reply_script (by simp [Operation.AboutTable]) found

end Snapshot

/-! ### Runs -/

/-- ALIKE: over a server that sends what a snapshot says, every run gives what it gives over the
    snapshot, be it a schema, a code model, a capture or an error. And if a server sends a column
    with a word that is neither of the two, it reports no column of that table, and every build that
    gets there ends with the first such word. -/
theorem Server.inspects_alike :
    (∀ (snap : Snapshot) (s : Server), snap.failing = none → s.Sends snap.toCatalog → ∀ n,
      (∀ ds, CodeModel.generate s.toCatalog ds n = CodeModel.generate snap.toCatalog ds n) ∧
      inspect s.toCatalog n = inspect snap.toCatalog n ∧
      Snapshot.capture s.toCatalog n = Snapshot.capture snap.toCatalog n) ∧
    ∀ (s : Server) (n t : String) (reports : List ColumnReport),
      s.reply .columns [n, t] = .ok (reports.map ColumnReport.cells) →
      (∃ report ∈ reports, ¬ report.Known) →
      ∃ before bad after, reports = before ++ bad :: after ∧ (∀ x ∈ before, x.Known) ∧
        ¬ bad.Known ∧
        let e := InspectError.decode .columns "is_nullable" bad.nullable
        s.toCatalog.columns n t = .error e ∧
        ∀ (schema : String) (r : Registry) (row : TableRow), row.schema = n → row.name = t →
          Schema.Reaches s.toCatalog schema r row →
          (Schema.build s.toCatalog schema r).1 = .error (.inspect e) := by
  refine ⟨fun snap s answers sent n => ?_, fun s n t reports sent unknown => ?_⟩
  · have same := sent.agreeOn answers n
    refine ⟨CodeModel.generate_congr same, ?_, Snapshot.capture_congr same⟩
    rw [inspect, inspect, Schema.build_congr same]
  · obtain ⟨before, bad, after, parts, known, third, failed⟩ := exists_unknown sent unknown
    refine ⟨before, bad, after, parts, known, third, failed, ?_⟩
    rintro schema r row rfl rfl reached
    exact Schema.build_of_reaches reached failed

/-- Columns of which two are sent with a word of their own. -/
def doubts : List ColumnReport :=
  [⟨1, "id", "int8", "NO"⟩, ⟨2, "at", "date", "maybe"⟩, ⟨3, "by", "text", "yes"⟩]

/-- A server with one table, which has these columns. -/
def doubtful : Server :=
  .scripted [⟨.tables, some ["public"], .ok [TableRow.cells ⟨"", "public", "sales"⟩]⟩,
    ⟨.columns, none, .ok (doubts.map ColumnReport.cells)⟩]

open Snapshot in
theorem Server.inspects_alike_kiosk :
    kiosk.failing = none ∧ (Server.scripted kiosk.script).Sends kiosk.toCatalog ∧
    inspect (Server.scripted kiosk.script).toCatalog "public" = inspect kiosk.toCatalog "public" ∧
    capture (Server.scripted kiosk.script).toCatalog "public" =
      .ok ⟨kiosk.labels, kiosk.listed "public", none⟩ ∧
    doubtful.reply .columns ["public", "sales"] = .ok (doubts.map ColumnReport.cells) ∧
    (∃ report ∈ doubts, ¬ report.Known) ∧
    Schema.Reaches doubtful.toCatalog "public" .fresh ⟨"", "public", "sales"⟩ ∧
    (Schema.build doubtful.toCatalog "public" .fresh).1 =
      .error (.inspect (.decode .columns "is_nullable" "maybe")) := by
  obtain ⟨alike, doubted⟩ := Server.inspects_alike
  obtain ⟨-, inspected, captured⟩ := alike kiosk _ rfl (sends_script kiosk) "public"
  have taken : capture kiosk.toCatalog "public" =
      .ok ⟨kiosk.labels, kiosk.listed "public", none⟩ := by cbv
  have sent : doubtful.reply .columns ["public", "sales"] =
      .ok (doubts.map ColumnReport.cells) := rfl
  have unknown : ∃ report ∈ doubts, ¬ report.Known :=
    ⟨⟨2, "at", "date", "maybe"⟩, by simp [doubts], by simp [ColumnReport.Known]⟩
  have reached : Schema.Reaches doubtful.toCatalog "public" .fresh ⟨"", "public", "sales"⟩ :=
    ⟨⟨[], _, rfl, rfl⟩, [], [], rfl, ⟨[], rfl⟩, by simp⟩
  have first : doubtful.toCatalog.columns "public" "sales" =
      .error (.decode .columns "is_nullable" "maybe") := rfl
  obtain ⟨-, bad, -, -, -, -, failed, ends⟩ := doubted _ _ _ _ sent unknown
  have word : "maybe" = bad.nullable := by simpa using first.symm.trans failed
  rw [← word] at ends
  exact ⟨rfl, sends_script kiosk, inspected, captured.trans taken, sent, unknown, reached,
    ends _ _ _ rfl rfl reached⟩

end Introspect
