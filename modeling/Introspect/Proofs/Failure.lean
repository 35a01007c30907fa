import Introspect.Proofs.CodeModel
import Introspect.Proofs.Refusal

/-! Failures: an operation that fails ends every run that asks it, with its own error.

    Builds and captures ask for the enums and the tables of a schema, and then about each of these
    tables, if there is one. A catalog may fail on one operation and answer all others as before
    (`Catalog.failing`). If the run over the answers succeeds, nothing but this failure can end the
    run over the failing catalog, wherever it strikes; and if the operation is not asked at all,
    nothing changes (`Snapshot.failing_aborts`). -/

namespace Introspect

variable {c : Catalog} {n : String} {r r' : Registry} {op : Operation} {e : InspectError}
  {row : TableRow} {rows : List TableRow}

/-- The catalog, with the answer `e` to everything that is asked by `op`. -/
def Catalog.failing (c : Catalog) (op : Operation) (e : InspectError) : Catalog where
  enums := if op = .enums then .error e else c.enums
  tables n := if op = .tables then .error e else c.tables n
  columns n table := if op = .columns then .error e else c.columns n table
  primaryKey n table := if op = .primaryKey then .error e else c.primaryKey n table
  indexes n table := if op = .indexes then .error e else c.indexes n table

/-- Operations that are about one table. -/
def Operation.AboutTable (op : Operation) : Prop := op ≠ .enums ∧ op ≠ .tables

/-- A run over a schema asks the operation: the enums and the tables in any case, and about a table
    if there is one. -/
def Catalog.Asked (c : Catalog) (op : Operation) (n : String) : Prop :=
  ¬ op.AboutTable ∨ ∃ rows, c.tables n = .ok rows ∧ rows ≠ []

/-! ### Tables -/

theorem Table.build_failing {t : Table} (about : op.AboutTable) (built : Table.build c row = .ok t) :
    Table.build (c.failing op e) row = .error (.inspect e) := by
  obtain ⟨columnRows, keys, -, columns, primaryKey, distinct, -, -⟩ := Table.build_eq_ok.1 built
  rw [Table.build_eq_error]
  cases op with
  | enums => exact absurd rfl about.1
  | tables => exact absurd rfl about.2
  | columns => exact .inl ⟨e, rfl, rfl⟩
  | primaryKey => exact .inr ⟨columnRows, columns, .inl ⟨e, rfl, rfl⟩⟩
  | indexes => exact .inr ⟨columnRows, columns, .inr ⟨keys, primaryKey, .inr ⟨distinct, e, rfl, rfl⟩⟩⟩

theorem captureTable_failing {t : TableRecord} (about : op.AboutTable)
    (captured : Snapshot.captureTable c row = .ok t) :
    Snapshot.captureTable (c.failing op e) row = .error e := by
  obtain ⟨-, columns, primaryKey, -⟩ := Snapshot.captureTable_eq_ok.1 captured
  simp only [Snapshot.captureTable, bind_eq_error]
  cases op with
  | enums => exact absurd rfl about.1
  | tables => exact absurd rfl about.2
  | columns => exact .inl rfl
  | primaryKey => exact .inr ⟨_, columns, .inl rfl⟩
  | indexes => exact .inr ⟨_, columns, .inr ⟨_, primaryKey, .inl rfl⟩⟩

/-! ### Runs that are ended -/

theorem buildTables_failing {ts : List Table} (about : op.AboutTable) (listed : rows ≠ [])
    (built : buildTables c [] rows = .ok ts) :
    buildTables (c.failing op e) [] rows = .error (.inspect e) := by
  cases rows with
  | nil => exact absurd rfl listed
  | cons row rows =>
    obtain ⟨-, each⟩ := buildTables_eq_ok.1 built
    obtain ⟨t, ts, first, -, rfl⟩ := List.forall₂_cons_left_iff.1 each
    rw [buildTables_eq_error]
    exact ⟨[], row, rows, rfl, ⟨[], rfl⟩, .inr ⟨by simp, Table.build_failing about first⟩⟩

theorem typedTables_failing {ts : List Table} (later : op ≠ .enums) (asked : c.Asked op n)
    (typed : typedTables c n r = .ok ts) :
    typedTables (c.failing op e) n r = .error (.inspect e) := by
  obtain ⟨rows, answer, built, -⟩ := typedTables_eq_ok.1 typed
  rw [typedTables_eq_error]
  by_cases tables : op = .tables
  · exact .inl ⟨e, if_pos tables, rfl⟩
  · rcases asked with other | ⟨listed, again, some⟩
    · exact absurd ⟨later, tables⟩ other
    · cases again.symm.trans answer
      have failed := buildTables_failing (e := e) ⟨later, tables⟩ some built
      exact .inr ⟨rows, (if_neg tables).trans answer, .inl failed⟩

theorem Schema.build_failing {s : Schema} (asked : c.Asked op n)
    (built : Schema.build c n r = (.ok s, r')) :
    (Schema.build (c.failing op e) n r).1 = .error (.inspect e) := by
  obtain ⟨labels, tables, answer, registered, typed, rfl⟩ := Schema.build_eq_ok.1 built
  rw [Schema.build_eq_error]
  by_cases enums : op = .enums
  · exact .inl ⟨e, if_pos enums, rfl⟩
  · exact .inr ⟨labels, (if_neg enums).trans answer,
      .inr ⟨r', registered, typedTables_failing enums asked typed⟩⟩

theorem Snapshot.capture_failing {snap : Snapshot} (asked : c.Asked op n)
    (captured : capture c n = .ok snap) : capture (c.failing op e) n = .error e := by
  obtain ⟨labels, rows, records, enums, tables, each, rfl⟩ := capture_eq_ok.1 captured
  simp only [capture, bind_eq_error]
  by_cases first : op = .enums
  · exact .inl (if_pos first)
  refine .inr ⟨labels, (if_neg first).trans enums, ?_⟩
  by_cases second : op = .tables
  · exact .inl (if_pos second)
  refine .inr ⟨rows, (if_neg second).trans tables, .inl ?_⟩
  rcases asked with other | ⟨listed, again, some⟩
  · exact absurd ⟨first, second⟩ other
  · cases again.symm.trans tables
    cases each with
    | nil => exact absurd rfl some
    | cons record _ =>
      rw [List.mapM_cons, bind_eq_error]
      exact .inl (captureTable_failing ⟨first, second⟩ record)

/-! ### Runs that do not ask -/

theorem Catalog.agreeOn_failing (unasked : ¬ c.Asked op n) :
    (c.failing op e).AgreeOn c n := by
  rw [Asked, not_or, not_not] at unasked
  obtain ⟨⟨enums, tables⟩, unlisted⟩ := unasked
  have same : (c.failing op e).tables n = c.tables n := if_neg tables
  refine ⟨if_neg enums, same, fun listed again row hrow => ?_⟩
  rw [same] at again
  exact absurd ⟨listed, again, List.ne_nil_of_mem hrow⟩ unlisted

/-! ### Snapshots that fail -/

namespace Snapshot

variable {snap : Snapshot}

/-- A snapshot that is made to fail is the catalog that fails with a closed connection. -/
theorem toCatalog_failingOn (answers : snap.failing = none) (op : Operation) :
    (snap.failingOn op).toCatalog = snap.toCatalog.failing op (.query op .closed) := by
  have answer {α : Type} (asked : Operation) (value : α) : (snap.failingOn op).answer asked value =
      if op = asked then .error (.query op .closed) else snap.answer asked value := by
    by_cases same : op = asked
    · simp [Snapshot.answer, failingOn, same]
    · simp [Snapshot.answer, failingOn, answers, same]
  have answerFor {α : Type} (asked : Operation) (value : TableRecord → α) (n table : String) :
      (snap.failingOn op).answerFor asked value n table =
        if op = asked then .error (.query op .closed) else snap.answerFor asked value n table := by
    rw [Snapshot.answerFor, answer]
    by_cases same : op = asked
    · rw [if_pos same, if_pos same]
      rfl
    · rw [if_neg same, if_neg same]
      rfl
  simp only [toCatalog, Catalog.failing, answer, Catalog.mk.injEq]
  refine ⟨rfl, rfl, ?_, ?_, ?_⟩ <;> exact funext fun n => funext fun table => answerFor ..

/-- A snapshot that answers can be captured. -/
theorem exists_capture (answers : snap.failing = none) (n : String) :
    ∃ taken, capture snap.toCatalog n = .ok taken := by
  have each : ∀ row ∈ (snap.listed n).map TableRecord.row,
      ∃ record, captureTable snap.toCatalog row = .ok record := by
    intro row hrow
    obtain ⟨t, columns, primaryKey, indexes⟩ := exists_keeps answers hrow
    exact ⟨⟨row.catalog, row.schema, row.name, t.columns, t.primaryKey, t.indexes⟩,
      captureTable_eq_ok.2 ⟨rfl, columns, primaryKey, indexes⟩⟩
  obtain ⟨records, captured⟩ := exists_forall₂_iff.2 each
  exact ⟨_, capture_eq_ok.2 ⟨snap.labels, _, records, toCatalog_enums answers,
    toCatalog_tables answers n, captured, rfl⟩⟩

theorem asked_iff (answers : snap.failing = none) (op : Operation) (n : String) :
    snap.toCatalog.Asked op n ↔
      op = .enums ∨ op = .tables ∨ ∃ t ∈ snap.tables, t.schema = n := by
  have listed : (∃ rows, snap.toCatalog.tables n = .ok rows ∧ rows ≠ []) ↔
      ∃ t ∈ snap.tables, t.schema = n := by
    simp [toCatalog_tables answers, listed]
  rw [Catalog.Asked, Operation.AboutTable, listed, not_and_or, not_not, not_not, or_assoc]

/-- ABORTED: of a snapshot whose schema can be built, made to fail on one operation, every run that
    asks this operation ends with the error that names it, be it a build, a capture or the
    generation of a code model. Runs that do not ask it give what they give without the failure. -/
theorem failing_aborts (snap : Snapshot) (n : String) (op : Operation)
    (answers : snap.failing = none)
    (built : ∃ s, (Schema.build snap.toCatalog n .fresh).1 = .ok s) :
    let broken := (snap.failingOn op).toCatalog
    let e := InspectError.query op .closed
    ((op = .enums ∨ op = .tables ∨ ∃ t ∈ snap.tables, t.schema = n) →
      (Schema.build broken n .fresh).1 = .error (.inspect e) ∧ capture broken n = .error e ∧
        ∀ ds, CodeModel.generate broken ds n = .error (.build (.inspect e))) ∧
    (¬ (op = .enums ∨ op = .tables ∨ ∃ t ∈ snap.tables, t.schema = n) →
      Schema.build broken n .fresh = Schema.build snap.toCatalog n .fresh ∧
        capture broken n = capture snap.toCatalog n ∧
        (∃ taken, capture broken n = .ok taken) ∧
        ∀ ds, CodeModel.generate broken ds n = CodeModel.generate snap.toCatalog ds n) := by
  obtain ⟨s, built⟩ := built
  obtain ⟨taken, captured⟩ := exists_capture answers n
  rw [toCatalog_failingOn answers, ← asked_iff answers]
  dsimp only
  constructor
  · intro asked
    have failed := Schema.build_failing (e := .query op .closed) asked (Prod.ext built rfl)
    exact ⟨failed, capture_failing asked captured, CodeModel.generate_of_build failed⟩
  · intro unasked
    have same := Catalog.agreeOn_failing (e := .query op .closed) unasked
    have records := capture_congr same
    exact ⟨Schema.build_congr same _, records, ⟨taken, records.trans captured⟩,
      CodeModel.generate_congr same⟩

/-- A snapshot with one table in one schema, and a table that cannot be built in another. -/
def kiosk : Snapshot where
  labels := [⟨"audit", "mood", "calm"⟩]
  tables := [⟨"", "audit", "sales", [⟨1, "at", "date", false⟩], [], []⟩,
    ⟨"", "public", "sales", [⟨1, "state", "mood", false⟩], ["state"], []⟩]
  failing := none

/-- The schema with one table. -/
def kioskSchema : Schema :=
  let state : Column := ⟨1, "state", "mood", false, true⟩
  ⟨"public", [⟨"audit", "mood", ["calm"]⟩], [⟨"", "public", "sales", [state], [state], []⟩]⟩

theorem failing_aborts_kiosk :
    (Schema.build kiosk.toCatalog "public" .fresh).1 = .ok kioskSchema ∧
    (Schema.build (kiosk.failingOn .indexes).toCatalog "public" .fresh).1 =
      .error (.inspect (.query .indexes .closed)) ∧
    (Schema.build kiosk.toCatalog "billing" .fresh).1 =
      .ok ⟨"billing", kioskSchema.enums, []⟩ ∧
    Schema.build (kiosk.failingOn .indexes).toCatalog "billing" .fresh =
      Schema.build kiosk.toCatalog "billing" .fresh := by
  have built : (Schema.build kiosk.toCatalog "public" .fresh).1 = .ok kioskSchema := by cbv
  have other : (Schema.build kiosk.toCatalog "billing" .fresh).1 =
      .ok ⟨"billing", kioskSchema.enums, []⟩ := by cbv
  have asked := (failing_aborts kiosk "public" .indexes rfl ⟨_, built⟩).1 (by simp [kiosk])
  have unasked := (failing_aborts kiosk "billing" .indexes rfl ⟨_, other⟩).2 (by simp [kiosk])
  exact ⟨built, asked.1, other, unasked.1⟩

end Snapshot

end Introspect
