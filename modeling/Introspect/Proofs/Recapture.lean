import Introspect.Proofs.Capture

/-! Recaptures: what is captured of a snapshot.

    A snapshot that answers has a record for every table that it lists, so a capture of it succeeds.
    Each record is taken over, or the first with its schema and name in its stead, under the row of
    its own (`Snapshot.capture_snapshot`). The first of these records stays the first, so a capture
    is its own capture; it has no table of another schema; and where no name is repeated the records
    are the same (`Snapshot.capture_projects`). -/

namespace Introspect.Snapshot

variable {snap : Snapshot} {t : TableRecord} {n : String}

/-- What a snapshot says about the table of a record, under the row of that record. -/
def answered (snap : Snapshot) (t : TableRecord) : TableRecord :=
  { (snap.find? t.schema t.name).getD t with catalog := t.catalog }

theorem row_answered (ht : t ∈ snap.tables) : (snap.answered t).row = t.row := by
  obtain ⟨first, found, -, schema, name⟩ := exists_find? ht
  rw [answered, found]
  simp [TableRecord.row, schema, name]

/-- A record of a snapshot that answers is captured. -/
theorem captureTable_answered (answers : snap.failing = none) (ht : t ∈ snap.tables) :
    captureTable snap.toCatalog t.row = .ok (snap.answered t) := by
  obtain ⟨first, found, -⟩ := exists_find? ht
  obtain ⟨columns, primaryKey, indexes⟩ := keeps_of_find? answers found
  refine captureTable_eq_ok.2 ⟨row_answered ht, ?_⟩
  rw [answered, found]
  exact ⟨columns, primaryKey, indexes⟩

/-- A capture of a snapshot has all of its labels, and what it says about each table of the
    schema. -/
theorem capture_snapshot (answers : snap.failing = none) (n : String) :
    capture snap.toCatalog n =
      .ok ⟨snap.labels, (snap.listed n).map snap.answered, none⟩ := by
  refine capture_eq_ok.2
    ⟨_, _, _, toCatalog_enums answers, toCatalog_tables answers n, ?_, rfl⟩
  rw [List.forall₂_map_left_iff, List.forall₂_map_right_iff]
  exact List.forall₂_same.2 fun t ht => captureTable_answered answers (mem_listed.1 ht).1

/-- Where no name is repeated each record is found. -/
theorem answered_of_nodup (distinct : ((snap.listed n).map (·.name)).Nodup)
    (ht : t ∈ snap.listed n) : snap.answered t = t := by
  have found : snap.find? t.schema t.name = some t := by
    rw [(mem_listed.1 ht).2, find?_listed]
    exact (find?_key_of_nodup distinct).2 ⟨ht, rfl⟩
  rw [answered, found]
  rfl

/-- What is captured of a schema has no table of another. -/
theorem listed_other {labels : List LabelRow} {other : String} (different : other ≠ n) :
    listed ⟨labels, (snap.listed n).map snap.answered, none⟩ other = [] := by
  rw [listed, List.filter_eq_nil_iff]
  intro u hu
  obtain ⟨t, ht, rfl⟩ := List.mem_map.1 hu
  obtain ⟨listed, schema⟩ := mem_listed.1 ht
  have same : (snap.answered t).schema = t.schema := congrArg TableRow.schema (row_answered listed)
  simpa [same, schema] using different.symm

/-- PROJECTION: a snapshot that answers is captured, with all of its labels and a record for each
    table of the schema, in their order. The capture captures itself; of another schema it has the
    labels only; and under different names its records are those of the snapshot. -/
theorem capture_projects (source : Snapshot) (n : String) (answers : source.failing = none) :
    ∃ snap, capture source.toCatalog n = .ok snap ∧
      capture snap.toCatalog n = .ok snap ∧
      (∀ other, other ≠ n → capture snap.toCatalog other = .ok ⟨source.labels, [], none⟩) ∧
      snap.labels = source.labels ∧
      snap.tables.map (·.row) = (source.tables.filter (·.schema = n)).map (·.row) ∧
      (((source.tables.filter (·.schema = n)).map (·.name)).Nodup →
        snap.tables = source.tables.filter (·.schema = n)) := by
  have captured := capture_snapshot answers n
  refine ⟨_, captured, ?_, fun other different => ?_, rfl, ?_, fun distinct => ?_⟩
  · -- the snapshot says of the schema what the source says
    exact (capture_congr (agrees_of_capture (owns source n) captured)).trans captured
  · rw [capture_snapshot rfl, listed_other different, List.map_nil]
  · rw [List.map_map]
    exact List.map_congr_left fun t ht => row_answered (mem_listed.1 ht).1
  · rw [List.map_congr_left fun t ht => answered_of_nodup distinct ht, List.map_id', listed]

theorem capture_projects_doubled : doubled.failing = none ∧
    capture doubled.toCatalog "public" = .ok captured ∧
    capture captured.toCatalog "public" = .ok captured ∧
    capture captured.toCatalog "audit" = .ok ⟨doubled.labels, [], none⟩ ∧
    captured.tables.map (·.row) = List.replicate 2 ⟨"", "public", "users"⟩ ∧
    ∃ snap, capture doubled.toCatalog "audit" = .ok snap ∧
      snap.tables = [.new "audit" "users"] := by
  have answers : doubled.failing = none := rfl
  have took : capture doubled.toCatalog "public" = .ok captured := by cbv
  obtain ⟨snap, found, again, other, -, rows, -⟩ := capture_projects doubled "public" answers
  obtain rfl : captured = snap := Except.ok.inj (took.symm.trans found)
  obtain ⟨audit, found', -, -, -, -, kept⟩ := capture_projects doubled "audit" answers
  exact ⟨answers, took, again, other "audit" (by decide), rows, audit, found', kept (by decide)⟩

end Introspect.Snapshot
