import Introspect.Proofs.Entries
import Introspect.Proofs.RoundTrip

/-! Sorted documents: a reader finds in them what it finds in the document.

    Sorting a record moves its fields and sorts what is in them. A record whose names differ keeps
    all of its fields, so each of its parts is there afterwards, sorted itself (`parts_sorted`), and
    it is left to the reader of a part to find the same in it. -/

namespace Introspect.Datum

variable {α : Type} {d : Datum} {fields : List (String × Datum)} {names : List String}
  {surplus : Surplus}

theorem sortedItems_eq_map : ∀ {items : List Datum}, sortedItems items = items.map sorted
  | [] => rfl
  | d :: ds => by rw [sortedItems, sortedItems_eq_map, List.map_cons]

theorem sortedFields_eq_map : ∀ {fields : List (String × Datum)},
    sortedFields fields = fields.map fun f => (f.1, f.2.sorted)
  | [] => rfl
  | (name, d) :: fields => by rw [sortedFields, sortedFields_eq_map, List.map_cons]

theorem sorted_list (items : List Datum) : (list items).sorted = list (items.map sorted) := by
  rw [sorted, sortedItems_eq_map]

theorem sorted_record (fields : List (String × Datum)) : (record fields).sorted =
    record (ascendingEntries (fields.map fun f => (f.1, f.2.sorted))) := by
  rw [sorted, sortedFields_eq_map]

/-- What is sorted has a form of its own in JSON if the document has. -/
theorem Plain.sorted (plain : d.Plain) : d.sorted.Plain := by
  induction plain with
  | list _ ih =>
    rw [sorted_list]
    refine .list fun d hd => ?_
    obtain ⟨item, hi, rfl⟩ := List.mem_map.1 hd
    exact ih item hi
  | record _ ih =>
    rw [sorted_record]
    refine .record fun f hf => ?_
    obtain ⟨field, hx, rfl⟩ := List.mem_map.1 (mem_of_mem_ascendingEntries hf)
    exact ih field hx
  | null => exact .null
  | bool b => exact .bool b
  | integer n => exact .integer n
  | decimal chars number => exact .decimal chars number
  | text s => exact .text s

/-! ### Parts of a sorted record -/

theorem names_sortedFields :
    (fields.map fun f => (f.1, f.2.sorted)).map (·.1) = fields.map (·.1) := by
  rw [List.map_map]
  rfl

theorem sorted_record_perm (distinct : (fields.map (·.1)).Nodup) :
    (ascendingEntries (fields.map fun f => (f.1, f.2.sorted))).Perm
      (fields.map fun f => (f.1, f.2.sorted)) :=
  ascendingEntries_perm (by rwa [names_sortedFields])

theorem field?_sorted (distinct : (fields.map (·.1)).Nodup) (k : String) :
    field? (ascendingEntries (fields.map fun f => (f.1, f.2.sorted))) k =
      (field? fields k).map sorted := by
  have perm := sorted_record_perm distinct
  have distinct' := (perm.map (·.1)).nodup_iff.2 (by rwa [names_sortedFields])
  rw [field?, find?_key_perm perm distinct', List.find?_map, field?, Option.map_map, Option.map_map]
  rfl

theorem named_length_le (distinct : (fields.map (·.1)).Nodup) (name : String) :
    (named name fields).length ≤ 1 := by
  have once := List.nodup_iff_count_le_one.1 distinct name
  rwa [List.count_eq_countP, List.countP_map, List.countP_eq_length_filter] at once

/-- The parts of a sorted record are those of the record, sorted themselves. -/
theorem parts_sorted (distinct : (fields.map (·.1)).Nodup) (declared : ∀ f ∈ fields, f.1 ∈ names) :
    (record fields).sorted.parts surplus names =
      some ⟨fun k => (field? fields k).map sorted⟩ := by
  have perm := sorted_record_perm distinct
  rw [sorted_record]
  refine parts_record.2 ⟨fun name _ => ?_, fun f hf other => absurd ?_ other, ?_⟩
  · refine named_length_le ((perm.map (·.1)).nodup_iff.2 ?_) name
    rwa [names_sortedFields]
  · obtain ⟨field, hx, rfl⟩ := List.mem_map.1 (mem_of_mem_ascendingEntries hf)
    exact declared field hx
  · exact congrArg Parts.mk (funext fun k => (field?_sorted distinct k).symm)

theorem list?_sorted {read : Datum → Option α} {toDatum : α → Datum}
    (back : ∀ x, read (toDatum x).sorted = some x) (xs : List α) :
    (list (xs.map toDatum)).sorted.list? read = some xs := by
  rw [sorted_list, List.map_map]
  exact list?_map back xs

end Introspect.Datum
