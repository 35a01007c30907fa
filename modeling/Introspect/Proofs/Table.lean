import Introspect.Model.Build
import Introspect.Proofs.Outcome

/-! Tables: the order of columns, and the columns that keys of an index name.

    Sorting by position loses no column and adds none, and if all positions differ the order is
    strict, and the same in whatever order the columns come (`byPosition_eq_of_perm`). Every look-up
    of a column, whether by a name or by a key of an index, gives a column of the table, so an index
    that is kept is over columns of its table (`resolveIndex?_mem`). -/

namespace Introspect.Table

variable {t : Table}

/-! ### The order of columns -/

theorem byPosition_perm (columns : List Column) : (byPosition columns).Perm columns :=
  List.mergeSort_perm columns _

theorem byPosition_ordered (columns : List Column) :
    (byPosition columns).Pairwise (·.position ≤ ·.position) := by
  have ordered := @List.pairwise_mergeSort _ (fun a b : Column => a.position ≤ b.position)
    (fun a b c ab bc => by simpa using Int32.le_trans (by simpa using ab) (by simpa using bc))
    (fun a b => by simpa using Int32.le_total a.position b.position) columns
  simpa [byPosition] using ordered

theorem byPosition_ascending {columns : List Column} (distinct : (columns.map (·.position)).Nodup) :
    (byPosition columns).Pairwise (·.position < ·.position) := by
  have differ : (byPosition columns).Pairwise fun a b => a.position ≠ b.position :=
    List.pairwise_map.1 (((byPosition_perm columns).map _).nodup_iff.2 distinct)
  exact (byPosition_ordered columns).imp₂ (fun _ _ le ne => Int32.lt_of_le_of_ne le ne) differ

/-- Columns at different positions have one order, in whatever order they come. -/
theorem byPosition_eq_of_perm {columns columns' : List Column} (perm : columns.Perm columns')
    (distinct : (columns.map (·.position)).Nodup) : byPosition columns = byPosition columns' := by
  have distinct' : (columns'.map (·.position)).Nodup := (perm.map _).nodup_iff.1 distinct
  have sorted : (byPosition columns).Perm (byPosition columns') :=
    (byPosition_perm columns).trans (perm.trans (byPosition_perm columns').symm)
  exact sorted.eq_of_pairwise (fun _ _ _ _ below above => absurd above (Int32.lt_asymm below))
    (byPosition_ascending distinct) (byPosition_ascending distinct')

/-! ### Look-ups -/

theorem column?_mem {name : String} {x : Column} (h : t.column? name = some x) : x ∈ t.columns :=
  List.mem_of_find?_eq_some h

theorem column?_eq_none {name : String} :
    t.column? name = none ↔ ∀ x ∈ t.columns, x.name ≠ name := by
  rw [column?, List.find?_eq_none]
  simp

theorem keyColumn?_mem {key : String} {x : Column} (h : t.keyColumn? key = some x) :
    x ∈ t.columns := by
  rcases Option.or_eq_some_iff.1 h with h | ⟨-, h⟩
  · exact column?_mem h
  · obtain ⟨name, -, h⟩ := Option.bind_eq_some_iff.1 h
    exact column?_mem h

theorem resolveIndex?_eq_some {row : IndexRow} {i : Index} :
    t.resolveIndex? row = some i ↔ i.name = row.name ∧
      List.Forall₂ (fun key x => t.keyColumn? key = some x) row.keys i.columns := by
  rw [resolveIndex?, Option.map_eq_some_iff]
  constructor
  · rintro ⟨columns, h, rfl⟩
    exact ⟨rfl, mapM_eq_some.1 h⟩
  · rintro ⟨name, h⟩
    exact ⟨i.columns, mapM_eq_some.2 h, by rw [← name]⟩

/-- An index that is kept is over columns of the table. -/
theorem resolveIndex?_mem {row : IndexRow} {i : Index} (h : t.resolveIndex? row = some i) :
    ∀ x ∈ i.columns, x ∈ t.columns := by
  intro x hx
  obtain ⟨key, -, found⟩ := forall₂_mem_right (resolveIndex?_eq_some.1 h).2 hx
  exact keyColumn?_mem found

end Introspect.Table
