import Introspect.Proofs.Acceptance

/-! Sort columns: which column a sort chooses.

    A table looks its columns up in the order of their positions, so the first with a property is
    the lowest one (`Table.find?_byPosition`). A sort looks twice, for a column of just its name and
    then for one whose name ends with it, so a whole name goes before any ending, be that lower or
    not (`Table.sortColumn?_ofColumns`). Positions that differ leave no choice between two columns,
    in whatever order these are given (`resolveSort_lowest`). -/

namespace Introspect

variable {columns : List Column} {x : Column} {name : String} {p : Column → Bool} {P : Column → Prop}

/-- The column stands at the lowest position among those with a property. -/
structure Lowest (P : Column → Prop) (columns : List Column) (x : Column) : Prop where
  mem : x ∈ columns
  holds : P x
  least : ∀ y ∈ columns, P y → x.position ≤ y.position

/-- The column that a name chooses: the lowest of just that name, or the lowest whose name ends with
    it if none has just that name. -/
inductive Chosen (columns : List Column) (name : String) (x : Column) : Prop
  | whole (lowest : Lowest (·.name = name) columns x)
  | ending (other : ∀ y ∈ columns, y.name ≠ name)
      (lowest : Lowest (fun y => name.toList <:+ y.name.toList) columns x)

namespace Table

theorem lowest_of_find? (means : ∀ y, p y = true ↔ P y)
    (found : (byPosition columns).find? p = some x) : Lowest P columns x := by
  obtain ⟨holds, before, after, parts, refused⟩ := List.find?_eq_some_iff_append.1 found
  have listed {y : Column} : y ∈ columns ↔ y ∈ before ∨ y = x ∨ y ∈ after := by
    rw [← (byPosition_perm columns).mem_iff, parts, List.mem_append, List.mem_cons]
  have ordered := byPosition_ordered columns
  rw [parts, List.pairwise_append, List.pairwise_cons] at ordered
  obtain ⟨-, ⟨above, -⟩, -⟩ := ordered
  refine ⟨listed.2 (.inr (.inl rfl)), (means x).1 holds, fun y hy passes => ?_⟩
  rcases listed.1 hy with hy | rfl | hy
  · exact absurd ((means y).2 passes) (by simpa using refused y hy)
  · exact Int32.le_refl _
  · exact above y hy

/-- The first column with a property is the lowest one. -/
theorem find?_byPosition (distinct : (columns.map (·.position)).Nodup)
    (means : ∀ y, p y = true ↔ P y) :
    (byPosition columns).find? p = some x ↔ Lowest P columns x := by
  refine ⟨lowest_of_find? means, fun lowest => ?_⟩
  cases found : (byPosition columns).find? p with
  | none =>
    have listed := (byPosition_perm columns).mem_iff.2 lowest.mem
    exact absurd ((means x).2 lowest.holds) (List.find?_eq_none.1 found x listed)
  | some y =>
    have first := lowest_of_find? means found
    have level := Int32.le_antisymm (first.least x lowest.mem lowest.holds)
      (lowest.least y first.mem first.holds)
    rw [List.inj_on_of_nodup_map distinct first.mem lowest.mem level]

variable {catalog schema table : String}

theorem column?_ofColumns (distinct : (columns.map (·.position)).Nodup) :
    (ofColumns catalog schema table columns).column? name = some x ↔
      Lowest (·.name = name) columns x :=
  find?_byPosition distinct fun _ => decide_eq_true_iff

theorem mem_ofColumns : x ∈ (ofColumns catalog schema table columns).columns ↔ x ∈ columns :=
  (byPosition_perm columns).mem_iff

theorem sortColumn?_ofColumns (distinct : (columns.map (·.position)).Nodup) :
    (ofColumns catalog schema table columns).sortColumn? name = some x ↔
      name ≠ "" ∧ Chosen columns name x := by
  have suffix : (ofColumns catalog schema table columns).columns.find?
      (fun y => name.toList.isSuffixOf y.name.toList) = some x ↔
        Lowest (fun y => name.toList <:+ y.name.toList) columns x :=
    find?_byPosition distinct fun _ => List.isSuffixOf_iff_suffix
  rw [sortColumn?]
  split
  · rename_i empty
    simp [empty]
  · rename_i something
    rw [Option.or_eq_some_iff, column?_ofColumns distinct, column?_eq_none, suffix]
    simp only [mem_ofColumns]
    constructor
    · rintro (whole | ⟨other, ending⟩)
      · exact ⟨something, .whole whole⟩
      · exact ⟨something, .ending other ending⟩
    · rintro ⟨-, whole | ⟨other, ending⟩⟩
      · exact .inl whole
      · exact .inr ⟨other, ending⟩

/-- Columns at different positions make one table, in whatever order they are given. -/
theorem ofColumns_perm {columns' : List Column} (perm : columns.Perm columns')
    (distinct : (columns.map (·.position)).Nodup) :
    ofColumns catalog schema table columns = ofColumns catalog schema table columns' := by
  rw [ofColumns, ofColumns, byPosition_eq_of_perm perm distinct]

end Table

/-- LOWEST: a sort on a table whose columns were given at different positions is refused if it names
    nothing or what no column ends with; otherwise it is by the lowest column of just that name, or
    if there is none by the lowest that ends with it; and so in whatever order the columns were
    given. -/
theorem resolveSort_lowest (catalog schema table : String) (columns : List Column)
    (distinct : (columns.map (·.position)).Nodup) (d : Definition) (spec : String) :
    ∃ name descending, SortText spec name descending ∧
      ((∃ e, d.resolveSort (.ofColumns catalog schema table columns) spec = .error e) ↔
        name = "" ∨ ∀ x ∈ columns, ¬ name.toList <:+ x.name.toList) ∧
      (∀ k, d.resolveSort (.ofColumns catalog schema table columns) spec = .ok k ↔
        name ≠ "" ∧ Chosen columns name k.column ∧ k.descending = descending) ∧
      ∀ columns', columns.Perm columns' →
        d.resolveSort (.ofColumns catalog schema table columns') spec =
          d.resolveSort (.ofColumns catalog schema table columns) spec := by
  obtain ⟨name, descending, form⟩ := SortText.exists_form spec
  refine ⟨name, descending, form, ?_, fun k => ?_, fun columns' perm => ?_⟩
  · simp only [Definition.resolveSort_eq_error form, Table.mem_ofColumns, exists_and_left,
      exists_eq, and_true]
  · rw [Definition.resolveSort_eq_ok, form.parse_eq, Table.sortColumn?_ofColumns distinct,
      and_assoc, eq_comm (a := descending)]
  · rw [Table.ofColumns_perm perm distinct]

/-- Columns out of order, of which two end with the name of the third and one lies below it. -/
def scatteredColumns : List Column :=
  [⟨4, "sent_at", "timestamp", true, false⟩, eventAt, eventSeen]

/-- The table of these columns. -/
def scattered : Table := .ofColumns "" "public" "events" scatteredColumns

theorem resolveSort_lowest_scattered : (scatteredColumns.map (·.position)).Nodup ∧
    recent.resolveSort scattered "-at" = .ok ⟨eventAt, true⟩ ∧
    Chosen scatteredColumns "at" eventAt ∧
    recent.resolveSort scattered "_at" = .ok ⟨eventSeen, false⟩ ∧
    Chosen scatteredColumns "_at" eventSeen := by
  have distinct : (scatteredColumns.map (·.position)).Nodup := by decide
  have whole : recent.resolveSort scattered "-at" = .ok ⟨eventAt, true⟩ := by cbv
  have ending : recent.resolveSort scattered "_at" = .ok ⟨eventSeen, false⟩ := by cbv
  obtain ⟨name, _, form, -, chosen, -⟩ :=
    resolveSort_lowest "" "public" "events" scatteredColumns distinct recent "-at"
  obtain rfl : "at" = name := by cases form.parse_eq; rfl
  obtain ⟨name', _, form', -, chosen', -⟩ :=
    resolveSort_lowest "" "public" "events" scatteredColumns distinct recent "_at"
  obtain rfl : "_at" = name' := by cases form'.parse_eq; rfl
  exact ⟨distinct, whole, ((chosen _).1 whole).2.1, ending, ((chosen' _).1 ending).2.1⟩

end Introspect
