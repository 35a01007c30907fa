import Introspect.Proofs.Distinct
import Introspect.Proofs.Table

/-! Resolution: what it takes for definitions to resolve, and to what.

    What a run gives does not depend on the warnings that come up in it (`resolve_eq`), which are told
    apart from it (`resolveWarnings_eq`). A part of a definition resolves exactly when it names what
    there is, a definition exactly when all of its parts do (`Definition.resolveOn_eq_ok`), and a list
    of definitions exactly when each of them does and the exported names are free (`resolve_eq_ok`).
    The queries are then those of the definitions, in their order, and the lookup queries of all
    tables. A query is on a table of the schema and names columns of that table only. -/

namespace Introspect

variable {d : Definition} {ds : List Definition} {s : Schema} {t : Table} {q : Query}
  {spec : String}

/-! ### Parts of a definition -/

theorem Table.sortColumn?_mem {name : String} {x : Column} (h : t.sortColumn? name = some x) :
    x ∈ t.columns := by
  rw [Table.sortColumn?] at h
  split at h
  · cases h
  · rcases Option.or_eq_some_iff.1 h with h | ⟨-, h⟩
    · exact Table.column?_mem h
    · exact List.mem_of_find?_eq_some h

namespace Definition

theorem resolveFilter_eq_ok {f : Condition} : d.resolveFilter t spec = .ok f ↔
    (FilterSpec.parse spec).comparison = .ok f.comparison ∧
      t.column? (FilterSpec.parse spec).column = some f.column := by
  rw [resolveFilter]
  cases (FilterSpec.parse spec).comparison with
  | error word => simp
  | ok comparison =>
    cases t.column? (FilterSpec.parse spec).column with
    | none => simp
    | some x => cases f; simp [and_comm]

theorem resolveSort_eq (d : Definition) (t : Table) (spec : String) : d.resolveSort t spec =
    match t.sortColumn? (SortSpec.parse spec).column with
    | some c => .ok ⟨c, (SortSpec.parse spec).descending⟩
    | none => .error (.unknownColumn d.name t.name .sort spec) := by
  rw [resolveSort, runSort]
  cases t.sortColumn? (SortSpec.parse spec).column with
  | none => rfl
  | some c =>
    dsimp only
    split <;> rfl

theorem resolveSort_eq_ok {k : SortKey} : d.resolveSort t spec = .ok k ↔
    t.sortColumn? (SortSpec.parse spec).column = some k.column ∧
      (SortSpec.parse spec).descending = k.descending := by
  rw [resolveSort_eq]
  cases t.sortColumn? (SortSpec.parse spec).column with
  | none => simp
  | some x => cases k; simp

/-! ### Definitions -/

theorem resolveOn_eq (d : Definition) (t : Table) : d.resolveOn t =
    match errorsOf (d.filters.map (d.resolveFilter t)) ++ errorsOf (d.sorts.map (d.resolveSort t)),
      d.resolveMode with
    | [], .ok mode => .ok (d.toQuery t (valuesOf (d.filters.map (d.resolveFilter t)))
        (valuesOf (d.sorts.map (d.resolveSort t))) mode)
    | errors, .ok _ => .error errors
    | errors, .error e => .error (errors ++ [e]) := by
  have sorts : d.resolveSort t = fun spec => (d.runSort t spec).value := rfl
  rw [resolveOn, runOn, Logged.value_bind, Logged.value_mapM, ← sorts]
  cases errorsOf (d.filters.map (d.resolveFilter t)) ++
      errorsOf (d.sorts.map (d.resolveSort t)) with
  | nil =>
    cases d.resolveMode with
    | error e => rfl
    | ok mode =>
      dsimp only
      split <;> rfl
  | cons e errors =>
    cases d.resolveMode with
    | error e => rfl
    | ok mode => rfl

theorem resolve_eq (d : Definition) (s : Schema) : d.resolve s =
    match s.table? d.table with
    | none => .error [.unknownTable d.name d.table]
    | some t => d.resolveOn t := by
  rw [resolve, run]
  cases s.table? d.table with
  | none => rfl
  | some t => rfl

/-- A definition resolves on a table exactly when its filters, its sorts and its mode do. -/
theorem resolveOn_eq_ok : d.resolveOn t = .ok q ↔ ∃ filters sorts mode,
    List.Forall₂ (fun spec f => d.resolveFilter t spec = .ok f) d.filters filters ∧
      List.Forall₂ (fun spec k => d.resolveSort t spec = .ok k) d.sorts sorts ∧
      d.resolveMode = .ok mode ∧ q = d.toQuery t filters sorts mode := by
  rw [resolveOn_eq]
  constructor
  · intro h
    split at h
    · rename_i mode none hm
      obtain ⟨hf, hs⟩ := List.append_eq_nil_iff.1 none
      exact ⟨_, _, mode, errorsOf_map_eq_nil.1 hf, errorsOf_map_eq_nil.1 hs, hm,
        (Except.ok.inj h).symm⟩
    · cases h
    · cases h
  · rintro ⟨filters, sorts, mode, hf, hs, hm, rfl⟩
    have nf := valuesOf_map hf
    have ns := valuesOf_map hs
    have ef := errorsOf_map_eq_nil.2 (nf.symm ▸ hf)
    have es := errorsOf_map_eq_nil.2 (ns.symm ▸ hs)
    simp only [ef, es, nf, ns, hm, List.append_nil]

/-- A definition that does not resolve has errors. -/
theorem ne_nil_of_resolveOn {errors : List ResolveError} (h : d.resolveOn t = .error errors) :
    errors ≠ [] := by
  rw [resolveOn_eq] at h
  split at h
  · cases h
  · rename_i some
    cases h
    exact some
  · cases h
    simp

theorem resolve_eq_ok : d.resolve s = .ok q ↔
    ∃ t, s.table? d.table = some t ∧ d.resolveOn t = .ok q := by
  rw [resolve_eq]
  cases s.table? d.table with
  | none => simp
  | some t => simp

theorem ne_nil_of_resolve {errors : List ResolveError} (h : d.resolve s = .error errors) :
    errors ≠ [] := by
  rw [resolve_eq] at h
  split at h
  · cases h
    simp
  · exact ne_nil_of_resolveOn h

end Definition

/-! ### Runs -/

/-- The errors of an outcome that comes with several. -/
def reported {ε α : Type} : Except (List ε) α → List ε
  | .error errors => errors
  | .ok _ => []

/-- The errors about a definition, or about its name. -/
def useErrors (s : Schema) (use : Except ResolveError Definition) : List ResolveError :=
  reported (runUse s use).value

/-- All that is wrong with the definitions. -/
def resolveErrors (definitions : List Definition) (s : Schema) : List ResolveError :=
  (firstUses [] definitions).flatMap (useErrors s) ++ s.tables.filterMap (lookupClash? definitions)

theorem flatten_errorsOf {ε α : Type} : ∀ outcomes : List (Except (List ε) α),
    (errorsOf outcomes).flatten = outcomes.flatMap reported
  | [] => rfl
  | .error errors :: outcomes => congrArg (errors ++ ·) (flatten_errorsOf outcomes)
  | .ok _ :: outcomes => flatten_errorsOf outcomes

/-- The errors that a run collects are all that is wrong. -/
theorem flatten_uses (ds : List Definition) (s : Schema) :
    (errorsOf ((firstUses [] ds).map fun use => (runUse s use).value)).flatten ++
      s.tables.filterMap (lookupClash? ds) = resolveErrors ds s := by
  rw [flatten_errorsOf, List.flatMap_map]
  rfl

theorem useErrors_ok : useErrors s (.ok d) = reported (d.resolve s) := rfl

/-- Nothing is wrong with definitions exactly when their names are free and each of them
    resolves. -/
theorem useErrors_eq_nil : ∀ {ds : List Definition} {taken : List String},
    (firstUses taken ds).flatMap (useErrors s) = [] ↔
      Fresh (· ∈ taken) (ds.map (·.exported)) ∧ ∀ d ∈ ds, ∃ q, d.resolve s = .ok q
  | [], _ => by simp [firstUses, fresh_nil]
  | d :: ds, taken => by
    rw [firstUses, List.map_cons, fresh_mem_cons, List.forall_mem_cons]
    by_cases again : d.exported ∈ taken
    · simp [again, useErrors, runUse, reported]
    · rw [if_neg again, List.flatMap_cons, List.append_eq_nil_iff, useErrors_eq_nil, useErrors_ok]
      cases h : d.resolve s with
      | error errors =>
        have some := Definition.ne_nil_of_resolve h
        simp [reported, some]
      | ok q =>
        simp only [reported, true_and, again, not_false_eq_true]
        simp

/-- Where all names are free, each definition is the first with its name. -/
theorem firstUses_of_fresh : ∀ {ds : List Definition} {taken : List String},
    Fresh (· ∈ taken) (ds.map (·.exported)) → firstUses taken ds = ds.map .ok
  | [], _, _ => rfl
  | d :: ds, taken, h => by
    rw [List.map_cons, fresh_mem_cons] at h
    rw [firstUses, if_neg h.1, firstUses_of_fresh h.2, List.map_cons]

theorem lookupClash?_eq_none : lookupClash? ds t = none ↔
    ∀ d ∈ ds, d.exported ≠ (Query.lookup t).exported := by
  rw [lookupClash?, Option.map_eq_none_iff, List.find?_eq_none]
  simp [Query.exported, Query.lookup]

theorem resolveErrors_eq_nil : resolveErrors ds s = [] ↔ (ds.map (·.exported)).Nodup ∧
    (∀ t ∈ s.tables, ∀ d ∈ ds, d.exported ≠ (Query.lookup t).exported) ∧
      ∃ declared, List.Forall₂ (fun d q => d.resolve s = .ok q) ds declared := by
  rw [resolveErrors, List.append_eq_nil_iff, useErrors_eq_nil, fresh_mem_nil,
    List.filterMap_eq_nil_iff, exists_forall₂_iff, and_right_comm, and_assoc]
  simp only [lookupClash?_eq_none]

theorem resolve_eq (ds : List Definition) (s : Schema) : resolve ds s =
    match resolveErrors ds s with
    | [] => .ok (valuesOf (ds.map (·.resolve s)) ++ s.tables.map Query.lookup)
    | errors => .error errors := by
  have lookup (t : Table) : (runLookup t).value = Query.lookup t := by
    rw [runLookup]
    split <;> rfl
  rw [resolve, runAll, Logged.value_bind, Logged.value_mapM, flatten_uses]
  cases errors : resolveErrors ds s with
  | cons e es => rfl
  | nil =>
    have fresh := (useErrors_eq_nil.1 (List.append_eq_nil_iff.1 errors).1).1
    rw [firstUses_of_fresh fresh, List.map_map]
    simp only [Logged.value_bind, Logged.value_mapM, Logged.value_pure, lookup]
    rfl

/-- A run succeeds exactly when the exported names of the definitions are free and each definition
    resolves; its queries are those of the definitions and the lookup queries of all tables. -/
theorem resolve_eq_ok {qs : List Query} : resolve ds s = .ok qs ↔ (ds.map (·.exported)).Nodup ∧
    (∀ t ∈ s.tables, ∀ d ∈ ds, d.exported ≠ (Query.lookup t).exported) ∧
      ∃ declared, List.Forall₂ (fun d q => d.resolve s = .ok q) ds declared ∧
        qs = declared ++ s.tables.map Query.lookup := by
  rw [resolve_eq]
  constructor
  · intro h
    split at h
    · rename_i none
      obtain ⟨distinct, free, declared, each⟩ := resolveErrors_eq_nil.1 none
      rw [valuesOf_map each] at h
      exact ⟨distinct, free, declared, each, (Except.ok.inj h).symm⟩
    · cases h
  · rintro ⟨distinct, free, declared, each, rfl⟩
    have none := resolveErrors_eq_nil.2 ⟨distinct, free, declared, each⟩
    simp only [none, valuesOf_map each]

/-! ### Warnings -/

namespace Definition

theorem warnings_runSort (d : Definition) (t : Table) (spec : String) :
    (d.runSort t spec).warnings =
      match t.sortColumn? (SortSpec.parse spec).column with
      | some c =>
        if c.name = (SortSpec.parse spec).column then [] else [.suffixMatch d.name spec c.name]
      | none => [] := by
  rw [runSort]
  cases t.sortColumn? (SortSpec.parse spec).column with
  | none => rfl
  | some c =>
    by_cases same : c.name = (SortSpec.parse spec).column
    · simp [same]
    · simp only [ne_eq, same, not_false_eq_true, if_true, if_false]
      rfl

theorem warnings_runOn (d : Definition) (t : Table) : (d.runOn t).warnings =
    d.sorts.flatMap (fun spec => (d.runSort t spec).warnings) ++
      match d.resolveOn t with
      | .ok q => if q.returnsOne && q.filters.any (·.comparison.isRange) then
          [.onePrecedence d.name] else []
      | .error _ => [] := by
  have sorts : d.resolveSort t = fun spec => (d.runSort t spec).value := rfl
  rw [resolveOn_eq, runOn, Logged.warnings_bind, Logged.warnings_mapM, Logged.value_mapM, ← sorts]
  refine congrArg (_ ++ ·) ?_
  cases errorsOf (d.filters.map (d.resolveFilter t)) ++
      errorsOf (d.sorts.map (d.resolveSort t)) with
  | nil =>
    cases d.resolveMode with
    | error e => rfl
    | ok mode =>
      dsimp only
      split <;> rfl
  | cons e errors =>
    cases d.resolveMode with
    | error e => rfl
    | ok mode => rfl

/-- The warnings about a definition. -/
def warnings (d : Definition) (s : Schema) : List Warning := (d.run s).warnings

theorem warnings_of_unknown (unknown : s.table? d.table = none) : d.warnings s = [] := by
  rw [warnings, run, unknown]
  rfl

theorem warnings_of_known (found : s.table? d.table = some t) :
    d.warnings s = (d.runOn t).warnings := by
  rw [warnings, run, found]

end Definition

/-- The warnings about the use of a name; there is none about a name that is in use already. -/
def useWarnings (s : Schema) (use : Except ResolveError Definition) : List Warning :=
  (runUse s use).warnings

theorem warnings_runLookup (t : Table) : (runLookup t).warnings =
    if t.hasPrimaryKey then [] else [.noPrimaryKey t.name] := by
  rw [runLookup]
  cases t.hasPrimaryKey with
  | true => rfl
  | false => rfl

theorem resolveWarnings_eq (ds : List Definition) (s : Schema) : resolveWarnings ds s =
    (firstUses [] ds).flatMap (useWarnings s) ++
      match resolveErrors ds s with
      | [] => s.tables.flatMap fun t => (runLookup t).warnings
      | _ => [] := by
  rw [resolveWarnings, runAll, Logged.warnings_bind, Logged.warnings_mapM, Logged.value_mapM,
    flatten_uses]
  refine congrArg (_ ++ ·) ?_
  cases resolveErrors ds s with
  | cons e es => rfl
  | nil =>
    dsimp only
    rw [Logged.warnings_bind, Logged.warnings_mapM, Logged.warnings_pure, List.append_nil]

/-! ### Names, tables and columns of queries -/

theorem Definition.resolve_name (h : d.resolve s = .ok q) : q.name = d.name := by
  obtain ⟨t, -, h⟩ := resolve_eq_ok.1 h
  obtain ⟨filters, sorts, mode, -, -, -, rfl⟩ := resolveOn_eq_ok.1 h
  rfl

theorem Definition.resolve_exported (h : d.resolve s = .ok q) : d.exported = q.exported :=
  congrArg Name.exported (resolve_name h).symm

/-- The columns that a query names, in its filters and its sorts. -/
def Query.columns (q : Query) : List Column := q.filters.map (·.column) ++ q.sorts.map (·.column)

/-- The query of a definition is on a table of the schema and names columns of that table. -/
theorem Definition.resolve_mem (h : d.resolve s = .ok q) :
    q.table ∈ s.tables ∧ ∀ x ∈ q.columns, x ∈ q.table.columns := by
  obtain ⟨t, found, h⟩ := resolve_eq_ok.1 h
  obtain ⟨filters, sorts, mode, hf, hs, -, rfl⟩ := resolveOn_eq_ok.1 h
  refine ⟨List.mem_of_find?_eq_some found, fun x hx => ?_⟩
  rcases List.mem_append.1 hx with hx | hx
  · obtain ⟨f, hmem, rfl⟩ := List.mem_map.1 hx
    obtain ⟨spec, -, resolved⟩ := forall₂_mem_right hf hmem
    exact Table.column?_mem (resolveFilter_eq_ok.1 resolved).2
  · obtain ⟨k, hmem, rfl⟩ := List.mem_map.1 hx
    obtain ⟨spec, -, resolved⟩ := forall₂_mem_right hs hmem
    exact Table.sortColumn?_mem (resolveSort_eq_ok.1 resolved).1

theorem Query.columns_lookup (t : Table) : (Query.lookup t).columns = t.primaryKey := by
  simp [Query.columns, Query.lookup, Function.comp_def]

/-- Every query of a run is that of a definition or the lookup query of a table. -/
theorem mem_of_resolve {qs : List Query} (h : resolve ds s = .ok qs) (hq : q ∈ qs) :
    (∃ d ∈ ds, d.resolve s = .ok q) ∨ ∃ t ∈ s.tables, Query.lookup t = q := by
  obtain ⟨-, -, declared, each, rfl⟩ := resolve_eq_ok.1 h
  rcases List.mem_append.1 hq with hq | hq
  · exact .inl (forall₂_mem_right each hq)
  · exact .inr (List.mem_map.1 hq)

end Introspect
