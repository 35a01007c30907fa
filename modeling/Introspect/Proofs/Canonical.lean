import Introspect.Proofs.Report

/-! Canonical definitions: a query that is written in full resolves to itself.

    A definition may leave a comparison out, name a column by the end of its name, or leave it to
    its filters whether many rows are returned. The definition that is written from a query
    (`Query.toDefinition`) leaves nothing out: it names each comparison, each column by its whole
    name, and the mode that the flags of the query stand for. It resolves to the query that it was
    written from (`Definition.resolve_toDefinition`), and no sort in it is matched by a suffix only,
    so that the definitions written from a run resolve to that run (`resolve_canonical`).

    A name that starts with a minus cannot be written as an ascending sort, since the minus would be
    taken off. In a filter there is no such danger: a column whose name has a colon in it is never
    found by a filter. -/

namespace Introspect

variable {d d' : Definition} {ds : List Definition} {s : Schema} {t : Table} {q : Query}
  {f : Condition} {k : SortKey} {x : Column} {spec name : String}

/-! ### Words -/

theorem Comparison.ofName?_name (c : Comparison) : ofName? c.name = some c := by
  cases c <;> rfl

theorem ResultMode.ofName?_name (m : ResultMode) : ofName? m.name = some m := by
  cases m <;> rfl

/-! ### Columns by their whole names -/

theorem Table.column?_name (h : t.column? name = some x) : x.name = name :=
  (find?_key_eq_some.1 h).1

/-- The column that a sort names is named by its whole name too: a column before it with the same
    name would also end as the sort says. -/
theorem Table.sortColumn?_name (h : t.sortColumn? name = some x) :
    t.sortColumn? x.name = some x := by
  rw [sortColumn?] at h
  split at h
  · cases h
  · rename_i something
    rcases Option.or_eq_some_iff.1 h with whole | ⟨-, ending⟩
    · rw [column?_name whole, sortColumn?, if_neg something, whole]
      rfl
    · obtain ⟨ends, before, after, parts, others⟩ := List.find?_eq_some_iff_append.1 ending
      have ends : name.toList <:+ x.name.toList := List.isSuffixOf_iff_suffix.1 ends
      have something' : x.name ≠ "" := by
        intro empty
        rw [empty] at ends
        exact something (String.toList_eq_nil_iff.1 (List.suffix_nil.1 ends))
      have whole : t.column? x.name = some x := by
        refine find?_key_eq_some.2 ⟨rfl, before, after, parts, fun met => ?_⟩
        obtain ⟨y, hy, same⟩ := List.mem_map.1 met
        have other := others y hy
        rw [same] at other
        simp [List.isSuffixOf_iff_suffix.2 ends] at other
      rw [sortColumn?, if_neg something', whole]
      rfl

/-! ### Parts of a query -/

/-- No column is named with a minus in front. -/
def Table.Bare (t : Table) : Prop := ∀ x ∈ t.columns, x.name.toList.head? ≠ some '-'

/-- A condition, as a filter in full. -/
def Condition.text (f : Condition) : String := f.column.name ++ ":" ++ f.comparison.name

/-- A sort key, as a sort in full. -/
def SortKey.text (k : SortKey) : String := (if k.descending then "-" else "") ++ k.column.name

/-- The mode that the flags of a query stand for. -/
def Query.mode (q : Query) : Option ResultMode :=
  if q.returnsOne then some .one
  else if q.paged then some .paged
  else if q.returnsMany then some .many
  else none

theorem SortKey.sortText (bare : k.column.name.toList.head? ≠ some '-') :
    SortText k.text k.column.name k.descending := by
  rw [text]
  cases k.descending with
  | false => simpa using SortText.ascending bare
  | true => exact .descending

namespace Definition

theorem resolveFilter_text (h : d.resolveFilter t spec = .ok f) :
    d'.resolveFilter t f.text = .ok f := by
  obtain ⟨column, word, form⟩ := FilterText.exists_form spec
  rw [resolveFilter_eq_ok, form.parse_eq] at h
  have named : f.column.name = column := Table.column?_name h.2
  have written : FilterText f.text f.column.name (some f.comparison.name) :=
    .compared (named ▸ form.free)
  rw [resolveFilter_eq_ok, written.parse_eq, Comparison.ofWord, Comparison.ofName?_name]
  exact ⟨rfl, named ▸ h.2⟩

theorem resolveSort_text (bare : t.Bare) (h : d.resolveSort t spec = .ok k) :
    d'.resolveSort t k.text = .ok k := by
  obtain ⟨found, -⟩ := resolveSort_eq_ok.1 h
  have written := SortKey.sortText (bare _ (Table.sortColumn?_mem found))
  rw [resolveSort_eq_ok, written.parse_eq]
  exact ⟨Table.sortColumn?_name found, rfl⟩

/-- No warning is given about a sort that is written in full. -/
theorem warnings_runSort_text (bare : t.Bare) (h : d.resolveSort t spec = .ok k) :
    (d'.runSort t k.text).warnings = [] := by
  obtain ⟨found, -⟩ := resolveSort_eq_ok.1 h
  have written := SortKey.sortText (bare _ (Table.sortColumn?_mem found))
  simp only [warnings_runSort, written.parse_eq, Table.sortColumn?_name found, if_true]

theorem resolveMode_toDefinition (q : Query) : q.toDefinition.resolveMode = .ok q.mode := by
  have mode : q.toDefinition.mode = q.mode.map ResultMode.name := by
    rw [Query.toDefinition, Query.mode]
    split_ifs <;> rfl
  rw [resolveMode, mode]
  cases q.mode with
  | none => rfl
  | some m => cases m <;> rfl

/-- The mode that the flags of a query stand for gives it the same flags: many rows are returned
    because of a filter, which is still there, or because of the mode. -/
theorem toQuery_mode {filters : List Condition} {sorts : List SortKey} {mode : Option ResultMode}
    (h : q = d.toQuery t filters sorts mode) :
    q.toDefinition.toQuery t filters sorts q.mode = q := by
  subst h
  cases mode with
  | none =>
    cases range : filters.any (·.comparison.isRange) with
    | true => simp [toQuery, Query.toDefinition, Query.mode, range]
    | false => simp [toQuery, Query.toDefinition, Query.mode, range]
  | some m =>
    cases m with
    | one => simp [toQuery, Query.toDefinition, Query.mode]
    | many => simp [toQuery, Query.toDefinition, Query.mode]
    | paged => simp [toQuery, Query.toDefinition, Query.mode]

/-! ### Definitions that are written from queries -/

/-- The parts of a query, each with what it was resolved from. -/
theorem parts_of_resolve (h : d.resolve s = .ok q) : s.table? d.table = some q.table ∧
    (∀ f ∈ q.filters, ∃ spec, d.resolveFilter q.table spec = .ok f) ∧
    (∀ k ∈ q.sorts, ∃ spec, d.resolveSort q.table spec = .ok k) ∧
    ∃ mode, q = d.toQuery q.table q.filters q.sorts mode := by
  obtain ⟨t, found, h⟩ := resolve_eq_ok.1 h
  obtain ⟨filters, sorts, mode, hf, hs, -, rfl⟩ := resolveOn_eq_ok.1 h
  refine ⟨found, fun f hmem => ?_, fun k hmem => ?_, mode, rfl⟩
  · obtain ⟨spec, -, resolved⟩ := forall₂_mem_right hf hmem
    exact ⟨spec, resolved⟩
  · obtain ⟨spec, -, resolved⟩ := forall₂_mem_right hs hmem
    exact ⟨spec, resolved⟩

theorem resolve_synthetic (h : d.resolve s = .ok q) : q.synthetic = false := by
  obtain ⟨-, -, -, mode, made⟩ := parts_of_resolve h
  rw [made, toQuery]

/-- The table of a query is found by its name. -/
theorem table?_toDefinition (h : d.resolve s = .ok q) :
    s.table? q.toDefinition.table = some q.table := by
  obtain ⟨found, -⟩ := parts_of_resolve h
  have named : q.table.name = d.table := (find?_key_eq_some.1 found).1
  rwa [← named] at found

/-- A query is what the definition that is written from it resolves to. -/
theorem resolve_toDefinition (bare : ∀ t ∈ s.tables, t.Bare) (h : d.resolve s = .ok q) :
    q.toDefinition.resolve s = .ok q := by
  have found := table?_toDefinition h
  obtain ⟨-, hf, hs, mode, made⟩ := parts_of_resolve h
  refine resolve_eq_ok.2 ⟨q.table, found, resolveOn_eq_ok.2
    ⟨q.filters, q.sorts, q.mode, ?_, ?_, resolveMode_toDefinition q, (toQuery_mode made).symm⟩⟩
  · -- filters
    change List.Forall₂ _ (q.filters.map Condition.text) q.filters
    rw [List.forall₂_map_left_iff, List.forall₂_same]
    intro f hmem
    obtain ⟨spec, resolved⟩ := hf f hmem
    exact resolveFilter_text resolved
  · -- sorts
    change List.Forall₂ _ (q.sorts.map SortKey.text) q.sorts
    rw [List.forall₂_map_left_iff, List.forall₂_same]
    intro k hmem
    obtain ⟨spec, resolved⟩ := hs k hmem
    exact resolveSort_text (bare _ (List.mem_of_find?_eq_some found)) resolved

/-- The definition that is written from a query gives no warning about a sort. -/
theorem suffixMatch_not_mem (bare : ∀ t ∈ s.tables, t.Bare) (h : d.resolve s = .ok q)
    {query spec column : String} : .suffixMatch query spec column ∉ q.toDefinition.warnings s := by
  have found := table?_toDefinition h
  obtain ⟨-, -, hs, -⟩ := parts_of_resolve h
  rw [warnings_of_known found, warnings_runOn]
  intro warned
  rcases List.mem_append.1 warned with warned | warned
  · obtain ⟨text, asked, warned⟩ := List.mem_flatMap.1 warned
    obtain ⟨k, hmem, rfl⟩ := List.mem_map.1 asked
    obtain ⟨spec, resolved⟩ := hs k hmem
    have none : (q.toDefinition.runSort q.table k.text).warnings = [] :=
      warnings_runSort_text (bare _ (List.mem_of_find?_eq_some found)) resolved
    exact absurd warned (none ▸ List.not_mem_nil)
  · -- the only other warning is about the result mode
    cases resolved : q.toDefinition.resolveOn q.table with
    | error errors => simp [resolved] at warned
    | ok q' =>
      rw [resolved] at warned
      dsimp only at warned
      split at warned
      · simp at warned
      · cases warned

end Definition

/-! ### Runs -/

/-- The queries of a run that are not lookup queries are those of its definitions. -/
theorem filter_declared {declared : List Query} {ts : List Table}
    (each : List.Forall₂ (fun d q => d.resolve s = .ok q) ds declared) :
    (declared ++ ts.map Query.lookup).filter (!·.synthetic) = declared := by
  have own : declared.filter (!·.synthetic) = declared := by
    rw [List.filter_eq_self]
    intro q hq
    obtain ⟨d, -, resolved⟩ := forall₂_mem_right each hq
    rw [Definition.resolve_synthetic resolved]
    rfl
  have lookups : (ts.map Query.lookup).filter (!·.synthetic) = [] := by
    simp [List.filter_eq_nil_iff, Query.lookup]
  rw [List.filter_append, own, lookups, List.append_nil]

/-- The definitions that are written from queries have the names of these queries, and resolve to
    them if the names are free. -/
theorem resolve_written {declared : List Query} (bare : ∀ t ∈ s.tables, t.Bare)
    (own : ∀ q ∈ declared, ∃ d ∈ ds, d.resolve s = .ok q)
    (distinct : (declared.map (·.exported)).Nodup)
    (free : ∀ t ∈ s.tables, ∀ q ∈ declared, q.exported ≠ (Query.lookup t).exported) :
    resolve (declared.map Query.toDefinition) s =
      .ok (declared ++ s.tables.map Query.lookup) := by
  refine resolve_eq_ok.2 ⟨?_, ?_, declared, ?_, rfl⟩
  · -- names
    rw [List.map_map]
    exact distinct
  · -- lookups
    intro t ht
    rw [List.forall_mem_map]
    exact free t ht
  · -- each
    rw [List.forall₂_map_left_iff, List.forall₂_same]
    intro q hq
    obtain ⟨d, -, resolved⟩ := own q hq
    exact Definition.resolve_toDefinition bare resolved

/-- No warning of a run over what is written is about a sort that is matched by a suffix. -/
theorem suffixMatch_not_mem_written {declared : List Query} (bare : ∀ t ∈ s.tables, t.Bare)
    (own : ∀ q ∈ declared, ∃ d ∈ ds, d.resolve s = .ok q) (query spec column : String) :
    .suffixMatch query spec column ∉ resolveWarnings (declared.map Query.toDefinition) s := by
  rw [resolveWarnings_eq]
  intro warned
  rcases List.mem_append.1 warned with warned | warned
  · obtain ⟨use, hu, warned⟩ := List.mem_flatMap.1 warned
    cases use with
    | error e => cases warned
    | ok d' =>
      obtain ⟨q, hq, rfl⟩ := List.mem_map.1 (mem_of_mem_firstUses hu)
      obtain ⟨d, -, resolved⟩ := own q hq
      exact Definition.suffixMatch_not_mem bare resolved warned
  · -- the only other warning is about tables without a primary key
    split at warned
    · simp [warnings_runLookup] at warned
    · cases warned

/-- CANONICAL: the definitions that are written from the queries of a run resolve to that run, and
    none of their sorts is matched by a suffix only. -/
theorem resolve_canonical (ds : List Definition) (s : Schema) (qs : List Query)
    (h : resolve ds s = .ok qs) (bare : ∀ t ∈ s.tables, t.Bare) :
    let written := (qs.filter (!·.synthetic)).map Query.toDefinition
    resolve written s = .ok qs ∧
      ∀ query spec column, .suffixMatch query spec column ∉ resolveWarnings written s := by
  intro written
  obtain ⟨distinct, free, declared, each, rfl⟩ := resolve_eq_ok.1 h
  have writes : written = declared.map Query.toDefinition := by
    rw [← filter_declared each]
  have own : ∀ q ∈ declared, ∃ d ∈ ds, d.resolve s = .ok q := fun q hq => forall₂_mem_right each hq
  have exported : ds.map (·.exported) = declared.map (·.exported) :=
    forall₂_map_eq each fun _ _ resolved => Definition.resolve_exported resolved
  have others : ∀ t ∈ s.tables, ∀ q ∈ declared, q.exported ≠ (Query.lookup t).exported := by
    intro t ht q hq
    obtain ⟨d, hd, resolved⟩ := own q hq
    rw [← Definition.resolve_exported resolved]
    exact free t ht d hd
  rw [writes]
  rw [exported] at distinct
  exact ⟨resolve_written bare own distinct others, suffixMatch_not_mem_written bare own⟩

/-- The definition that is written from the query of `recent`: the end of a name is completed, and
    the mode that followed from a filter is named. -/
def recentInFull : Definition :=
  ⟨"recent", "events", ["id:eq", "at:gteq"], ["-seen_at", "at"], some "many"⟩

theorem resolve_canonical_recent :
    resolve [recent] journal = .ok (recentQuery :: journal.tables.map Query.lookup) ∧
    (∀ t ∈ journal.tables, t.Bare) ∧
    resolve [recentInFull] journal = .ok (recentQuery :: journal.tables.map Query.lookup) ∧
    ∀ query spec column,
      .suffixMatch query spec column ∉ resolveWarnings [recentInFull] journal := by
  have resolved : resolve [recent] journal =
      .ok (recentQuery :: journal.tables.map Query.lookup) := by cbv
  have bare : ∀ t ∈ journal.tables, t.Bare := by
    simp only [Table.Bare]
    decide
  obtain ⟨again, unwarned⟩ := resolve_canonical _ _ _ resolved bare
  exact ⟨resolved, bare, again, unwarned⟩

end Introspect
