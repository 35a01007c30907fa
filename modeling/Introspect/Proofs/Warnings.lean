import Introspect.Proofs.Declared
import Introspect.Proofs.Report

/-! Warnings: every questionable choice is announced, and nothing else is.

    The events of a run are told of what resolving does (`RunEvents`). Definitions come first, one
    after another. One whose name was met before, or whose table is unknown, has no event. Of any
    other each sort has one that resolves to a column of another name, though the definition may be
    refused for something else; and if it is not refused, there is one more where a single row is
    asked for in spite of a range. Tables without a primary key come last, and only if the run
    succeeds. These events are the warnings, in this order (`runEvents_iff`), so a query that differs
    from what was written is always announced (`resolveWarnings_events`). -/

namespace Introspect

variable {d : Definition} {ds before : List Definition} {s : Schema} {t : Table} {q : Query}
  {f : Condition} {k : SortKey} {spec name : String} {specs taken : List String}
  {ws : List Warning} {qs : List Query}

/-! ### Events -/

/-- The words for comparisons that ask for a range. -/
def Comparison.rangeWords : List String := ["lt", "lteq", "gt", "gteq"]

namespace Definition

/-- The events about sorts on a table, in their order: one for each sort that resolves to a column of
    another name. -/
inductive SortEvents (d : Definition) (t : Table) : List String → List Warning → Prop
  | none : SortEvents d t [] []
  | refused {spec : String} {specs : List String} {e : ResolveError} {ws : List Warning}
      (refused : d.resolveSort t spec = .error e) (rest : SortEvents d t specs ws) :
      SortEvents d t (spec :: specs) ws
  | whole {spec : String} {specs : List String} {k : SortKey} {ws : List Warning}
      (resolved : d.resolveSort t spec = .ok k) (form : SortText spec k.column.name k.descending)
      (rest : SortEvents d t specs ws) : SortEvents d t (spec :: specs) ws
  | suffix {spec name : String} {specs : List String} {k : SortKey} {ws : List Warning}
      (resolved : d.resolveSort t spec = .ok k) (form : SortText spec name k.descending)
      (other : k.column.name ≠ name) (rest : SortEvents d t specs ws) :
      SortEvents d t (spec :: specs) (.suffixMatch d.name spec k.column.name :: ws)

/-- The definition resolves and asks for one row, though one of its filters is for a range. -/
structure Contradicts (d : Definition) (s : Schema) : Prop where
  resolves : ∃ q, d.resolve s = .ok q
  one : d.mode = some "one"
  range : ∃ spec ∈ d.filters, ∃ column, ∃ word ∈ Comparison.rangeWords,
    FilterText spec column (some word)

/-- The events about a definition that stands behind others. -/
inductive Events (before : List Definition) (s : Schema) (d : Definition) : List Warning → Prop
  | again (met : ∃ x ∈ before, x.exported = d.exported) : Events before s d []
  | lost (new : ∀ x ∈ before, x.exported ≠ d.exported) (unknown : ∀ t ∈ s.tables, t.name ≠ d.table) :
      Events before s d []
  | consistent {t : Table} {ws : List Warning} (new : ∀ x ∈ before, x.exported ≠ d.exported)
      (table : FirstWith Table.name d.table s.tables t) (sorts : d.SortEvents t d.sorts ws)
      (fine : ¬ d.Contradicts s) : Events before s d ws
  | contradictory {t : Table} {ws : List Warning} (new : ∀ x ∈ before, x.exported ≠ d.exported)
      (table : FirstWith Table.name d.table s.tables t) (sorts : d.SortEvents t d.sorts ws)
      (contradicts : d.Contradicts s) : Events before s d (ws ++ [.onePrecedence d.name])

end Definition

/-- The events about definitions, one after another. -/
inductive DeclaredEvents (s : Schema) : List Definition → List Definition → List Warning → Prop
  | nil {before : List Definition} : DeclaredEvents s before [] []
  | cons {before ds : List Definition} {d : Definition} {ws ws' : List Warning}
      (first : d.Events before s ws) (rest : DeclaredEvents s (before ++ [d]) ds ws') :
      DeclaredEvents s before (d :: ds) (ws ++ ws')

/-- The events about tables, in their order: one for each without a primary key. -/
def keyEvents (s : Schema) : List Warning :=
  (s.tables.filter fun t => t.primaryKey = []).map fun t => .noPrimaryKey t.name

/-- The events of a run: those about its definitions, and if it succeeds those about the tables. -/
inductive RunEvents (ds : List Definition) (s : Schema) : List Warning → Prop
  | refused {ws : List Warning} {errors : List ResolveError} (h : resolve ds s = .error errors)
      (declared : DeclaredEvents s [] ds ws) : RunEvents ds s ws
  | resolved {ws : List Warning} {qs : List Query} (h : resolve ds s = .ok qs)
      (declared : DeclaredEvents s [] ds ws) : RunEvents ds s (ws ++ keyEvents s)

/-! ### Sorts -/

namespace Definition

theorem warnings_runSort_of_error {e : ResolveError} (h : d.resolveSort t spec = .error e) :
    (d.runSort t spec).warnings = [] := by
  rw [resolveSort_eq] at h
  rw [warnings_runSort]
  cases found : t.sortColumn? (SortSpec.parse spec).column with
  | none => rfl
  | some x =>
    rw [found] at h
    cases h

theorem warnings_runSort_of_ok (h : d.resolveSort t spec = .ok k)
    (form : SortText spec name k.descending) : (d.runSort t spec).warnings =
      if k.column.name = name then [] else [.suffixMatch d.name spec k.column.name] := by
  rw [resolveSort_eq_ok, form.parse_eq] at h
  rw [warnings_runSort, form.parse_eq, h.1]

/-- A sort that resolves has a form with the direction of its key. -/
theorem exists_form_of_resolveSort (h : d.resolveSort t spec = .ok k) :
    ∃ name, SortText spec name k.descending := by
  obtain ⟨name, descending, form⟩ := SortText.exists_form spec
  rw [resolveSort_eq_ok, form.parse_eq] at h
  obtain ⟨-, rfl⟩ := h
  exact ⟨name, form⟩

/-- The warnings about sorts are their events. -/
theorem sortEvents_iff :
    d.SortEvents t specs ws ↔ specs.flatMap (fun spec => (d.runSort t spec).warnings) = ws := by
  constructor
  · intro h
    induction h with
    | none => rfl
    | refused refused _ ih => rw [List.flatMap_cons, warnings_runSort_of_error refused, ih]; rfl
    | whole resolved form _ ih =>
      rw [List.flatMap_cons, warnings_runSort_of_ok resolved form, if_pos rfl, ih]
      rfl
    | suffix resolved form other _ ih =>
      rw [List.flatMap_cons, warnings_runSort_of_ok resolved form, if_neg other, ih]
      rfl
  · rintro rfl
    induction specs with
    | nil => exact .none
    | cons spec specs ih =>
      rw [List.flatMap_cons]
      cases resolved : d.resolveSort t spec with
      | error e =>
        rw [warnings_runSort_of_error resolved]
        exact .refused resolved ih
      | ok k =>
        obtain ⟨name, form⟩ := exists_form_of_resolveSort resolved
        rw [warnings_runSort_of_ok resolved form]
        by_cases same : k.column.name = name
        · rw [if_pos same]
          exact .whole resolved (same ▸ form) ih
        · rw [if_neg same]
          exact .suffix resolved form same ih

/-! ### Contradictions -/

/-- A condition is for a range exactly if the filter's word asks for one. -/
theorem mem_ranges_iff (h : d.resolveFilter t spec = .ok f) : f.comparison ∈ Comparison.ranges ↔
    ∃ column, ∃ word ∈ Comparison.rangeWords, FilterText spec column (some word) := by
  have words : f.comparison ∈ Comparison.ranges ↔ f.comparison.name ∈ Comparison.rangeWords := by
    cases f.comparison <;> decide
  rw [words]
  obtain ⟨column, word, form⟩ := FilterText.exists_form spec
  rw [resolveFilter_eq_ok] at h
  constructor
  · intro range
    rw [form.parse_eq] at h
    obtain ⟨equality, named⟩ := Comparison.ofWord_eq_ok h.1
    cases word with
    | none =>
      rw [equality rfl] at range
      exact absurd range (by decide)
    | some w => exact ⟨column, w, named w rfl ▸ range, form⟩
  · rintro ⟨column, w, range, form⟩
    rw [form.parse_eq] at h
    rwa [(Comparison.ofWord_eq_ok h.1).2 w rfl]

theorem hasRange_iff_filters (h : d.resolveOn t = .ok q) : q.HasRange ↔
    ∃ spec ∈ d.filters, ∃ column, ∃ word ∈ Comparison.rangeWords,
      FilterText spec column (some word) := by
  obtain ⟨filters, sorts, mode, hf, -, -, rfl⟩ := resolveOn_eq_ok.1 h
  constructor
  · rintro ⟨f, hmem, range⟩
    obtain ⟨spec, asked, resolved⟩ := forall₂_mem_right hf hmem
    exact ⟨spec, asked, (mem_ranges_iff resolved).1 range⟩
  · rintro ⟨spec, asked, range⟩
    obtain ⟨f, hmem, resolved⟩ := forall₂_mem_right hf.flip asked
    exact ⟨f, hmem, (mem_ranges_iff resolved).2 range⟩

theorem contradicts_iff (found : s.table? d.table = some t) (h : d.resolveOn t = .ok q) :
    d.Contradicts s ↔ (q.returnsOne && q.filters.any (·.comparison.isRange)) = true := by
  have resolved : d.resolve s = .ok q := resolve_eq_ok.2 ⟨t, found, h⟩
  rw [Bool.and_eq_true, (realizes_of_resolve resolved).one, ← hasRange_iff, hasRange_iff_filters h]
  constructor
  · rintro ⟨-, one, range⟩
    exact ⟨one, range⟩
  · rintro ⟨one, range⟩
    exact ⟨⟨q, resolved⟩, one, range⟩

/-- The warnings about a definition whose table is known: those about its sorts, and one more if it
    contradicts itself. -/
theorem warnings_of_table (found : s.table? d.table = some t) :
    (d.Contradicts s → d.warnings s =
      d.sorts.flatMap (fun spec => (d.runSort t spec).warnings) ++ [.onePrecedence d.name]) ∧
    (¬ d.Contradicts s →
      d.warnings s = d.sorts.flatMap fun spec => (d.runSort t spec).warnings) := by
  rw [warnings_of_known found, warnings_runOn]
  cases resolved : d.resolveOn t with
  | error errors =>
    refine ⟨fun contradicts => ?_, fun _ => List.append_nil _⟩
    obtain ⟨q, h⟩ := contradicts.resolves
    obtain ⟨t', found', h⟩ := resolve_eq_ok.1 h
    rw [found] at found'
    cases found'
    rw [resolved] at h
    cases h
  | ok q =>
    dsimp only
    rw [contradicts_iff found resolved]
    constructor
    · intro contradicts
      rw [if_pos contradicts]
    · intro fine
      rw [if_neg fine]
      exact List.append_nil _

/-! ### Definitions -/

theorem events_of_met (met : ∃ x ∈ before, x.exported = d.exported) :
    d.Events before s ws ↔ [] = ws := by
  constructor
  · intro h
    obtain ⟨x, hx, same⟩ := met
    cases h with
    | again => rfl
    | lost new => exact absurd same (new x hx)
    | consistent new => exact absurd same (new x hx)
    | contradictory new => exact absurd same (new x hx)
  · rintro rfl
    exact .again met

theorem events_of_new (new : ∀ x ∈ before, x.exported ≠ d.exported) :
    d.Events before s ws ↔ d.warnings s = ws := by
  constructor
  · intro h
    cases h with
    | again met =>
      obtain ⟨x, hx, same⟩ := met
      exact absurd same (new x hx)
    | lost _ unknown =>
      have none : s.table? d.table = none :=
        List.find?_eq_none.2 fun t ht => by simpa using unknown t ht
      rw [warnings_of_unknown none]
    | consistent _ table sorts fine =>
      rw [(warnings_of_table (find?_key_eq_some.2 table)).2 fine, sortEvents_iff.1 sorts]
    | contradictory _ table sorts contradicts =>
      rw [(warnings_of_table (find?_key_eq_some.2 table)).1 contradicts, sortEvents_iff.1 sorts]
  · rintro rfl
    cases found : s.table? d.table with
    | none =>
      rw [warnings_of_unknown found]
      exact .lost new fun t ht named => List.find?_eq_none.1 found t ht (by simpa using named)
    | some t =>
      have table := find?_key_eq_some.1 found
      by_cases contradicts : d.Contradicts s
      · rw [(warnings_of_table found).1 contradicts]
        exact .contradictory new table (sortEvents_iff.2 rfl) contradicts
      · rw [(warnings_of_table found).2 contradicts]
        exact .consistent new table (sortEvents_iff.2 rfl) contradicts

end Definition

/-! ### Runs -/

/-- The warnings about definitions behind others are their events. -/
theorem declaredEvents_iff (names : ∀ k, k ∈ taken ↔ ∃ x ∈ before, x.exported = k) :
    DeclaredEvents s before ds ws ↔ (firstUses taken ds).flatMap (useWarnings s) = ws := by
  induction ds generalizing before taken ws with
  | nil =>
    constructor
    · rintro ⟨⟩
      rfl
    · rintro rfl
      exact .nil
  | cons d ds ih =>
    have names' : ∀ k, (∃ x ∈ before ++ [d], x.exported = k) ↔ k ∈ taken ∨ d.exported = k := by
      intro k
      simp [names, or_and_right, exists_or]
    rw [firstUses]
    by_cases met : d.exported ∈ taken
    · have same : ∀ k, k ∈ taken ↔ ∃ x ∈ before ++ [d], x.exported = k := by
        intro k
        rw [names', or_iff_left_of_imp fun again => again ▸ met]
      have none : useWarnings s (.error (.duplicateQuery d.name)) = [] := rfl
      rw [if_pos met, List.flatMap_cons, none, List.nil_append, ← ih same]
      constructor
      · rintro (_ | ⟨first, rest⟩)
        obtain rfl := (Definition.events_of_met ((names _).1 met)).1 first
        exact rest
      · intro rest
        exact .cons (.again ((names _).1 met)) rest
    · have more : ∀ k, k ∈ d.exported :: taken ↔ ∃ x ∈ before ++ [d], x.exported = k := by
        intro k
        rw [names', List.mem_cons, or_comm, eq_comm]
      have new : ∀ x ∈ before, x.exported ≠ d.exported :=
        fun x hx same => met ((names _).2 ⟨x, hx, same⟩)
      have own : useWarnings s (.ok d) = d.warnings s := rfl
      rw [if_neg met, List.flatMap_cons, own]
      constructor
      · rintro (_ | ⟨first, rest⟩)
        rw [(Definition.events_of_new new).1 first, (ih more).1 rest]
      · rintro rfl
        exact .cons ((Definition.events_of_new new).2 rfl) ((ih more).2 rfl)

theorem keyEvents_eq (s : Schema) :
    keyEvents s = s.tables.flatMap fun t => (runLookup t).warnings := by
  rw [keyEvents]
  induction s.tables with
  | nil => rfl
  | cons t ts ih =>
    rw [List.flatMap_cons, warnings_runLookup, ← ih]
    by_cases empty : t.primaryKey = []
    · simp [Table.hasPrimaryKey, empty]
    · simp [Table.hasPrimaryKey, empty]

theorem resolveWarnings_of_ok (h : resolve ds s = .ok qs) :
    resolveWarnings ds s = (firstUses [] ds).flatMap (useWarnings s) ++ keyEvents s := by
  rw [resolve_eq] at h
  rw [resolveWarnings_eq, keyEvents_eq]
  cases errors : resolveErrors ds s with
  | nil => rfl
  | cons e es =>
    rw [errors] at h
    cases h

theorem resolveWarnings_of_error {errors : List ResolveError} (h : resolve ds s = .error errors) :
    resolveWarnings ds s = (firstUses [] ds).flatMap (useWarnings s) := by
  rw [resolve_eq] at h
  rw [resolveWarnings_eq]
  cases errors' : resolveErrors ds s with
  | nil =>
    rw [errors'] at h
    cases h
  | cons e es => exact List.append_nil _

/-- The warnings of a run are its events. -/
theorem runEvents_iff : RunEvents ds s ws ↔ resolveWarnings ds s = ws := by
  have declared {ws : List Warning} := @declaredEvents_iff ds [] s [] ws (by simp)
  cases h : resolve ds s with
  | ok qs =>
    rw [resolveWarnings_of_ok h]
    constructor
    · rintro (⟨refused, -⟩ | ⟨-, own⟩)
      · rw [h] at refused
        cases refused
      · rw [declared.1 own]
    · rintro rfl
      exact .resolved h (declared.2 rfl)
  | error errors =>
    rw [resolveWarnings_of_error h, ← declared]
    constructor
    · rintro (⟨-, own⟩ | ⟨resolved, -⟩)
      · exact own
      · rw [h] at resolved
        cases resolved
    · exact .refused h

/-- No definition of a run that succeeds is behind one of its name. -/
theorem mem_firstUses_of_resolve (h : resolve ds s = .ok qs) (hd : d ∈ ds) :
    .ok d ∈ firstUses [] ds := by
  obtain ⟨distinct, -⟩ := resolve_eq_ok.1 h
  rw [firstUses_of_fresh (fresh_mem_nil.2 distinct)]
  exact List.mem_map_of_mem hd

/-- A sort lands on the column that it names in full, or else there is an event. -/
theorem sorts_announced (h : resolve ds s = .ok qs) (hd : d ∈ ds) (resolved : d.resolve s = .ok q) :
    List.Forall₂ (fun spec (k : SortKey) => SortText spec k.column.name k.descending ∨
      .suffixMatch d.name spec k.column.name ∈ resolveWarnings ds s) d.sorts q.sorts := by
  obtain ⟨t, found, on⟩ := Definition.resolve_eq_ok.1 resolved
  obtain ⟨filters, sorts, mode, -, hs, -, rfl⟩ := Definition.resolveOn_eq_ok.1 on
  have each := (List.forall₂_and_left d.sorts sorts).2 ⟨fun spec asked => asked, hs⟩
  refine each.imp fun spec k ⟨asked, lands⟩ => ?_
  obtain ⟨name, form⟩ := Definition.exists_form_of_resolveSort lands
  by_cases same : k.column.name = name
  · exact .inl (same ▸ form)
  · have warned : .suffixMatch d.name spec k.column.name ∈ d.warnings s := by
      rw [Definition.warnings_of_known found, Definition.warnings_runOn]
      refine List.mem_append_left _ (List.mem_flatMap.2 ⟨spec, asked, ?_⟩)
      rw [Definition.warnings_runSort_of_ok lands form, if_neg same]
      exact List.mem_singleton_self _
    right
    rw [resolveWarnings_eq]
    exact List.mem_append_left _ (List.mem_flatMap.2 ⟨.ok d, mem_firstUses_of_resolve h hd, warned⟩)

theorem lookup_announced (h : resolve ds s = .ok qs) (ht : t ∈ s.tables)
    (free : (Query.lookup t).filters = []) : .noPrimaryKey t.name ∈ resolveWarnings ds s := by
  rw [resolveWarnings_of_ok h]
  refine List.mem_append_right _ (List.mem_map.2 ⟨t, List.mem_filter.2 ⟨ht, ?_⟩, rfl⟩)
  exact decide_eq_true (List.map_eq_nil_iff.1 free)

/-- ANNOUNCED: the warnings of a run are its events, in their order. So every query of a run that
    succeeds is that of a definition, each sort of which names its column in full or is announced, or
    it is the lookup query of a table, which is announced if it has no filter. -/
theorem resolveWarnings_events (ds : List Definition) (s : Schema) :
    (∀ ws, RunEvents ds s ws ↔ resolveWarnings ds s = ws) ∧
    ∀ qs, resolve ds s = .ok qs → ∀ q ∈ qs,
      (∃ d ∈ ds, d.resolve s = .ok q ∧ List.Forall₂ (fun spec (k : SortKey) =>
        SortText spec k.column.name k.descending ∨
          .suffixMatch d.name spec k.column.name ∈ resolveWarnings ds s) d.sorts q.sorts) ∨
      ∃ t ∈ s.tables, q = Query.lookup t ∧ q.sorts = [] ∧
        (q.filters = [] → .noPrimaryKey t.name ∈ resolveWarnings ds s) := by
  refine ⟨fun ws => runEvents_iff, fun qs h q hq => ?_⟩
  rcases mem_of_resolve h hq with ⟨d, hd, resolved⟩ | ⟨t, ht, rfl⟩
  · exact .inl ⟨d, hd, resolved, sorts_announced h hd resolved⟩
  · exact .inr ⟨t, ht, rfl, rfl, lookup_announced h ht⟩

/-- A definition that asks for one row in spite of a range and sorts by ends of a name, but is refused
    for a filter. -/
def hasty : Definition := ⟨"hasty", "events", ["id:gt", "when"], ["-n_at", "_at"], some "one"⟩

/-- A run that succeeds has events of all kinds. Where another definition is refused, the sorts have
    theirs still, and so does what comes after it, but not the tables. -/
theorem resolveWarnings_events_journal :
    RunEvents [recent, latest] journal [.suffixMatch "recent" "-n_at" "seen_at",
      .onePrecedence "latest", .noPrimaryKey "events"] ∧
    RunEvents [recent, hasty, .new "Recent" "events", latest] journal
      [.suffixMatch "recent" "-n_at" "seen_at", .suffixMatch "hasty" "-n_at" "seen_at",
        .suffixMatch "hasty" "_at" "seen_at", .onePrecedence "latest"] ∧
    ∃ d ∈ [recent, latest], d.resolve journal = .ok recentQuery ∧
      List.Forall₂ (fun spec (k : SortKey) => SortText spec k.column.name k.descending ∨
        .suffixMatch d.name spec k.column.name ∈ resolveWarnings [recent, latest] journal)
        d.sorts recentQuery.sorts := by
  obtain ⟨events, announced⟩ := resolveWarnings_events [recent, latest] journal
  obtain ⟨events', -⟩ :=
    resolveWarnings_events [recent, hasty, .new "Recent" "events", latest] journal
  have resolved : resolve [recent, latest] journal =
      .ok ([recentQuery, latestQuery] ++ journal.tables.map Query.lookup) := by cbv
  refine ⟨(events _).2 (by cbv), (events' _).2 (by cbv), ?_⟩
  rcases announced _ resolved recentQuery (by simp) with declared | ⟨t, -, lookup, -⟩
  · exact declared
  · cases congrArg Query.synthetic lookup

end Introspect
