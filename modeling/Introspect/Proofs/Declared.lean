import Mathlib
import Introspect.Proofs.Canonical

/-! Declared queries: a query is what its definition says.

    What a definition says is told of its texts alone. A filter names a column before the colon and
    a comparison after it, a sort names the end of a column and its direction, and the mode is a
    word (`Query.Realizes`). A query that was resolved has one condition and one sort key for each of
    them, in their order: nothing was skipped, since nothing was refused. Its flags are those of the
    mode, but that a range alone already returns many rows, so how many rows there are can be told
    from the mode and the filters (`Query.Realizes.counts`). -/

namespace Introspect

variable {d : Definition} {ds : List Definition} {s : Schema} {t : Table} {q : Query}
  {f : Condition} {k : SortKey} {x : Column} {spec name w : String} {word : Option String}
  {mode : Option ResultMode}

/-! ### What a definition says -/

/-- The item is the first of the list with that key. -/
def FirstWith {α : Type} (key : α → String) (k : String) (xs : List α) (x : α) : Prop :=
  key x = k ∧ ∃ before after, xs = before ++ x :: after ∧ k ∉ before.map key

/-- Comparisons that a value may pass together with others. -/
def Comparison.ranges : List Comparison := [.lt, .lteq, .gt, .gteq]

/-- The condition is on the column that is named before the first colon, with the comparison that is
    named after it, or with equality if there is no colon. -/
def Condition.Realizes (f : Condition) (spec : String) (t : Table) : Prop :=
  ∃ column word, FilterText spec column word ∧ FirstWith Column.name column t.columns f.column ∧
    (word = none → f.comparison = .eq) ∧ ∀ w ∈ word, f.comparison.name = w

/-- The sort is descending just if there is a minus in front, and it is by a column whose name ends
    with what follows. -/
structure SortKey.Realizes (k : SortKey) (spec : String) (t : Table) : Prop where
  descending : k.descending = true ↔ spec.toList.head? = some '-'
  column : ∃ name, SortText spec name k.descending ∧ name ≠ "" ∧ k.column ∈ t.columns ∧
    name.toList <:+ k.column.name.toList

/-- Some condition of the query is for a range. -/
def Query.HasRange (q : Query) : Prop := ∃ f ∈ q.filters, f.comparison ∈ Comparison.ranges

/-- The definition leaves the mode open. -/
def Definition.ModeOpen (d : Definition) : Prop := d.mode = none ∨ d.mode = some ""

/-- The query is what the definition says on its table in the schema. -/
structure Query.Realizes (q : Query) (d : Definition) (s : Schema) : Prop where
  name : q.name = d.name
  table : FirstWith Table.name d.table s.tables q.table
  filters : List.Forall₂ (fun spec (f : Condition) => f.Realizes spec q.table) d.filters q.filters
  sorts : List.Forall₂ (fun spec (k : SortKey) => k.Realizes spec q.table) d.sorts q.sorts
  synthetic : q.synthetic = false
  one : q.returnsOne = true ↔ d.mode = some "one"
  paged : q.paged = true ↔ d.mode = some "paged"
  many : q.returnsMany = true ↔ q.HasRange ∨ d.mode = some "many" ∨ d.mode = some "paged"

/-! ### Words -/

theorem Comparison.ofName?_eq_some {c : Comparison} : ofName? w = some c ↔ c.name = w := by
  constructor
  · intro known
    simpa [ofName?] using List.find?_some known
  · rintro rfl
    exact ofName?_name c

theorem ResultMode.ofName?_eq_some {m : ResultMode} : ofName? w = some m ↔ m.name = w := by
  constructor
  · intro known
    simpa [ofName?] using List.find?_some known
  · rintro rfl
    exact ofName?_name m

theorem Comparison.ofWord_eq_ok {c : Comparison} (h : ofWord word = .ok c) :
    (word = none → c = .eq) ∧ ∀ w ∈ word, c.name = w := by
  cases word with
  | none =>
    cases h
    simp
  | some w =>
    rw [ofWord] at h
    cases known : ofName? w with
    | none => simp [known] at h
    | some c' =>
      rw [known] at h
      cases h
      simpa using ofName?_eq_some.1 known

theorem Comparison.mem_ranges {c : Comparison} : c ∈ ranges ↔ c.isRange = true := by
  cases c <;> decide

/-! ### Parts -/

/-- A sort is by a column that ends with what it names, be it the whole name. -/
theorem Table.sortColumn?_suffix (h : t.sortColumn? name = some x) :
    name ≠ "" ∧ name.toList <:+ x.name.toList := by
  rw [sortColumn?] at h
  split at h
  · cases h
  · rename_i something
    refine ⟨something, ?_⟩
    rcases Option.or_eq_some_iff.1 h with whole | ⟨-, ending⟩
    · rw [column?_name whole]
    · exact List.isSuffixOf_iff_suffix.1 (by simpa using List.find?_some ending)

theorem SortText.descending_iff {descending : Bool} (form : SortText spec name descending) :
    descending = true ↔ spec.toList.head? = some '-' := by
  cases form with
  | ascending bare => simpa using bare
  | descending => simp

namespace Definition

theorem realizes_of_resolveFilter (h : d.resolveFilter t spec = .ok f) : f.Realizes spec t := by
  obtain ⟨column, word, form⟩ := FilterText.exists_form spec
  rw [resolveFilter_eq_ok, form.parse_eq] at h
  obtain ⟨equality, named⟩ := Comparison.ofWord_eq_ok h.1
  exact ⟨column, word, form, find?_key_eq_some.1 h.2, equality, named⟩

theorem realizes_of_resolveSort (h : d.resolveSort t spec = .ok k) : k.Realizes spec t := by
  obtain ⟨name, descending, form⟩ := SortText.exists_form spec
  rw [resolveSort_eq_ok, form.parse_eq] at h
  obtain ⟨found, rfl⟩ := h
  obtain ⟨something, ends⟩ := Table.sortColumn?_suffix found
  exact ⟨form.descending_iff, name, form, something, Table.sortColumn?_mem found, ends⟩

/-- The mode of a definition is open, or it is named by its word. -/
theorem mode_of_resolveMode (h : d.resolveMode = .ok mode) :
    (mode = none ∧ d.ModeOpen) ∨ ∃ m, mode = some m ∧ d.mode = some m.name := by
  rw [resolveMode] at h
  cases given : d.mode with
  | none =>
    rw [given] at h
    cases h
    exact .inl ⟨rfl, .inl given⟩
  | some w =>
    rw [given] at h
    dsimp only at h
    split at h
    · rename_i empty
      cases h
      exact .inl ⟨rfl, .inr (empty ▸ given)⟩
    · cases known : ResultMode.ofName? w with
      | none => simp [known] at h
      | some m =>
        rw [known] at h
        cases h
        exact .inr ⟨m, rfl, by rw [ResultMode.ofName?_eq_some.1 known]⟩

/-- The mode that was resolved is the one that is named. -/
theorem mode_eq_some (h : d.resolveMode = .ok mode) (m : ResultMode) :
    mode = some m ↔ d.mode = some m.name := by
  rcases mode_of_resolveMode h with ⟨rfl, none | empty⟩ | ⟨m', rfl, named⟩
  · simp [none]
  · rw [empty]
    cases m <;> decide
  · rw [named]
    cases m <;> cases m' <;> decide

theorem hasRange_iff : q.HasRange ↔ q.filters.any (·.comparison.isRange) = true := by
  rw [List.any_eq_true, Query.HasRange]
  simp only [Comparison.mem_ranges]

/-- A query that was resolved is what its definition says. -/
theorem realizes_of_resolve (h : d.resolve s = .ok q) : q.Realizes d s := by
  obtain ⟨t, found, h⟩ := resolve_eq_ok.1 h
  obtain ⟨filters, sorts, mode, hf, hs, hm, rfl⟩ := resolveOn_eq_ok.1 h
  refine ⟨rfl, find?_key_eq_some.1 found, ?_, ?_, rfl, ?_, ?_, ?_⟩
  · -- filters
    exact hf.imp fun _ _ => realizes_of_resolveFilter
  · -- sorts
    exact hs.imp fun _ _ => realizes_of_resolveSort
  · -- one
    exact decide_eq_true_iff.trans (mode_eq_some hm .one)
  · -- paged
    exact decide_eq_true_iff.trans (mode_eq_some hm .paged)
  · -- many
    have many : mode = some .many ↔ d.mode = some "many" := mode_eq_some hm .many
    have paged : mode = some .paged ↔ d.mode = some "paged" := mode_eq_some hm .paged
    rw [hasRange_iff, ← many, ← paged]
    simp [toQuery, or_assoc]

/-- The mode of a definition that was resolved is open or one of three words. -/
theorem mode_cases (h : d.resolve s = .ok q) :
    d.ModeOpen ∨ d.mode = some "one" ∨ d.mode = some "many" ∨ d.mode = some "paged" := by
  obtain ⟨t, -, h⟩ := resolve_eq_ok.1 h
  obtain ⟨-, -, mode, -, -, hm, -⟩ := resolveOn_eq_ok.1 h
  rcases mode_of_resolveMode hm with ⟨-, left⟩ | ⟨m, -, named⟩
  · exact .inl left
  · rw [named]
    cases m <;> simp [ResultMode.name]

end Definition

/-! ### How many rows -/

/-- How many rows a query returns, by the mode of its definition and its filters. -/
structure Query.Counts (q : Query) (d : Definition) : Prop where
  one : q.cardinality = .one ↔ d.mode = some "one"
  paged : q.cardinality = .paged ↔ d.mode = some "paged"
  many : q.cardinality = .many ↔ d.mode = some "many" ∨ d.ModeOpen ∧ q.HasRange
  unspecified : q.cardinality = .unspecified ↔ d.ModeOpen ∧ ¬ q.HasRange

/-- The flags are read in an order: one row before a page, a page before many rows. -/
theorem Query.cardinality_iff (q : Query) :
    (q.cardinality = .one ↔ q.returnsOne = true) ∧
    (q.cardinality = .paged ↔ ¬ q.returnsOne = true ∧ q.paged = true) ∧
    (q.cardinality = .many ↔ ¬ q.returnsOne = true ∧ ¬ q.paged = true ∧ q.returnsMany = true) ∧
    (q.cardinality = .unspecified ↔
      ¬ q.returnsOne = true ∧ ¬ q.paged = true ∧ ¬ q.returnsMany = true) := by
  rw [cardinality]
  cases q.returnsOne with
  | true => simp
  | false =>
    cases q.paged with
    | true => simp
    | false => cases q.returnsMany <;> simp

theorem Query.Realizes.counts (h : q.Realizes d s)
    (known : d.ModeOpen ∨ d.mode = some "one" ∨ d.mode = some "many" ∨ d.mode = some "paged") :
    q.Counts d := by
  obtain ⟨one, paged, many, unspecified⟩ := q.cardinality_iff
  rw [h.one] at one
  rw [h.one, h.paged] at paged
  rw [h.one, h.paged, h.many] at many unspecified
  refine ⟨one, paged.trans ?_, many.trans ?_, unspecified.trans ?_⟩
  · -- paged
    rcases known with (none | empty) | named | named | named <;> simp [*]
  · -- many
    rcases known with (none | empty) | named | named | named <;> simp [*, Definition.ModeOpen]
  · -- unspecified
    rcases known with (none | empty) | named | named | named <;> simp [*, Definition.ModeOpen]

/-- COMPILED: each definition of a run that succeeds has its query, at the same place, which is what
    the definition says and returns as many rows as it asks for. -/
theorem resolve_realizes (ds : List Definition) (s : Schema) (qs : List Query)
    (h : resolve ds s = .ok qs) (i : ℕ) (hi : i < ds.length) :
    ∃ q, qs[i]? = some q ∧ q.Realizes ds[i] s ∧ q.Counts ds[i] := by
  obtain ⟨-, -, declared, each, rfl⟩ := resolve_eq_ok.1 h
  have place : i < declared.length := each.length_eq ▸ hi
  have resolved : ds[i].resolve s = .ok declared[i] := each.get hi place
  have realizes := Definition.realizes_of_resolve resolved
  refine ⟨declared[i], ?_, realizes, realizes.counts (Definition.mode_cases resolved)⟩
  rw [List.getElem?_append_left place, List.getElem?_eq_getElem place]

/-- A definition that asks for one row in spite of a range. -/
def latest : Definition := ⟨"latest", "events", ["at:lt", "id"], ["-at"], some "one"⟩

/-- What it defines. -/
def latestQuery : Query :=
  ⟨"latest", events, [⟨eventAt, .lt⟩, ⟨eventId, .eq⟩], [⟨eventAt, true⟩], true, true, false, false⟩

theorem resolve_realizes_latest :
    resolve [recent, latest] journal =
      .ok ([recentQuery, latestQuery] ++ journal.tables.map Query.lookup) ∧
    recentQuery.Realizes recent journal ∧ recentQuery.Counts recent ∧
    latestQuery.Realizes latest journal ∧ latestQuery.Counts latest := by
  have resolved : resolve [recent, latest] journal =
      .ok ([recentQuery, latestQuery] ++ journal.tables.map Query.lookup) := by cbv
  obtain ⟨q, first, realizes, counts⟩ := resolve_realizes _ _ _ resolved 0 (by decide)
  obtain rfl : recentQuery = q := Option.some.inj first
  obtain ⟨q, second, realizes', counts'⟩ := resolve_realizes _ _ _ resolved 1 (by decide)
  obtain rfl : latestQuery = q := Option.some.inj second
  exact ⟨resolved, realizes, counts, realizes', counts'⟩

end Introspect
