import Mathlib
import Introspect.Proofs.Resolution
import Introspect.Proofs.Spec

/-! Acceptance: which definitions resolve.

    What a definition must be like is said of its texts and of the schema alone: its filters and its
    sorts have forms that name columns of its table, its mode is one of the known words
    (`Definition.Acceptable`), and the exported names of all definitions are free (`Acceptable`).
    Each part has one statement that says when it is refused and with which error, so that it
    resolves otherwise, and a list of definitions resolves exactly when it is acceptable
    (`resolve_accepts_iff`). -/

namespace Introspect

variable {d : Definition} {ds : List Definition} {s : Schema} {t : Table} {q : Query}
  {e : ResolveError} {spec column name : String} {word : Option String} {descending : Bool}

/-! ### What is acceptable -/

/-- A filter is the name of a column, alone or before a colon and the word for a comparison. -/
def Table.TakesFilter (t : Table) (spec : String) : Prop :=
  ∃ column word, FilterText spec column word ∧ (∃ x ∈ t.columns, x.name = column) ∧
    ∀ w ∈ word, w ∈ Comparison.words

/-- A sort is the end of the name of a column, but not the empty one, alone or after a minus. -/
def Table.TakesSort (t : Table) (spec : String) : Prop :=
  ∃ name descending, SortText spec name descending ∧ name ≠ "" ∧
    ∃ x ∈ t.columns, name.toList <:+ x.name.toList

/-- The table of a definition is one of the schema and takes its filters and its sorts, and its mode
    is absent, empty or known. -/
structure Definition.Acceptable (d : Definition) (s : Schema) : Prop where
  table : ∃ t, s.table? d.table = some t ∧ (∀ spec ∈ d.filters, t.TakesFilter spec) ∧
    ∀ spec ∈ d.sorts, t.TakesSort spec
  mode : ∀ w ∈ d.mode, w = "" ∨ w ∈ ResultMode.words

/-- Each definition is acceptable, and their exported names differ from each other and from those of
    the lookup queries. -/
structure Acceptable (ds : List Definition) (s : Schema) : Prop where
  names : (ds.map (·.exported)).Nodup
  lookups : ∀ d ∈ ds, ∀ t ∈ s.tables, d.exported ≠ Name.exported ("Get" ++ t.exported)
  each : ∀ d ∈ ds, d.Acceptable s

/-! ### Columns by name -/

theorem Table.sortColumn?_eq_none :
    t.sortColumn? name = none ↔ name = "" ∨ ∀ x ∈ t.columns, ¬ name.toList <:+ x.name.toList := by
  rw [sortColumn?]
  split
  · rename_i empty
    simp [empty]
  · rename_i something
    rw [Option.or_eq_none_iff, column?_eq_none, List.find?_eq_none]
    simp only [List.isSuffixOf_iff_suffix, something, false_or]
    constructor
    · exact fun h => h.2
    · intro h
      -- a column of just that name also ends with it
      exact ⟨fun x hx same => h x hx (same ▸ List.suffix_refl _), h⟩

/-! ### Parts that are refused -/

namespace Definition

/-- A filter is refused for its word, and if that is known for its column. -/
theorem resolveFilter_eq_error (form : FilterText spec column word) :
    d.resolveFilter t spec = .error e ↔
      (∃ w ∈ word, w ∉ Comparison.words ∧ e = .unknownComparison d.name spec w) ∨
        (∀ w ∈ word, w ∈ Comparison.words) ∧ (∀ x ∈ t.columns, x.name ≠ column) ∧
          e = .unknownColumn d.name t.name .filter spec := by
  rw [resolveFilter, form.parse_eq, ← Table.column?_eq_none]
  cases read : Comparison.ofWord word with
  | error v =>
    obtain ⟨given, unknown⟩ := Comparison.ofWord_eq_error.1 read
    rw [Option.mem_def] at given
    simp [given, unknown, eq_comm]
  | ok c =>
    have known : ∀ w ∈ word, w ∈ Comparison.words := by
      intro w given
      by_contra unknown
      rw [Comparison.ofWord_eq_error.2 ⟨given, unknown⟩] at read
      cases read
    have unrefused : ¬ ∃ w ∈ word, w ∉ Comparison.words ∧ e = .unknownComparison d.name spec w := by
      rintro ⟨w, given, unknown, -⟩
      exact unknown (known w given)
    rw [or_iff_right unrefused, and_iff_right known]
    cases t.column? column with
    | none => simp [eq_comm]
    | some x => simp

theorem resolveSort_eq_error (form : SortText spec name descending) :
    d.resolveSort t spec = .error e ↔
      (name = "" ∨ ∀ x ∈ t.columns, ¬ name.toList <:+ x.name.toList) ∧
        e = .unknownColumn d.name t.name .sort spec := by
  rw [resolveSort_eq, form.parse_eq, ← Table.sortColumn?_eq_none]
  cases t.sortColumn? name with
  | none => simp [eq_comm]
  | some x => simp

theorem resolveMode_eq_error : d.resolveMode = .error e ↔
    ∃ w ∈ d.mode, w ≠ "" ∧ w ∉ ResultMode.words ∧ e = .unknownMode d.name w := by
  rw [resolveMode]
  cases d.mode with
  | none => simp
  | some w =>
    by_cases empty : w = ""
    · simp [empty]
    · cases known : ResultMode.ofName? w with
      | none =>
        have unknown := ResultMode.ofName?_eq_none.1 known
        simp [empty, known, unknown, eq_comm]
      | some m =>
        have unrefused : w ∈ ResultMode.words := by
          by_contra unknown
          rw [ResultMode.ofName?_eq_none.2 unknown] at known
          cases known
        simp [empty, known, unrefused]

/-! ### Parts that resolve -/

theorem exists_resolveFilter : (∃ f, d.resolveFilter t spec = .ok f) ↔ t.TakesFilter spec := by
  rw [exists_ok_iff]
  constructor
  · intro fine
    obtain ⟨column, word, form⟩ := FilterText.exists_form spec
    have known : ∀ w ∈ word, w ∈ Comparison.words := by
      intro w given
      by_contra unknown
      exact fine _ ((resolveFilter_eq_error form).2 (.inl ⟨w, given, unknown, rfl⟩))
    refine ⟨column, word, form, ?_, known⟩
    by_contra missing
    have none : ∀ x ∈ t.columns, x.name ≠ column := fun x hx same => missing ⟨x, hx, same⟩
    exact fine _ ((resolveFilter_eq_error form).2 (.inr ⟨known, none, rfl⟩))
  · rintro ⟨column, word, form, ⟨x, hx, named⟩, known⟩ e refused
    rcases (resolveFilter_eq_error form).1 refused with ⟨w, given, unknown, -⟩ | ⟨-, none, -⟩
    · exact unknown (known w given)
    · exact none x hx named

theorem exists_resolveSort : (∃ k, d.resolveSort t spec = .ok k) ↔ t.TakesSort spec := by
  rw [exists_ok_iff]
  constructor
  · intro fine
    obtain ⟨name, descending, form⟩ := SortText.exists_form spec
    refine ⟨name, descending, form, ?_, ?_⟩
    · intro empty
      exact fine _ ((resolveSort_eq_error form).2 ⟨.inl empty, rfl⟩)
    · by_contra missing
      have none : ∀ x ∈ t.columns, ¬ name.toList <:+ x.name.toList :=
        fun x hx ends => missing ⟨x, hx, ends⟩
      exact fine _ ((resolveSort_eq_error form).2 ⟨.inr none, rfl⟩)
  · rintro ⟨name, descending, form, something, x, hx, ends⟩ e refused
    obtain ⟨empty | none, -⟩ := (resolveSort_eq_error form).1 refused
    · exact something empty
    · exact none x hx ends

theorem exists_resolveMode :
    (∃ m, d.resolveMode = .ok m) ↔ ∀ w ∈ d.mode, w = "" ∨ w ∈ ResultMode.words := by
  rw [exists_ok_iff]
  constructor
  · intro fine w given
    by_contra bad
    obtain ⟨something, unknown⟩ := not_or.1 bad
    exact fine _ (resolveMode_eq_error.2 ⟨w, given, something, unknown, rfl⟩)
  · rintro known e refused
    obtain ⟨w, given, something, unknown, -⟩ := resolveMode_eq_error.1 refused
    exact (known w given).elim something unknown

/-! ### Definitions -/

theorem exists_resolveOn : (∃ q, d.resolveOn t = .ok q) ↔
    (∀ spec ∈ d.filters, t.TakesFilter spec) ∧ (∀ spec ∈ d.sorts, t.TakesSort spec) ∧
      ∀ w ∈ d.mode, w = "" ∨ w ∈ ResultMode.words := by
  simp only [← exists_resolveFilter (d := d), ← exists_resolveSort (d := d),
    ← exists_resolveMode, ← exists_forall₂_iff]
  constructor
  · rintro ⟨q, h⟩
    obtain ⟨filters, sorts, mode, hf, hs, hm, -⟩ := resolveOn_eq_ok.1 h
    exact ⟨⟨filters, hf⟩, ⟨sorts, hs⟩, mode, hm⟩
  · rintro ⟨⟨filters, hf⟩, ⟨sorts, hs⟩, mode, hm⟩
    exact ⟨_, resolveOn_eq_ok.2 ⟨filters, sorts, mode, hf, hs, hm, rfl⟩⟩

/-- A definition resolves exactly when it is acceptable. -/
theorem exists_resolve : (∃ q, d.resolve s = .ok q) ↔ d.Acceptable s := by
  constructor
  · rintro ⟨q, h⟩
    obtain ⟨t, found, h⟩ := resolve_eq_ok.1 h
    obtain ⟨filters, sorts, mode⟩ := exists_resolveOn.1 ⟨q, h⟩
    exact ⟨⟨t, found, filters, sorts⟩, mode⟩
  · rintro ⟨⟨t, found, filters, sorts⟩, mode⟩
    obtain ⟨q, h⟩ := exists_resolveOn.2 ⟨filters, sorts, mode⟩
    exact ⟨q, resolve_eq_ok.2 ⟨t, found, h⟩⟩

end Definition

/-! ### Runs -/

theorem Acceptable.of_resolve {qs : List Query} (h : resolve ds s = .ok qs) : Acceptable ds s := by
  obtain ⟨names, lookups, declared, each, -⟩ := resolve_eq_ok.1 h
  refine ⟨names, fun d hd t ht => lookups t ht d hd, fun d hd => ?_⟩
  exact Definition.exists_resolve.1 (exists_forall₂_iff.1 ⟨declared, each⟩ d hd)

theorem Acceptable.resolve_eq {declared : List Query} (h : Acceptable ds s)
    (each : List.Forall₂ (fun d q => d.resolve s = .ok q) ds declared) :
    Introspect.resolve ds s = .ok (declared ++ s.tables.map Query.lookup) :=
  resolve_eq_ok.2 ⟨h.names, fun t ht d hd => h.lookups d hd t ht, declared, each, rfl⟩

theorem Acceptable.resolve (h : Acceptable ds s) : ∃ declared,
    List.Forall₂ (fun d q => d.resolve s = .ok q) ds declared ∧
      Introspect.resolve ds s = .ok (declared ++ s.tables.map Query.lookup) := by
  obtain ⟨declared, each⟩ :=
    exists_forall₂_iff.2 fun d hd => Definition.exists_resolve.2 (h.each d hd)
  exact ⟨declared, each, h.resolve_eq each⟩

theorem Acceptable.exists_ok (h : Acceptable ds s) : ∃ qs, Introspect.resolve ds s = .ok qs := by
  obtain ⟨declared, -, resolved⟩ := h.resolve
  exact ⟨_, resolved⟩

/-- ACCEPTED: definitions resolve exactly when they are acceptable, to one query for each of them, in
    their order and with its name, and the lookup queries of all tables after these. -/
theorem resolve_accepts_iff (ds : List Definition) (s : Schema) :
    ((∃ qs, resolve ds s = .ok qs) ↔ Acceptable ds s) ∧
    ∀ qs, resolve ds s = .ok qs → ∃ declared,
      List.Forall₂ (fun d q => d.resolve s = .ok q ∧ q.name = d.name) ds declared ∧
        qs = declared ++ s.tables.map Query.lookup := by
  refine ⟨⟨?_, ?_⟩, ?_⟩
  · rintro ⟨qs, h⟩
    exact .of_resolve h
  · intro h
    obtain ⟨declared, -, resolved⟩ := h.resolve
    exact ⟨_, resolved⟩
  · intro qs h
    obtain ⟨-, -, declared, each, rfl⟩ := resolve_eq_ok.1 h
    exact ⟨declared, each.imp fun _ _ h => ⟨h, Definition.resolve_name h⟩, rfl⟩

/-- Columns of events. -/
def eventId : Column := ⟨1, "id", "int8", false, true⟩

/-- The second of them, whose name ends with that of the third. -/
def eventSeen : Column := ⟨2, "seen_at", "timestamp", true, false⟩

/-- The third of them. -/
def eventAt : Column := ⟨3, "at", "timestamp", false, false⟩

/-- A table of events, in which a column is named with a colon. -/
def events : Table :=
  ⟨"", "public", "events", [eventId, eventSeen, eventAt, ⟨4, "at:eq", "text", false, false⟩],
    [eventId], []⟩

/-- A schema in which this table hides another of its name. -/
def journal : Schema := ⟨"public", [], [events, ⟨"", "audit", "events", [], [], []⟩]⟩

/-- A definition on events: filters with and without a comparison, sorts by the end of a name and by
    a whole one, and the empty mode. -/
def recent : Definition := ⟨"recent", "events", ["id", "at:gteq"], ["-n_at", "at"], some ""⟩

/-- What it defines. -/
def recentQuery : Query :=
  ⟨"recent", events, [⟨eventId, .eq⟩, ⟨eventAt, .gteq⟩], [⟨eventSeen, true⟩, ⟨eventAt, false⟩],
    false, true, false, false⟩

theorem resolve_accepts_journal :
    resolve [recent] journal = .ok (recentQuery :: journal.tables.map Query.lookup) ∧
    Acceptable [recent] journal ∧ ∃ declared,
      List.Forall₂ (fun d q => d.resolve journal = .ok q ∧ q.name = d.name) [recent] declared ∧
        recentQuery :: journal.tables.map Query.lookup =
          declared ++ journal.tables.map Query.lookup := by
  have resolved : resolve [recent] journal =
      .ok (recentQuery :: journal.tables.map Query.lookup) := by cbv
  obtain ⟨accepts, queries⟩ := resolve_accepts_iff [recent] journal
  exact ⟨resolved, accepts.1 ⟨_, resolved⟩, queries _ resolved⟩

end Introspect
