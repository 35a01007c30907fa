import Introspect.Proofs.Acceptance

/-! Reports: what the errors of a run say, and what they leave out.

    An error is about a definition at its place in the list. If the exported name was met before,
    the name is all that is reported. Otherwise all faults of the definition are, and so is its name
    if a lookup query has it (`mem_resolveErrors`). So every error is true of the definition that it
    names, and the definitions that no error names resolve (`report_sound_sufficient`).

    What is not looked at is not reported either. A definition whose name was met before may have
    faults that come to light only when the earlier one is gone: they are missing from the report,
    unless the earlier one has them too (`reported_alone_iff`). -/

namespace Introspect

variable {d : Definition} {ds : List Definition} {s : Schema} {t : Table} {e : ResolveError}

/-! ### Faults of a definition -/

namespace Definition

/-- What is wrong with a definition apart from its name. -/
def faults (d : Definition) (s : Schema) : List ResolveError := reported (d.resolve s)

/-- The faults that a definition can have: there is no table of the name, or the table has no column
    for a filter or a sort, or a word names no comparison or no mode. -/
inductive Fault (d : Definition) (s : Schema) : ResolveError → Prop
  | table (unknown : ∀ t ∈ s.tables, t.name ≠ d.table) : Fault d s (.unknownTable d.name d.table)
  | comparison {t : Table} {spec column w : String} (found : s.table? d.table = some t)
      (asked : spec ∈ d.filters) (form : FilterText spec column (some w))
      (unknown : w ∉ Comparison.words) : Fault d s (.unknownComparison d.name spec w)
  | filter {t : Table} {spec column : String} {word : Option String}
      (found : s.table? d.table = some t) (asked : spec ∈ d.filters)
      (form : FilterText spec column word) (known : ∀ w ∈ word, w ∈ Comparison.words)
      (missing : ∀ x ∈ t.columns, x.name ≠ column) :
      Fault d s (.unknownColumn d.name t.name .filter spec)
  | sort {t : Table} {spec name : String} {descending : Bool} (found : s.table? d.table = some t)
      (asked : spec ∈ d.sorts) (form : SortText spec name descending)
      (missing : name = "" ∨ ∀ x ∈ t.columns, ¬ name.toList <:+ x.name.toList) :
      Fault d s (.unknownColumn d.name t.name .sort spec)
  | mode {t : Table} {w : String} (found : s.table? d.table = some t) (given : d.mode = some w)
      (something : w ≠ "") (unknown : w ∉ ResultMode.words) : Fault d s (.unknownMode d.name w)

theorem reported_resolveOn : reported (d.resolveOn t) =
    errorsOf (d.filters.map (d.resolveFilter t)) ++ errorsOf (d.sorts.map (d.resolveSort t)) ++
      errorsOf [d.resolveMode] := by
  rw [resolveOn_eq]
  generalize errorsOf (d.filters.map _) ++ errorsOf (d.sorts.map _) = errors
  cases d.resolveMode with
  | error e =>
    cases errors with
    | nil => rfl
    | cons e' errors => rfl
  | ok m =>
    cases errors with
    | nil => rfl
    | cons e' errors => exact (List.append_nil _).symm

theorem mem_reported_resolveOn : e ∈ reported (d.resolveOn t) ↔
    (∃ spec ∈ d.filters, d.resolveFilter t spec = .error e) ∨
      (∃ spec ∈ d.sorts, d.resolveSort t spec = .error e) ∨ d.resolveMode = .error e := by
  have mode : e ∈ errorsOf [d.resolveMode] ↔ d.resolveMode = .error e := by
    cases d.resolveMode with
    | error e' => simp [errorsOf, eq_comm]
    | ok m => simp [errorsOf]
  rw [reported_resolveOn, List.mem_append, List.mem_append, mem_errorsOf_map, mem_errorsOf_map,
    mode, or_assoc]

/-- The errors of a definition are its faults, each of them and no others. -/
theorem mem_faults : e ∈ d.faults s ↔ d.Fault s e := by
  rw [faults, resolve_eq]
  constructor
  · intro h
    cases found : s.table? d.table with
    | none =>
      rw [found] at h
      obtain rfl := List.mem_singleton.1 h
      exact .table fun t ht named => List.find?_eq_none.1 found t ht (by simpa using named)
    | some t =>
      rw [found] at h
      rcases mem_reported_resolveOn.1 h with ⟨spec, asked, refused⟩ | ⟨spec, asked, refused⟩ | refused
      · obtain ⟨column, word, form⟩ := FilterText.exists_form spec
        rcases (resolveFilter_eq_error form).1 refused with
          ⟨w, given, unknown, rfl⟩ | ⟨known, missing, rfl⟩
        · exact .comparison found asked (Option.mem_def.1 given ▸ form) unknown
        · exact .filter found asked form known missing
      · obtain ⟨name, descending, form⟩ := SortText.exists_form spec
        obtain ⟨missing, rfl⟩ := (resolveSort_eq_error form).1 refused
        exact .sort found asked form missing
      · obtain ⟨w, given, something, unknown, rfl⟩ := resolveMode_eq_error.1 refused
        exact .mode found given something unknown
  · intro fault
    cases fault with
    | table unknown =>
      have none : s.table? d.table = none :=
        List.find?_eq_none.2 fun t ht => by simpa using unknown t ht
      rw [none]
      exact List.mem_singleton_self _
    | @comparison t spec column w found asked form unknown =>
      rw [found]
      refine mem_reported_resolveOn.2 (.inl ⟨spec, asked, ?_⟩)
      exact (resolveFilter_eq_error form).2 (.inl ⟨w, rfl, unknown, rfl⟩)
    | @filter t spec column word found asked form known missing =>
      rw [found]
      refine mem_reported_resolveOn.2 (.inl ⟨spec, asked, ?_⟩)
      exact (resolveFilter_eq_error form).2 (.inr ⟨known, missing, rfl⟩)
    | @sort t spec name descending found asked form missing =>
      rw [found]
      refine mem_reported_resolveOn.2 (.inr (.inl ⟨spec, asked, ?_⟩))
      exact (resolveSort_eq_error form).2 ⟨missing, rfl⟩
    | @mode t w found given something unknown =>
      rw [found]
      refine mem_reported_resolveOn.2 (.inr (.inr ?_))
      exact resolveMode_eq_error.2 ⟨w, given, something, unknown, rfl⟩

theorem Fault.query (h : d.Fault s e) : e.query = d.name := by
  cases h <;> rfl

theorem Fault.ne_duplicateQuery {name : String} (h : d.Fault s e) : e ≠ .duplicateQuery name := by
  cases h <;> simp

theorem exists_resolve_of_faults (h : d.faults s = []) : ∃ q, d.resolve s = .ok q := by
  rw [faults] at h
  cases resolved : d.resolve s with
  | ok q => exact ⟨q, rfl⟩
  | error errors =>
    rw [resolved] at h
    exact absurd h (ne_nil_of_resolve resolved)

/-- The exported name is that of the lookup query of a table. -/
def TakesLookup (d : Definition) (s : Schema) : Prop :=
  ∃ t ∈ s.tables, d.exported = Name.exported ("Get" ++ t.exported)

end Definition

/-! ### Errors of a run -/

theorem mem_firstUses {o : Except ResolveError Definition} :
    ∀ {ds : List Definition} {taken : List String}, o ∈ firstUses taken ds ↔
      ∃ before d after, ds = before ++ d :: after ∧
        o = if d.exported ∈ taken ∨ d.exported ∈ before.map (·.exported) then
          .error (.duplicateQuery d.name) else .ok d
  | [], taken => by simp [firstUses]
  | d :: ds, taken => by
    rw [firstUses, exists_place_cons]
    split
    · rename_i again
      have met (before : List Definition) (x : Definition) :
          x.exported ∈ taken ∨ x.exported ∈ (d :: before).map (·.exported) ↔
            x.exported ∈ taken ∨ x.exported ∈ before.map (·.exported) := by
        rw [List.map_cons, List.mem_cons, or_left_comm, or_iff_right_of_imp]
        exact fun same => .inl (same ▸ again)
      simp only [List.mem_cons, mem_firstUses, met, again, true_or, if_true]
    · rename_i new
      have first : ¬ (d.exported ∈ taken ∨ d.exported ∈ ([] : List Definition).map (·.exported)) := by
        simpa using new
      rw [List.mem_cons, mem_firstUses, if_neg first]
      simp only [met_cons]

theorem mem_of_mem_firstUses {taken : List String} (h : .ok d ∈ firstUses taken ds) : d ∈ ds := by
  obtain ⟨before, d', after, rfl, outcome⟩ := mem_firstUses.1 h
  split at outcome
  · cases outcome
  · cases outcome
    simp

theorem reported_resolve : reported (resolve ds s) = resolveErrors ds s := by
  rw [resolve_eq]
  split
  · rename_i none
    exact none.symm
  · rfl

/-- Errors of a run are about a definition at its place: the name if it was met before, else all
    faults, and the name if a lookup query has it. -/
theorem mem_resolveErrors : e ∈ resolveErrors ds s ↔ ∃ before d after, ds = before ++ d :: after ∧
    (d.exported ∈ before.map (·.exported) ∧ e = .duplicateQuery d.name ∨
      d.exported ∉ before.map (·.exported) ∧
        (e ∈ d.faults s ∨ d.TakesLookup s ∧ e = .duplicateQuery d.name)) := by
  rw [resolveErrors, List.mem_append, List.mem_flatMap, List.mem_filterMap]
  constructor
  · rintro (⟨o, ho, he⟩ | ⟨t, ht, clash⟩)
    · obtain ⟨before, d, after, rfl, rfl⟩ := mem_firstUses.1 ho
      refine ⟨before, d, after, rfl, ?_⟩
      split at he
      · rename_i met
        exact .inl ⟨met.resolve_left (by simp), List.mem_singleton.1 he⟩
      · rename_i new
        exact .inr ⟨fun met => new (.inr met), .inl he⟩
    · rw [lookupClash?, Option.map_eq_some_iff] at clash
      obtain ⟨d, found, rfl⟩ := clash
      obtain ⟨taken, before, after, rfl, new⟩ := find?_key_eq_some.1 found
      rw [← taken] at new
      exact ⟨before, d, after, rfl, .inr ⟨new, .inr ⟨⟨t, ht, taken⟩, rfl⟩⟩⟩
  · rintro ⟨before, d, after, rfl, ⟨met, rfl⟩ | ⟨new, he | ⟨⟨t, ht, taken⟩, rfl⟩⟩⟩
    · refine .inl ⟨.error (.duplicateQuery d.name), mem_firstUses.2 ?_, List.mem_singleton_self _⟩
      exact ⟨before, d, after, rfl, (if_pos (.inr met)).symm⟩
    · refine .inl ⟨.ok d, mem_firstUses.2 ?_, he⟩
      exact ⟨before, d, after, rfl, (if_neg (by simpa using new)).symm⟩
    · refine .inr ⟨t, ht, ?_⟩
      have found : (before ++ d :: after).find?
          (·.exported = Name.exported (Query.lookupName t)) = some d := by
        rw [taken] at new
        exact find?_key_eq_some.2 ⟨taken, before, after, rfl, new⟩
      rw [lookupClash?, found]
      rfl

/-- What is wrong with a definition in a run: it has a fault, or its exported name is that of a
    definition before it or of a lookup query. -/
inductive Definition.Defect (before : List Definition) (s : Schema) (d : Definition) :
    ResolveError → Prop
  | fault {e : ResolveError} (h : d.Fault s e) : Defect before s d e
  | name (taken : (∃ x ∈ before, x.exported = d.exported) ∨ d.TakesLookup s) :
      Defect before s d (.duplicateQuery d.name)

/-- Errors of a run are true of a definition that they name. -/
theorem defect_of_mem (h : e ∈ resolveErrors ds s) :
    ∃ before d after, ds = before ++ d :: after ∧ e.query = d.name ∧ d.Defect before s e := by
  obtain ⟨before, d, after, parts, h⟩ := mem_resolveErrors.1 h
  refine ⟨before, d, after, parts, ?_⟩
  rcases h with ⟨met, rfl⟩ | ⟨-, he | ⟨taken, rfl⟩⟩
  · exact ⟨rfl, .name (.inl (List.mem_map.1 met))⟩
  · have fault := Definition.mem_faults.1 he
    exact ⟨fault.query, .fault fault⟩
  · exact ⟨rfl, .name (.inr taken)⟩

/-! ### What is left -/

/-- The definitions that none of the errors names. -/
def unnamed (errors : List ResolveError) (ds : List Definition) : List Definition :=
  ds.filter fun d => d.name ∉ errors.map (·.query)

theorem unnamed_free (hd : d ∈ unnamed (resolveErrors ds s) ds) :
    e ∈ resolveErrors ds s → e.query ≠ d.name := by
  intro he same
  have free := (List.mem_filter.1 hd).2
  exact of_decide_eq_true free (List.mem_map.2 ⟨e, he, same⟩)

/-- The definitions that no error names are acceptable: a name that was met before would be an error
    about its later holder, and all else that is wrong an error about its first. -/
theorem acceptable_unnamed : Acceptable (unnamed (resolveErrors ds s) ds) s := by
  have new : ∀ before d after, ds = before ++ d :: after → d ∈ unnamed (resolveErrors ds s) ds →
      d.exported ∉ before.map (·.exported) := by
    intro before d after parts hd met
    have error := mem_resolveErrors (s := s).2 ⟨before, d, after, parts, .inl ⟨met, rfl⟩⟩
    exact unnamed_free hd error rfl
  have reports : ∀ d ∈ unnamed (resolveErrors ds s) ds, ∀ e,
      (e ∈ d.faults s ∨ d.TakesLookup s ∧ e = .duplicateQuery d.name) → e.query ≠ d.name := by
    intro d hd e he
    obtain ⟨before, after, parts⟩ := List.append_of_mem (List.mem_of_mem_filter hd)
    have error := mem_resolveErrors.2
      ⟨before, d, after, parts, .inr ⟨new before d after parts hd, he⟩⟩
    exact unnamed_free hd error
  refine ⟨?_, ?_, ?_⟩
  · -- names
    rw [List.Nodup, List.pairwise_map, unnamed, List.pairwise_filter]
    refine pairwise_of_places fun before d after parts x hx _ kept same => ?_
    have hd : d ∈ unnamed (resolveErrors ds s) ds := List.mem_filter.2 ⟨by simp [parts], kept⟩
    exact new before d after parts hd (List.mem_map.2 ⟨x, hx, same⟩)
  · -- lookups
    intro d hd t ht taken
    exact reports d hd _ (.inr ⟨⟨t, ht, taken⟩, rfl⟩) rfl
  · -- each
    intro d hd
    refine Definition.exists_resolve.1 (Definition.exists_resolve_of_faults ?_)
    refine List.eq_nil_iff_forall_not_mem.2 fun e he => ?_
    exact reports d hd e (.inl he) (Definition.mem_faults.1 he).query

/-- SOUND and SUFFICIENT: every error of a run is true of a definition that it names, and without the
    definitions that errors name the others resolve, each to its own query. -/
theorem report_sound_sufficient (ds : List Definition) (s : Schema) (errors : List ResolveError)
    (h : resolve ds s = .error errors) :
    (∀ e ∈ errors, ∃ before d after, ds = before ++ d :: after ∧ e.query = d.name ∧
      d.Defect before s e) ∧
    ∃ declared, List.Forall₂ (fun d q => d.resolve s = .ok q) (unnamed errors ds) declared ∧
      resolve (unnamed errors ds) s = .ok (declared ++ s.tables.map Query.lookup) := by
  have report := @reported_resolve ds s
  rw [h] at report
  obtain rfl : errors = resolveErrors ds s := report
  exact ⟨fun e he => defect_of_mem he, acceptable_unnamed.resolve⟩

/-- Definitions on the journal, of which only the first has nothing wrong with it: the others are
    named like the first one or like a lookup query, name nothing that there is, or have no table. -/
def batch : List Definition :=
  [recent, .new "Recent" "nowhere", .new "get_events" "events",
    ⟨"odd", "events", ["when", "at:like"], ["-"], some "all"⟩, .new "lost" "nowhere"]

/-- What is reported of them. The name of a lookup query is taken once for each table that has it. -/
def batchErrors : List ResolveError :=
  [.duplicateQuery "Recent", .unknownColumn "odd" "events" .filter "when",
    .unknownComparison "odd" "at:like" "like", .unknownColumn "odd" "events" .sort "-",
    .unknownMode "odd" "all", .unknownTable "lost" "nowhere",
    .duplicateQuery "get_events", .duplicateQuery "get_events"]

set_option maxRecDepth 4000 in
theorem report_sound_sufficient_batch : resolve batch journal = .error batchErrors ∧
    (∀ e ∈ batchErrors, ∃ before d after, batch = before ++ d :: after ∧ e.query = d.name ∧
      d.Defect before journal e) ∧
    ∃ declared, List.Forall₂ (fun d q => d.resolve journal = .ok q) (unnamed batchErrors batch)
        declared ∧
      resolve (unnamed batchErrors batch) journal =
        .ok (declared ++ journal.tables.map Query.lookup) := by
  have refused : resolve batch journal = .error batchErrors := by cbv
  exact ⟨refused, report_sound_sufficient _ _ _ refused⟩

/-! ### What is left out -/

theorem mem_resolveErrors_singleton : e ∈ resolveErrors [d] s ↔
    e ∈ d.faults s ∨ d.TakesLookup s ∧ e = .duplicateQuery d.name := by
  rw [mem_resolveErrors, exists_place_cons]
  simp

/-- A fault is reported in a run exactly when the first definition with that exported name has it. -/
theorem fault_mem_iff {first : Definition} (found : ds.find? (·.exported = d.exported) = some first)
    (fault : e ∈ d.faults s) : e ∈ resolveErrors ds s ↔ e ∈ first.faults s := by
  have own := Definition.mem_faults.1 fault
  rw [mem_resolveErrors]
  constructor
  · rintro ⟨before, x, after, rfl, ⟨-, rfl⟩ | ⟨new, he | ⟨-, rfl⟩⟩⟩
    · exact absurd rfl own.ne_duplicateQuery
    · -- the error names `d` and `x`, so they have one exported name, and `x` is the first with it
      have named : x.name = d.name := (Definition.mem_faults.1 he).query.symm.trans own.query
      have same : x.exported = d.exported := congrArg Name.exported named
      have found' : (before ++ x :: after).find? (·.exported = d.exported) = some x :=
        find?_key_eq_some.2 ⟨same, before, after, rfl, same ▸ new⟩
      rw [found] at found'
      cases found'
      exact he
    · exact absurd rfl own.ne_duplicateQuery
  · intro he
    obtain ⟨same, before, after, parts, new⟩ := find?_key_eq_some.1 found
    exact ⟨before, first, after, parts, .inr ⟨same ▸ new, .inl he⟩⟩

/-- REPORTED: all errors about a definition alone are among those of a run with it exactly when its
    faults are all faults of the first definition with its exported name, which may be itself. -/
theorem reported_alone_iff (ds : List Definition) (d : Definition) (s : Schema) (hd : d ∈ ds) :
    (∀ e ∈ reported (resolve [d] s), e ∈ reported (resolve ds s)) ↔
      ∀ first, ds.find? (·.exported = d.exported) = some first →
        ∀ e ∈ d.faults s, e ∈ first.faults s := by
  rw [reported_resolve, reported_resolve]
  constructor
  · intro all first found e fault
    exact (fault_mem_iff found fault).1 (all e (mem_resolveErrors_singleton.2 (.inl fault)))
  · intro shared e he
    rcases mem_resolveErrors_singleton.1 he with fault | ⟨taken, rfl⟩
    · cases found : ds.find? (·.exported = d.exported) with
      | none => exact absurd (List.find?_eq_none.1 found d hd) (by simp)
      | some first => exact (fault_mem_iff found fault).2 (shared first found e fault)
    · -- the name is reported in either case, whether it was met before or not
      obtain ⟨before, after, parts⟩ := List.append_of_mem hd
      refine mem_resolveErrors.2 ⟨before, d, after, parts, ?_⟩
      by_cases met : d.exported ∈ before.map (·.exported)
      · exact .inl ⟨met, rfl⟩
      · exact .inr ⟨met, .inr ⟨taken, rfl⟩⟩

/-- A schema of events alone. -/
def diary : Schema := ⟨"public", [], [events]⟩

/-- A definition without a table, named like another one. -/
def stray : Definition := .new "recent" "nowhere"

theorem reported_alone_stray : stray ∈ [stray, recent] ∧
    ∀ e ∈ reported (resolve [stray] diary), e ∈ reported (resolve [stray, recent] diary) := by
  refine ⟨by simp, (reported_alone_iff [stray, recent] stray diary (by simp)).2 ?_⟩
  intro first found e fault
  obtain rfl : stray = first := by simpa using found
  exact fault

/-- Behind a definition of its name, a definition is not reported to have no table. -/
theorem not_reported_stray : stray ∈ [recent, stray] ∧
    resolve [stray] diary = .error [.unknownTable "recent" "nowhere"] ∧
    resolve [recent, stray] diary = .error [.duplicateQuery "recent"] ∧
    ¬ ∀ e ∈ reported (resolve [stray] diary), e ∈ reported (resolve [recent, stray] diary) := by
  have alone : resolve [stray] diary = .error [.unknownTable "recent" "nowhere"] := by cbv
  have behind : resolve [recent, stray] diary = .error [.duplicateQuery "recent"] := by cbv
  refine ⟨by simp, alone, behind, ?_⟩
  rw [alone, behind]
  simp [reported]

end Introspect
