import Introspect.Proofs.Build
import Introspect.Proofs.Capture
import Introspect.Proofs.Enumeration

/-! Refusals: which catalogs are refused, and why.

    A build fails at the first step that does: while enums are registered, while tables are read one
    after another, or when the types of their columns are looked up at the end. Each step has one
    statement that says where it fails and with which error. For a snapshot that answers, no question
    fails, so what is left are the faults of its data (`Snapshot.Refuses`), and it is refused with
    the first of them in this order, and only for one of them (`Snapshot.build_accepts_iff`). -/

namespace Introspect

variable {c : Catalog} {n : String} {r r' : Registry} {e : BuildError} {row : TableRow} {t : Table}

theorem inspected_eq_error {α : Type} {answer : Except InspectError α} :
    inspected answer = .error e ↔ ∃ i, answer = .error i ∧ .inspect i = e :=
  mapError_eq_error

/-! ### Columns -/

theorem repeatedPosition?_eq_some {p : Int32} : ∀ {rows : List ColumnRow} {seen : List Int32},
    repeatedPosition? seen rows = some p ↔ ∃ before row after, rows = before ++ row :: after ∧
      Fresh (· ∈ seen) (before.map (·.position)) ∧
        (row.position ∈ seen ∨ row.position ∈ before.map (·.position)) ∧ p = row.position
  | [], seen => by simp [repeatedPosition?]
  | row :: rows, seen => by
    rw [repeatedPosition?, exists_place_cons]
    by_cases again : row.position ∈ seen
    · simp [again, fresh_nil, fresh_mem_cons, eq_comm]
    · rw [if_neg again, repeatedPosition?_eq_some]
      simp only [met_cons]
      simp only [List.map_cons, fresh_mem_cons, List.map_nil, List.not_mem_nil, again,
        not_false_eq_true, true_and, or_false, false_and, and_false, false_or]

theorem columnsOfRows_eq_error {table : String} {rows : List ColumnRow} {keys : List String} :
    columnsOfRows table rows keys = .error e ↔ ∃ before row after, rows = before ++ row :: after ∧
      (before.map (·.position)).Nodup ∧ row.position ∈ before.map (·.position) ∧
        e = .duplicatePosition table row.position := by
  rw [columnsOfRows]
  constructor
  · intro h
    cases found : repeatedPosition? [] rows with
    | none => simp [found] at h
    | some p =>
      rw [found] at h
      cases h
      obtain ⟨before, row, after, parts, distinct, again, rfl⟩ := repeatedPosition?_eq_some.1 found
      exact ⟨before, row, after, parts, fresh_mem_nil.1 distinct, again.resolve_left (by simp), rfl⟩
  · rintro ⟨before, row, after, parts, distinct, again, rfl⟩
    rw [repeatedPosition?_eq_some.2
      ⟨before, row, after, parts, fresh_mem_nil.2 distinct, .inr again, rfl⟩]

/-! ### Tables -/

theorem Table.build_eq_error : Table.build c row = .error e ↔
    (∃ i, c.columns row.schema row.name = .error i ∧ .inspect i = e) ∨
    ∃ columnRows, c.columns row.schema row.name = .ok columnRows ∧
      ((∃ i, c.primaryKey row.schema row.name = .error i ∧ .inspect i = e) ∨
      ∃ keys, c.primaryKey row.schema row.name = .ok keys ∧
        (columnsOfRows row.name columnRows keys = .error e ∨
        (columnRows.map (·.position)).Nodup ∧
          ∃ i, c.indexes row.schema row.name = .error i ∧ .inspect i = e)) := by
  simp [Table.build, bind_eq_error, inspected_eq_error, inspected_eq_ok, columnsOfRows_eq_ok, pure,
    Except.pure]

/-- Tables are read up to the first whose name was met before, or that cannot be built. -/
theorem buildTables_eq_error : ∀ {rows : List TableRow} {seen : List String},
    buildTables c seen rows = .error e ↔ ∃ before row after, rows = before ++ row :: after ∧
      (∃ ts, buildTables c seen before = .ok ts) ∧
        ((row.name ∈ seen ∨ row.name ∈ before.map (·.name)) ∧ e = .duplicateTable row.name ∨
          ¬ (row.name ∈ seen ∨ row.name ∈ before.map (·.name)) ∧ Table.build c row = .error e)
  | [], seen => by simp [buildTables]
  | row :: rows, seen => by
    rw [exists_place_cons]
    by_cases again : row.name ∈ seen
    · have stops (rows : List TableRow) :
          buildTables c seen (row :: rows) = .error (.duplicateTable row.name) := by
        rw [buildTables, if_pos again]
      rw [stops]
      constructor
      · rintro ⟨⟩
        exact .inl ⟨⟨[], rfl⟩, .inl ⟨.inl again, rfl⟩⟩
      · rintro (⟨-, ⟨-, rfl⟩ | ⟨new, -⟩⟩ | ⟨before, x, after, -, ⟨ts, built⟩, -⟩)
        · rfl
        · exact absurd (.inl again) new
        · rw [stops] at built
          cases built
    · have goes (rows : List TableRow) : buildTables c seen (row :: rows) = do
          let table ← Table.build c row
          let tables ← buildTables c (row.name :: seen) rows
          return table :: tables := by
        rw [buildTables, if_neg again]
      have done (before : List TableRow) : (∃ ts, buildTables c seen (row :: before) = .ok ts) ↔
          (∃ t, Table.build c row = .ok t) ∧
            ∃ ts, buildTables c (row.name :: seen) before = .ok ts := by
        simp only [goes, bind_eq_ok, pure_eq_ok]
        constructor
        · rintro ⟨-, t, built, ts, rest, -⟩
          exact ⟨⟨t, built⟩, ts, rest⟩
        · rintro ⟨⟨t, built⟩, ts, rest⟩
          exact ⟨_, t, built, ts, rest, rfl⟩
      rw [goes, bind_eq_error]
      simp only [bind_eq_error, buildTables_eq_error, done, met_cons]
      constructor
      · rintro (h | ⟨t, built, ⟨before, x, after, parts, rest, h⟩ | ⟨ts, -, ⟨⟩⟩⟩)
        · exact .inl ⟨⟨[], rfl⟩, .inr ⟨by simpa using again, h⟩⟩
        · exact .inr ⟨before, x, after, parts, ⟨⟨t, built⟩, rest⟩, h⟩
      · rintro (⟨-, ⟨taken, -⟩ | ⟨-, h⟩⟩ | ⟨before, x, after, parts, ⟨⟨t, built⟩, rest⟩, h⟩)
        · exact absurd taken (by simpa using again)
        · exact .inl h
        · exact .inr ⟨t, built, .inl ⟨before, x, after, parts, rest, h⟩⟩

theorem unmapped?_eq_some : t.unmapped? r = some e ↔ ∃ before x after,
    t.columns = before ++ x :: after ∧ (∀ y ∈ before, r.contains y.typeName = true) ∧
      r.contains x.typeName = false ∧ e = .unmappedType t.name x.name x.typeName := by
  rw [Table.unmapped?, Option.map_eq_some_iff]
  constructor
  · rintro ⟨x, found, rfl⟩
    obtain ⟨unknown, before, after, parts, known⟩ := List.find?_eq_some_iff_append.1 found
    exact ⟨before, x, after, parts, by simpa using known, by simpa using unknown, rfl⟩
  · rintro ⟨before, x, after, parts, known, unknown, rfl⟩
    refine ⟨x, List.find?_eq_some_iff_append.2 ?_, rfl⟩
    exact ⟨by simpa using unknown, before, after, parts, by simpa using known⟩

/-! ### Schemas -/

theorem typedTables_eq_error : typedTables c n r = .error e ↔
    (∃ i, c.tables n = .error i ∧ .inspect i = e) ∨ ∃ rows, c.tables n = .ok rows ∧
      (buildTables c [] rows = .error e ∨
        ∃ ts, buildTables c [] rows = .ok ts ∧ ts.findSome? (Table.unmapped? r) = some e) := by
  simp only [typedTables, bind_eq_error, inspected_eq_error, inspected_eq_ok]
  refine or_congr Iff.rfl (exists_congr fun rows => and_congr_right fun _ => ?_)
  refine or_congr Iff.rfl (exists_congr fun ts => and_congr_right fun _ => ?_)
  cases ts.findSome? (Table.unmapped? r) with
  | none => simp [pure, Except.pure]
  | some e' => simp [throw, throwThe, MonadExceptOf.throw]

theorem Schema.build_eq_error : (Schema.build c n r).1 = .error e ↔
    (∃ i, c.enums = .error i ∧ .inspect i = e) ∨ ∃ labels, c.enums = .ok labels ∧
      ((∃ err r', r.registerAll (Enumeration.group labels) = (some err, r') ∧ .registry err = e) ∨
        ∃ r', r.registerAll (Enumeration.group labels) = (none, r') ∧
          typedTables c n r' = .error e) := by
  rw [Schema.build]
  cases c.enums with
  | error i => simp
  | ok labels =>
    dsimp only
    cases registered : r.registerAll (Enumeration.group labels) with
    | mk stop r' =>
      cases stop with
      | some err => simp [registered]
      | none => simp [registered, map_eq_error]

/-! ### Faults of a snapshot -/

/-- Tables of different names, each with its columns at different positions. -/
structure TableRecord.Separate (ts : List TableRecord) : Prop where
  names : (ts.map (·.name)).Nodup
  positions : ∀ t ∈ ts, (t.columns.map (·.position)).Nodup

namespace Snapshot

open TableRecord (Separate)

/-- The raw name has a type: it is in the registry, or it is that of an enum. -/
def Knows (snap : Snapshot) (r : Registry) (k : String) : Prop :=
  r.contains k = true ∨ ∃ row ∈ snap.labels, row.name = k

/-- Enums with names that are free, tables that can be told apart, and columns whose types are
    known. -/
structure Acceptable (snap : Snapshot) (n : String) (r : Registry) : Prop where
  enums : ∀ row ∈ snap.labels, r.contains row.name = false
  tables : Separate (snap.listed n)
  types : ∀ t ∈ snap.listed n, ∀ x ∈ t.columns, snap.Knows r x.typeName

/-- The first fault of a snapshot, and the error for it: an enum whose name is taken, or else a table
    whose name is that of a table before it or that has two columns at one position, or else a column
    without a type. -/
inductive Refuses (snap : Snapshot) (n : String) (r : Registry) : BuildError → Prop
  | enumeration {before after : List LabelRow} {row : LabelRow}
      (place : snap.labels = before ++ row :: after)
      (others : ∀ x ∈ before, r.contains x.name = false) (taken : r.contains row.name = true) :
      Refuses snap n r (.registry (.duplicate row.name))
  | table {before after : List TableRecord} {t : TableRecord}
      (enums : ∀ row ∈ snap.labels, r.contains row.name = false)
      (place : snap.listed n = before ++ t :: after) (others : Separate before)
      (taken : t.name ∈ before.map (·.name)) : Refuses snap n r (.duplicateTable t.name)
  | position {before after : List TableRecord} {t : TableRecord} {first rest : List ColumnRow}
      {x : ColumnRow} (enums : ∀ row ∈ snap.labels, r.contains row.name = false)
      (place : snap.listed n = before ++ t :: after) (others : Separate before)
      (new : t.name ∉ before.map (·.name)) (columns : t.columns = first ++ x :: rest)
      (distinct : (first.map (·.position)).Nodup) (taken : x.position ∈ first.map (·.position)) :
      Refuses snap n r (.duplicatePosition t.name x.position)
  | type {before after : List TableRecord} {t : TableRecord} {x : ColumnRow}
      (enums : ∀ row ∈ snap.labels, r.contains row.name = false) (tables : Separate (snap.listed n))
      (place : snap.listed n = before ++ t :: after)
      (others : ∀ u ∈ before, ∀ y ∈ u.columns, snap.Knows r y.typeName) (mem : x ∈ t.columns)
      (lower : ∀ y ∈ t.columns, y.position < x.position → snap.Knows r y.typeName)
      (unknown : ¬ snap.Knows r x.typeName) :
      Refuses snap n r (.unmappedType t.name x.name x.typeName)

variable {snap : Snapshot} {t : TableRecord} {before after : List TableRecord} {a : Table}

theorem Refuses.not_acceptable (h : snap.Refuses n r e) : ¬ snap.Acceptable n r := by
  rintro ⟨free, separate, known⟩
  cases h with
  | @enumeration _ _ row place _ taken =>
    have := free row (by simp [place])
    simp [taken] at this
  | @table _ _ t _ place _ taken =>
    have names := separate.names
    rw [place] at names
    exact not_mem_before names taken
  | @position _ _ t _ _ x _ place _ _ columns _ taken =>
    have positions := separate.positions t (by simp [place])
    rw [columns] at positions
    exact not_mem_before positions taken
  | @type _ _ t x _ _ place _ mem _ unknown => exact unknown (known t (by simp [place]) x mem)

/-! ### Tables of a snapshot -/

/-- The first table of its name in a schema is the one that answers. -/
theorem keeps_of_place (answers : snap.failing = none) (place : snap.listed n = before ++ t :: after)
    (new : t.name ∉ before.map (·.name)) : t.Keeps snap.toCatalog t.row.schema t.row.name := by
  have mem : t ∈ snap.listed n := by simp [place]
  obtain rfl : t.schema = n := (mem_listed.1 mem).2
  refine keeps_of_find? answers ((find?_listed snap t.schema t.name).trans ?_)
  exact find?_key_eq_some.2 ⟨rfl, before, after, place, new⟩

theorem keeps_of_mem (answers : snap.failing = none)
    (names : ((snap.listed n).map (·.name)).Nodup) (ht : t ∈ snap.listed n) :
    t.Keeps snap.toCatalog t.row.schema t.row.name := by
  obtain ⟨before, after, place⟩ := List.append_of_mem ht
  rw [place] at names
  exact keeps_of_place answers place (not_mem_before names)

/-- A snapshot answers about each table that it lists, be it from another record. -/
theorem exists_keeps (answers : snap.failing = none) {row : TableRow}
    (hrow : row ∈ (snap.listed n).map TableRecord.row) :
    ∃ t : TableRecord, t.Keeps snap.toCatalog row.schema row.name := by
  obtain ⟨own, hown, rfl⟩ := List.mem_map.1 hrow
  obtain ⟨t, found, -⟩ := exists_find? (mem_listed.1 hown).1
  exact ⟨t, keeps_of_find? answers found⟩

theorem build_eq_error_of_keeps (kept : t.Keeps c t.row.schema t.row.name) :
    Table.build c t.row = .error e ↔
      columnsOfRows t.name t.columns t.primaryKey = .error e := by
  rw [Table.build_eq_error, kept.columns, kept.primaryKey, kept.indexes]
  simp [TableRecord.row]

theorem columns_of_build (kept : t.Keeps c t.row.schema t.row.name)
    (built : Table.build c t.row = .ok a) : (a.columns.map Column.row).Perm t.columns := by
  obtain ⟨rows, asked, perm⟩ := (Table.describes_of_build built).columns
  rw [kept.columns] at asked
  cases asked
  exact perm

/-- Tables that were read can be told apart. -/
theorem separate_of_buildTables {ts : List Table} (answers : snap.failing = none)
    (place : snap.listed n = before ++ after)
    (built : buildTables snap.toCatalog [] (before.map TableRecord.row) = .ok ts) :
    Separate before := by
  obtain ⟨fresh, each⟩ := buildTables_eq_ok.1 built
  have names : (before.map (·.name)).Nodup := by
    rw [fresh_mem_nil, List.map_map] at fresh
    exact fresh
  refine ⟨names, fun t ht => ?_⟩
  obtain ⟨a, ha⟩ := exists_forall₂_iff.1 ⟨ts, each⟩ t.row (List.mem_map_of_mem ht)
  obtain ⟨first, rest, rfl⟩ := List.append_of_mem ht
  rw [List.append_assoc, List.cons_append] at place
  obtain ⟨rows, keys, indexes, asked, -, distinct, -⟩ := Table.build_eq_ok.1 ha
  rw [(keeps_of_place answers place (not_mem_before names)).columns] at asked
  cases asked
  exact distinct

/-! ### Runs over a snapshot -/

theorem knows_iff (registered : r.registerAll (Enumeration.group snap.labels) = (none, r'))
    {k : String} : r'.contains k = true ↔ snap.Knows r k := by
  rw [Registry.contains_registerAll registered, ← List.mem_map, Enumeration.mem_names_group]
  rfl

theorem free_iff : (r.registerAll (Enumeration.group snap.labels)).1 = none ↔
    ∀ row ∈ snap.labels, r.contains row.name = false := by
  rw [Registry.registerAll_eq_none, Fresh, and_iff_right Enumeration.nodup_names_group]
  simp [Enumeration.mem_names_group]

/-- If all columns of tables that were built have types, so do all columns of their records. -/
theorem contains_of_built {us : List TableRecord} {ts : List Table}
    (kept : ∀ u ∈ us, u.Keeps c u.row.schema u.row.name)
    (each : List.Forall₂ (fun u a => Table.build c u.row = .ok a) us ts)
    (typed : ∀ a ∈ ts, ∀ x ∈ a.columns, r.contains x.typeName = true) :
    ∀ u ∈ us, ∀ y ∈ u.columns, r.contains y.typeName = true := by
  intro u hu y hy
  obtain ⟨a, ha, built⟩ := forall₂_mem_right each.flip hu
  obtain ⟨x, hx, rfl⟩ := List.mem_map.1 ((columns_of_build (kept u hu) built).mem_iff.2 hy)
  exact typed a ha x hx

theorem refuses_of_registerAll {err : RegistryError}
    (stopped : r.registerAll (Enumeration.group snap.labels) = (some err, r')) :
    snap.Refuses n r (.registry err) := by
  obtain ⟨before, e, after, parts, added, taken, rfl⟩ :=
    (Registry.registerAll_eq_some_of_nodup Enumeration.nodup_names_group).1 stopped
  have free := added.fresh.2
  have first : ((Enumeration.group snap.labels).map (·.name)).find? r.contains = some e.name := by
    rw [parts, List.map_append, List.map_cons]
    exact List.find?_eq_some_iff_append.2 ⟨taken, _, _, rfl, fun k hk => by simpa using free k hk⟩
  rw [Enumeration.find?_names_group] at first
  obtain ⟨-, names, rest, parts, others⟩ := List.find?_eq_some_iff_append.1 first
  obtain ⟨before, tail, place, rfl, rest⟩ := List.map_eq_append_iff.1 parts
  obtain ⟨row, after, rfl, named, rfl⟩ := List.map_eq_cons_iff.1 rest
  rw [← named] at taken ⊢
  exact .enumeration place (fun x hx => by simpa using others x.name (List.mem_map_of_mem hx)) taken

theorem refuses_of_buildTables (answers : snap.failing = none)
    (enums : ∀ row ∈ snap.labels, r.contains row.name = false)
    (h : buildTables snap.toCatalog [] ((snap.listed n).map TableRecord.row) = .error e) :
    snap.Refuses n r e := by
  obtain ⟨rowsBefore, row, rowsAfter, parts, ⟨ts, built⟩, h⟩ := buildTables_eq_error.1 h
  obtain ⟨before, rest, place, rfl, tail⟩ := List.map_eq_append_iff.1 parts
  obtain ⟨t, after, rfl, rfl, rfl⟩ := List.map_eq_cons_iff.1 tail
  have others := separate_of_buildTables answers place built
  have names : (before.map TableRecord.row).map (·.name) = before.map (·.name) := by
    rw [List.map_map]
    rfl
  rw [names] at h
  rcases h with ⟨taken, rfl⟩ | ⟨new, h⟩
  · exact .table enums place others (taken.resolve_left (by simp))
  · replace new : t.name ∉ before.map (·.name) := fun met => new (.inr met)
    rw [build_eq_error_of_keeps (keeps_of_place answers place new)] at h
    obtain ⟨first, x, rest, columns, distinct, taken, rfl⟩ := columnsOfRows_eq_error.1 h
    exact .position enums place others new columns distinct taken

theorem refuses_of_unmapped {ts : List Table} (answers : snap.failing = none)
    (registered : r.registerAll (Enumeration.group snap.labels) = (none, r'))
    (built : buildTables snap.toCatalog [] ((snap.listed n).map TableRecord.row) = .ok ts)
    (h : ts.findSome? (Table.unmapped? r') = some e) : snap.Refuses n r e := by
  have enums := free_iff.1 (congrArg Prod.fst registered)
  have tables := separate_of_buildTables answers (List.append_nil _).symm built
  obtain ⟨typed, a, later, rfl, h, others⟩ := List.findSome?_eq_some_iff.1 h
  obtain ⟨-, each⟩ := buildTables_eq_ok.1 built
  rw [List.forall₂_map_left_iff] at each
  obtain ⟨before, t, after, place, each, ha⟩ := forall₂_place_right each
  have kept : ∀ u ∈ snap.listed n, u.Keeps snap.toCatalog u.row.schema u.row.name :=
    fun u hu => keeps_of_mem answers tables.names hu
  obtain ⟨lower, x, upper, columns, known, unknown, rfl⟩ := unmapped?_eq_some.1 h
  have described := Table.describes_of_build ha
  have perm := columns_of_build (kept t (by simp [place])) ha
  have unknown : ¬ snap.Knows r x.typeName := fun knows => by
    rw [(knows_iff registered).2 knows] at unknown
    cases unknown
  rw [described.name]
  refine .type enums tables place ?_ (perm.mem_iff.1 (List.mem_map_of_mem (by simp [columns]))) ?_
    unknown
  · -- others
    have typed := fun b hb => unmapped?_eq_none.1 (others b hb)
    have known := contains_of_built (fun u hu => kept u (by simp [place, hu])) each typed
    exact fun u hu y hy => (knows_iff registered).1 (known u hu y hy)
  · -- lower
    intro y hy below
    obtain ⟨z, hz, rfl⟩ := List.mem_map.1 (perm.mem_iff.2 hy)
    have ascending := described.ascending
    rw [columns, List.pairwise_append, List.pairwise_cons] at ascending
    rw [columns, List.mem_append, List.mem_cons] at hz
    rcases hz with hz | rfl | hz
    · exact (knows_iff registered).1 (known z hz)
    · exact absurd below Int32.lt_irrefl
    · exact absurd below (Int32.lt_asymm (ascending.2.1.1 z hz))

/-- Where a build over a snapshot that answers can fail: no question does. -/
theorem build_eq_error (answers : snap.failing = none) :
    (Schema.build snap.toCatalog n r).1 = .error e ↔
      (∃ err r', r.registerAll (Enumeration.group snap.labels) = (some err, r') ∧
        .registry err = e) ∨
      ∃ r', r.registerAll (Enumeration.group snap.labels) = (none, r') ∧
        (buildTables snap.toCatalog [] ((snap.listed n).map TableRecord.row) = .error e ∨
          ∃ ts, buildTables snap.toCatalog [] ((snap.listed n).map TableRecord.row) = .ok ts ∧
            ts.findSome? (Table.unmapped? r') = some e) := by
  rw [Schema.build_eq_error, toCatalog_enums answers]
  simp [typedTables_eq_error, toCatalog_tables answers]

/-- The error of a build is that for the first fault. -/
theorem refuses_of_build (answers : snap.failing = none)
    (h : (Schema.build snap.toCatalog n r).1 = .error e) : snap.Refuses n r e := by
  rcases (build_eq_error answers).1 h with
    ⟨err, r', stopped, rfl⟩ | ⟨r', registered, h | ⟨ts, built, h⟩⟩
  · exact refuses_of_registerAll stopped
  · exact refuses_of_buildTables answers (free_iff.1 (congrArg Prod.fst registered)) h
  · exact refuses_of_unmapped answers registered built h

theorem acceptable_of_build {s : Schema} (answers : snap.failing = none)
    (h : (Schema.build snap.toCatalog n r).1 = .ok s) : snap.Acceptable n r := by
  obtain ⟨labels, ts, asked, registered, h, -⟩ := Schema.build_eq_ok.1 (Prod.ext h rfl)
  rw [toCatalog_enums answers] at asked
  cases asked
  obtain ⟨rows, asked, built, typed⟩ := typedTables_eq_ok.1 h
  rw [toCatalog_tables answers] at asked
  cases asked
  have tables := separate_of_buildTables answers (List.append_nil _).symm built
  have each := (buildTables_eq_ok.1 built).2
  rw [List.forall₂_map_left_iff] at each
  have kept := fun u hu => keeps_of_mem (t := u) answers tables.names hu
  refine ⟨free_iff.1 (congrArg Prod.fst registered), tables, fun u hu y hy => ?_⟩
  exact (knows_iff registered).1 (contains_of_built kept each typed u hu y hy)

/-- ACCEPTED: a schema is built of a snapshot that answers exactly when it is acceptable; otherwise
    the error is that for its first fault, and never one of a question. -/
theorem build_accepts_iff (snap : Snapshot) (n : String) (r : Registry)
    (answers : snap.failing = none) :
    ((∃ s, (Schema.build snap.toCatalog n r).1 = .ok s) ↔ snap.Acceptable n r) ∧
    ∀ e, (Schema.build snap.toCatalog n r).1 = .error e →
      snap.Refuses n r e ∧ ∀ i, e ≠ .inspect i := by
  refine ⟨⟨?_, ?_⟩, ?_⟩
  · rintro ⟨s, h⟩
    exact acceptable_of_build answers h
  · intro acceptable
    exact exists_ok_iff.2 fun e h => (refuses_of_build answers h).not_acceptable acceptable
  · intro e h
    have refused := refuses_of_build answers h
    refine ⟨refused, ?_⟩
    rintro i rfl
    cases refused

/-- A snapshot with one fault of each kind but the first: a column without a type, then two columns
    at one position, then a table that is listed again. Another schema has a table of that name. -/
def flawed : Snapshot where
  labels := [⟨"audit", "mood", "calm"⟩, ⟨"audit", "mood", "tense"⟩]
  tables := [⟨"", "audit", "users", [⟨1, "id", "int8", false⟩, ⟨1, "at", "date", false⟩], [], []⟩,
    ⟨"", "public", "orders", [⟨2, "price", "money", false⟩, ⟨1, "state", "mood", true⟩], [], []⟩,
    ⟨"", "public", "users", [⟨3, "id", "int8", false⟩, ⟨3, "note", "text", true⟩], ["id"], []⟩,
    .new "public" "orders"]
  failing := none

theorem build_accepts_flawed :
    (Schema.build flawed.toCatalog "public" .fresh).1 = .error (.duplicatePosition "users" 3) ∧
    flawed.Refuses "public" .fresh (.duplicatePosition "users" 3) ∧
      ¬ flawed.Acceptable "public" .fresh := by
  have refused : (Schema.build flawed.toCatalog "public" .fresh).1 =
      .error (.duplicatePosition "users" 3) := by cbv
  obtain ⟨accepts, refuses⟩ := build_accepts_iff flawed "public" .fresh rfl
  refine ⟨refused, (refuses _ refused).1, fun acceptable => ?_⟩
  obtain ⟨s, built⟩ := accepts.2 acceptable
  rw [refused] at built
  cases built

end Snapshot

end Introspect
