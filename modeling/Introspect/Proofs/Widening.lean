import Introspect.Proofs.Declared
import Introspect.Proofs.Stability

/-! Widening: what a run keeps when a table gets one more column.

    The new column stands behind all others, so whatever is looked for by its whole name is found
    where it was (`Table.column?_addColumn`), and filters with it. A sort that was content with the
    end of a name looks for a whole name first, and finds the new column if that is the one it names
    (`Table.sortColumn?_moves`); all other sorts stay (`Table.sortColumn?_stays`). So definitions
    that resolve still do, to queries that differ in nothing else (`resolve_widened`). -/

namespace Introspect

variable {d : Definition} {ds : List Definition} {s : Schema} {t u : Table} {c x : Column}
  {q : Query} {f : Condition} {k : SortKey} {name spec : String}

/-! ### Three lists -/

/-- Items at the same place of three lists are related. -/
inductive Forall₃ {α β γ : Type} (R : α → β → γ → Prop) : List α → List β → List γ → Prop
  | nil : Forall₃ R [] [] []
  | cons {x : α} {y : β} {z : γ} {xs : List α} {ys : List β} {zs : List γ} (first : R x y z)
      (rest : Forall₃ R xs ys zs) : Forall₃ R (x :: xs) (y :: ys) (z :: zs)

/-- What there is for each two items at the same place there is as a third list. -/
theorem exists_forall₃ {α β γ : Type} {R : α → β → Prop} {Q : α → γ → Prop}
    {P : α → β → γ → Prop} {xs : List α} {ys : List β} (h : List.Forall₂ R xs ys)
    (third : ∀ x y, R x y → ∃ z, Q x z ∧ P x y z) :
    ∃ zs, List.Forall₂ Q xs zs ∧ Forall₃ P xs ys zs := by
  induction h with
  | nil => exact ⟨[], .nil, .nil⟩
  | cons first _ ih =>
    obtain ⟨z, hq, hp⟩ := third _ _ first
    obtain ⟨zs, hqs, hps⟩ := ih
    exact ⟨z :: zs, .cons hq hqs, .cons hp hps⟩

/-! ### One more column -/

/-- The table with one more column, behind all others. -/
def Table.addColumn (t : Table) (c : Column) : Table :=
  { t with
    columns := t.columns ++ [c]
    primaryKey := t.primaryKey ++ [c].filter (·.isKey) }

/-- A table, after the column was added to `t`. -/
def Table.widen (t : Table) (c : Column) (u : Table) : Table := if u = t then u.addColumn c else u

/-- The schema, after the column was added to its table `t`. -/
def Schema.widen (s : Schema) (t : Table) (c : Column) : Schema :=
  { s with tables := s.tables.map (t.widen c) }

/-- A column whose position is behind all others is added to the table that they make. -/
theorem Table.addColumn_ofColumns {columns : List Column}
    (distinct : (columns.map (·.position)).Nodup) (last : ∀ x ∈ columns, x.position < c.position)
    (catalog schema name : String) :
    (ofColumns catalog schema name columns).addColumn c =
      ofColumns catalog schema name (columns ++ [c]) := by
  have ascending : (byPosition columns ++ [c]).Pairwise (·.position < ·.position) := by
    refine List.pairwise_append.2 ⟨byPosition_ascending distinct, List.pairwise_singleton _ _, ?_⟩
    intro x hx y hy
    obtain rfl := List.mem_singleton.1 hy
    exact last x ((byPosition_perm columns).mem_iff.1 hx)
  have perm : (byPosition columns ++ [c]).Perm (columns ++ [c]) :=
    (byPosition_perm columns).append_right [c]
  have positions : ((columns ++ [c]).map (·.position)).Nodup := by
    refine (perm.map _).nodup_iff.1 (List.pairwise_map.2 (ascending.imp fun below same => ?_))
    exact Int32.lt_irrefl (same ▸ below)
  have sorted : byPosition columns ++ [c] = byPosition (columns ++ [c]) :=
    (perm.trans (byPosition_perm _).symm).eq_of_pairwise
      (fun _ _ _ _ below above => absurd above (Int32.lt_asymm below)) ascending
      (byPosition_ascending positions)
  rw [ofColumns, ofColumns, ← sorted, List.filter_append]
  rfl

/-- The sort has just the name of the column, and no column of the table has it. -/
def Table.Misses (t : Table) (c : Column) (spec : String) : Prop :=
  (∃ descending, SortText spec c.name descending) ∧ ∀ x ∈ t.columns, x.name ≠ c.name

/-- What becomes of a sort on `u`: it keeps its direction and its column, but one on `t` that names
    the new column alone moves there from a column whose name ends so. -/
structure SortKey.Updates (t : Table) (c : Column) (u : Table) (spec : String) (k k' : SortKey) :
    Prop where
  descending : k'.descending = k.descending
  stays : ¬ (u = t ∧ t.Misses c spec) → k'.column = k.column
  moves : u = t ∧ t.Misses c spec →
    (c.name.toList <:+ k.column.name.toList ∧ k.column.name ≠ c.name) ∧ k'.column = c

/-- What becomes of a query that was written with the given sorts. -/
structure Query.Updates (t : Table) (c : Column) (specs : List String) (q q' : Query) : Prop where
  name : q'.name = q.name
  table : q'.table = t.widen c q.table
  filters : q'.filters = q.filters
  sorts : Forall₃ (SortKey.Updates t c q.table) specs q.sorts q'.sorts
  returnsOne : q'.returnsOne = q.returnsOne
  returnsMany : q'.returnsMany = q.returnsMany
  paged : q'.paged = q.paged
  synthetic : q'.synthetic = q.synthetic

/-! ### Columns of the table -/

namespace Table

theorem widen_self (t : Table) (c : Column) : t.widen c t = t.addColumn c := if_pos rfl

theorem widen_other (other : u ≠ t) : t.widen c u = u := if_neg other

theorem widen_name : (t.widen c u).name = u.name := by
  rw [widen]
  split
  · rfl
  · rfl

theorem column?_addColumn (found : t.column? name = some x) :
    (t.addColumn c).column? name = some x :=
  (List.prefix_append t.columns [c]).find?_eq_some found

theorem column?_addColumn_new (new : ∀ y ∈ t.columns, y.name ≠ c.name) :
    (t.addColumn c).column? c.name = some c := by
  rw [column?, addColumn, List.find?_append, ← column?, column?_eq_none.2 new]
  simp

/-- A sort stays where it is, unless it has just the name of the new column, and no older column
    has it. -/
theorem sortColumn?_stays (found : t.sortColumn? name = some x)
    (older : c.name = name → ∃ y ∈ t.columns, y.name = name) :
    (t.addColumn c).sortColumn? name = some x := by
  rw [sortColumn?] at found ⊢
  split at found
  · cases found
  · rename_i something
    rw [if_neg something]
    refine Option.or_eq_some_iff.2 ?_
    rcases Option.or_eq_some_iff.1 found with whole | ⟨none, ending⟩
    · exact .inl (column?_addColumn whole)
    · have others := column?_eq_none.1 none
      have missing : ∀ y ∈ (t.addColumn c).columns, y.name ≠ name := by
        rw [addColumn, List.forall_mem_append, List.forall_mem_singleton]
        refine ⟨others, fun named => ?_⟩
        obtain ⟨y, hy, same⟩ := older named
        exact others y hy same
      exact .inr ⟨column?_eq_none.2 missing, (List.prefix_append _ _).find?_eq_some ending⟩

theorem sortColumn?_moves (something : c.name ≠ "") (new : ∀ y ∈ t.columns, y.name ≠ c.name) :
    (t.addColumn c).sortColumn? c.name = some c := by
  rw [sortColumn?, if_neg something, column?_addColumn_new new]
  rfl

end Table

/-- Of tables under different names only the one with the column is another, in its place. -/
theorem Schema.widen_place {before after : List Table} (parts : s.tables = before ++ t :: after)
    (names : (s.tables.map (·.name)).Nodup) :
    s.widen t c = { s with tables := before ++ t.addColumn c :: after } := by
  rw [parts] at names
  have distinct : (before ++ t :: after).Nodup := .of_map _ names
  rw [List.nodup_middle, List.nodup_cons, List.mem_append, not_or] at distinct
  have others (us : List Table) (missing : t ∉ us) : us.map (t.widen c) = us := by
    refine (List.map_congr_left fun u hu => ?_).trans (List.map_id' us)
    exact Table.widen_other fun same => missing (same ▸ hu)
  rw [widen, parts, List.map_append, List.map_cons, Table.widen_self, others before distinct.1.1,
    others after distinct.1.2]

theorem Schema.table?_widen (name : String) :
    (s.widen t c).table? name = (s.table? name).map (t.widen c) := by
  rw [table?, widen, List.find?_map, table?]
  simp only [Function.comp_def, Table.widen_name]

/-! ### Parts of a definition -/

namespace Definition

theorem resolveFilter_widen (h : d.resolveFilter u spec = .ok f) :
    d.resolveFilter (t.widen c u) spec = .ok f := by
  obtain ⟨comparison, found⟩ := resolveFilter_eq_ok.1 h
  refine resolveFilter_eq_ok.2 ⟨comparison, ?_⟩
  rw [Table.widen]
  split
  · exact Table.column?_addColumn found
  · exact found

theorem resolveSort_widen (h : d.resolveSort u spec = .ok k) : ∃ k',
    d.resolveSort (t.widen c u) spec = .ok k' ∧ k.Updates t c u spec k' := by
  obtain ⟨found, direction⟩ := resolveSort_eq_ok.1 h
  by_cases moving : u = t ∧ t.Misses c spec
  · obtain ⟨rfl, ⟨_, named⟩, new⟩ := moving
    rw [named.parse_eq] at found direction
    obtain ⟨something, ends⟩ := Table.sortColumn?_suffix found
    have differs := new k.column (Table.sortColumn?_mem found)
    refine ⟨⟨c, k.descending⟩, resolveSort_eq_ok.2 ?_, rfl, fun stays => ?_, fun _ => ?_⟩
    · rw [named.parse_eq, Table.widen_self]
      exact ⟨Table.sortColumn?_moves something new, direction⟩
    · exact absurd ⟨rfl, ⟨_, named⟩, new⟩ stays
    · exact ⟨⟨ends, differs⟩, rfl⟩
  · refine ⟨k, resolveSort_eq_ok.2 ⟨?_, direction⟩, rfl, fun _ => rfl, fun h => absurd h moving⟩
    rw [Table.widen]
    split
    · rename_i same
      refine Table.sortColumn?_stays found fun named => ?_
      by_contra none
      obtain ⟨name, descending, form⟩ := SortText.exists_form spec
      rw [form.parse_eq] at named none
      subst same named
      exact moving ⟨rfl, ⟨descending, form⟩, fun y hy same => none ⟨y, hy, same⟩⟩
    · exact found

theorem resolveOn_widen (h : d.resolveOn u = .ok q) : ∃ q',
    d.resolveOn (t.widen c u) = .ok q' ∧ q.Updates t c d.sorts q' := by
  obtain ⟨filters, sorts, mode, hf, hs, hm, rfl⟩ := resolveOn_eq_ok.1 h
  obtain ⟨sorts', hs', updates⟩ := exists_forall₃ hs fun _ _ => resolveSort_widen (t := t) (c := c)
  refine ⟨d.toQuery (t.widen c u) filters sorts' mode, ?_, ?_⟩
  · exact resolveOn_eq_ok.2
      ⟨filters, sorts', mode, hf.imp fun _ _ => resolveFilter_widen, hs', hm, rfl⟩
  · exact ⟨rfl, rfl, rfl, updates, rfl, rfl, rfl, rfl⟩

theorem resolve_widen (h : d.resolve s = .ok q) : ∃ q',
    d.resolve (s.widen t c) = .ok q' ∧ q.Updates t c d.sorts q' := by
  obtain ⟨u, found, h⟩ := resolve_eq_ok.1 h
  obtain ⟨q', resolved, updates⟩ := resolveOn_widen (t := t) (c := c) h
  refine ⟨q', resolve_eq_ok.2 ⟨t.widen c u, ?_, resolved⟩, updates⟩
  rw [Schema.table?_widen, found]
  rfl

end Definition

/-! ### Runs -/

/-- A column that is no key column leaves the lookup query as it is, but for its table. -/
theorem Query.lookup_widen (plain : c.isKey = false) (u : Table) :
    (Query.lookup u).Updates t c [] (Query.lookup (t.widen c u)) := by
  have key : (t.widen c u).primaryKey = u.primaryKey := by
    rw [Table.widen]
    split
    · simp [Table.addColumn, plain]
    · rfl
  have exported : (t.widen c u).exported = u.exported := congrArg Name.exported Table.widen_name
  refine ⟨?_, rfl, ?_, .nil, rfl, rfl, rfl, rfl⟩
  · exact congrArg ("Get" ++ ·) exported
  · rw [lookup, lookup, key]

/-- Definitions that resolve still do when a table gets a further column, other than a key column,
    and each query becomes what `Query.Updates` says. -/
theorem exists_resolve_widen {qs : List Query} (plain : c.isKey = false)
    (h : resolve ds s = .ok qs) :
    ∃ declared declared', qs = declared ++ s.tables.map Query.lookup ∧
      resolve ds (s.widen t c) = .ok (declared' ++ (s.widen t c).tables.map Query.lookup) ∧
      Forall₃ (fun d => Query.Updates t c d.sorts) ds declared declared' ∧
      List.Forall₂ (Query.Updates t c []) (s.tables.map Query.lookup)
        ((s.widen t c).tables.map Query.lookup) := by
  obtain ⟨distinct, free, declared, each, rfl⟩ := resolve_eq_ok.1 h
  obtain ⟨declared', each', updates⟩ :=
    exists_forall₃ each fun _ _ => Definition.resolve_widen (t := t) (c := c)
  refine ⟨declared, declared', rfl, resolve_eq_ok.2 ⟨distinct, ?_, declared', each', rfl⟩,
    updates, ?_⟩
  · intro u' hu' d hd
    obtain ⟨u, hu, rfl⟩ := List.mem_map.1 hu'
    have named : (Query.lookup (t.widen c u)).exported = (Query.lookup u).exported :=
      congrArg Name.exported (Query.lookup_widen plain u).name
    rw [named]
    exact free u hu d hd
  · rw [Schema.widen, List.map_map, List.forall₂_map_left_iff, List.forall₂_map_right_iff]
    exact List.forall₂_same.2 fun u _ => Query.lookup_widen plain u

/-- WIDENED: definitions that resolve still do when one of the tables, which have different names,
    gets a further column, other than a key column. Filters and flags of all queries stay, and so
    does each sort; but one on that table that names the new column, and no older one, moves there
    from a column whose name ends so. -/
theorem resolve_widened (ds : List Definition) (s : Schema) (before after : List Table) (t : Table)
    (c : Column) (qs : List Query) (parts : s.tables = before ++ t :: after)
    (names : (s.tables.map (·.name)).Nodup) (plain : c.isKey = false)
    (h : resolve ds s = .ok qs) :
    ∃ declared declared', qs = declared ++ s.tables.map Query.lookup ∧
      resolve ds { s with tables := before ++ t.addColumn c :: after } =
        .ok (declared' ++ (before ++ t.addColumn c :: after).map Query.lookup) ∧
      Forall₃ (fun d => Query.Updates t c d.sorts) ds declared declared' ∧
      List.Forall₂ (Query.Updates t c []) (s.tables.map Query.lookup)
        ((before ++ t.addColumn c :: after).map Query.lookup) := by
  have widened := exists_resolve_widen (t := t) plain h
  rwa [Schema.widen_place parts names] at widened

/-- A column with the name that a sort of `recent` has but for its minus. -/
def eventNoted : Column := ⟨5, "n_at", "timestamp", true, false⟩

/-- What `recent` defines when events have this column. -/
def recentNoted : Query :=
  { recentQuery with
    table := events.addColumn eventNoted
    sorts := [⟨eventNoted, true⟩, ⟨eventAt, false⟩] }

theorem resolve_widened_club : (club.tables.map (·.name)).Nodup ∧ eventNoted.isKey = false ∧
    resolve [recent, members] club =
      .ok ([recentQuery, membersQuery] ++ club.tables.map Query.lookup) ∧
    resolve [recent, members] { club with tables := [events.addColumn eventNoted, users] } =
      .ok ([recentNoted, membersQuery] ++
        [events.addColumn eventNoted, users].map Query.lookup) ∧
    Forall₃ (fun d => Query.Updates events eventNoted d.sorts) [recent, members]
      [recentQuery, membersQuery] [recentNoted, membersQuery] := by
  have names : (club.tables.map (·.name)).Nodup := by decide
  have resolved : resolve [recent, members] club =
      .ok ([recentQuery, membersQuery] ++ club.tables.map Query.lookup) := by cbv
  have widened : resolve [recent, members]
      { club with tables := [events.addColumn eventNoted, users] } =
        .ok ([recentNoted, membersQuery] ++
          [events.addColumn eventNoted, users].map Query.lookup) := by cbv
  obtain ⟨declared, declared', same, again, updates, -⟩ :=
    resolve_widened [recent, members] club [] [users] events eventNoted _ rfl names rfl resolved
  obtain rfl : [recentQuery, membersQuery] = declared := List.append_cancel_right same
  obtain rfl : [recentNoted, membersQuery] = declared' :=
    List.append_cancel_right (Except.ok.inj (widened.symm.trans again))
  exact ⟨names, rfl, resolved, widened, updates⟩

end Introspect
