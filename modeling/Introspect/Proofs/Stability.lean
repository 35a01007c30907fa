import Mathlib.Data.List.FinRange
import Introspect.Proofs.Report

/-! Stability: what a run keeps when definitions or tables are put in another order, or a table is
    added.

    A run passes over its definitions with the names that it has met, and over the tables with those
    that it was given, and yet the verdict is one about all of them together: what is acceptable is
    so in any order (`Acceptable.perm`), and tables under different names are found in any order
    (`Acceptable.of_tables`). So the queries of a run move with what they are made from, and nothing
    else happens (`resolve_shuffled`). A table at the end hides none before it. It adds its lookup
    query to the run, or the one error that the name of this query is taken (`resolve_addTable`). -/

namespace Introspect

variable {d : Definition} {ds ds' : List Definition} {s s' : Schema} {t : Table} {qs : List Query}

/-! ### Shuffled lists -/

/-- The items of a list, where at each place stands the one that stood where the place is sent. -/
def shuffled {α : Type} (xs : List α) (σ : Equiv.Perm (Fin xs.length)) : List α :=
  List.ofFn fun i => xs[σ i]

theorem shuffled_perm {α : Type} (xs : List α) (σ : Equiv.Perm (Fin xs.length)) :
    (shuffled xs σ).Perm xs := by
  have perm : (shuffled xs σ).Perm (List.ofFn xs.get) := σ.ofFn_comp_perm xs.get
  rwa [List.ofFn_get] at perm

/-! ### Acceptance in another order -/

namespace Acceptable

theorem perm (h : Acceptable ds s) (perm : ds.Perm ds') : Acceptable ds' s := by
  refine ⟨?_, ?_, ?_⟩
  · -- names
    exact (perm.map _).nodup_iff.1 h.names
  · -- lookups
    exact fun d hd => h.lookups d (perm.mem_iff.2 hd)
  · -- each
    exact fun d hd => h.each d (perm.mem_iff.2 hd)

theorem of_tables (h : Acceptable ds s) (perm : s.tables.Perm s'.tables)
    (same : ∀ name, s.table? name = s'.table? name) : Acceptable ds s' := by
  refine ⟨h.names, ?_, ?_⟩
  · -- lookups
    exact fun d hd t ht => h.lookups d hd t (perm.mem_iff.2 ht)
  · -- each
    intro d hd
    obtain ⟨⟨t, found, taken⟩, mode⟩ := h.each d hd
    exact ⟨⟨t, same d.table ▸ found, taken⟩, mode⟩

end Acceptable

/-! ### Definitions in another order -/

/-- The verdict is the same in any order. The first holder of a name may not be the same one, but
    there is a second holder in either order. -/
theorem exists_resolve_perm (perm : ds.Perm ds') :
    (∃ qs, resolve ds s = .ok qs) ↔ ∃ qs, resolve ds' s = .ok qs := by
  constructor
  · rintro ⟨qs, h⟩
    exact ((Acceptable.of_resolve h).perm perm).exists_ok
  · rintro ⟨qs, h⟩
    exact ((Acceptable.of_resolve h).perm perm.symm).exists_ok

/-- Each definition takes its query along. -/
theorem resolve_shuffled_definitions (σ : Equiv.Perm (Fin ds.length)) (h : resolve ds s = .ok qs) :
    ∃ query : Fin ds.length → Query, qs = List.ofFn query ++ s.tables.map Query.lookup ∧
      resolve (shuffled ds σ) s = .ok (List.ofFn (query ∘ σ) ++ s.tables.map Query.lookup) := by
  have acceptable := Acceptable.of_resolve h
  have each (i : Fin ds.length) : ∃ q, ds[i].resolve s = .ok q :=
    Definition.exists_resolve.2 (acceptable.each _ (List.getElem_mem _))
  choose query resolved using each
  have inOrder : List.Forall₂ (fun d q => d.resolve s = .ok q) (List.ofFn ds.get)
      (List.ofFn query) := forall₂_ofFn resolved
  rw [List.ofFn_get] at inOrder
  have made := acceptable.resolve_eq inOrder
  rw [h] at made
  have moved := (acceptable.perm (shuffled_perm ds σ).symm).resolve_eq
    (forall₂_ofFn fun i => resolved (σ i))
  exact ⟨query, Except.ok.inj made, moved⟩

/-! ### Tables in another order -/

/-- The schema with its tables in another order. -/
def Schema.shuffled (s : Schema) (σ : Equiv.Perm (Fin s.tables.length)) : Schema :=
  { s with tables := Introspect.shuffled s.tables σ }

variable {σ : Equiv.Perm (Fin s.tables.length)}

theorem Schema.table?_shuffled (names : (s.tables.map (·.name)).Nodup) (name : String) :
    s.table? name = (s.shuffled σ).table? name :=
  find?_key_perm (shuffled_perm s.tables σ).symm names

theorem Definition.resolve_congr (same : s.table? d.table = s'.table? d.table) :
    d.resolve s = d.resolve s' := by
  rw [resolve_eq, resolve_eq, same]

theorem exists_resolve_tables (names : (s.tables.map (·.name)).Nodup) :
    (∃ qs, resolve ds (s.shuffled σ) = .ok qs) ↔ ∃ qs, resolve ds s = .ok qs := by
  have perm : (s.shuffled σ).tables.Perm s.tables := shuffled_perm s.tables σ
  have same (name : String) : s.table? name = (s.shuffled σ).table? name :=
    Schema.table?_shuffled names name
  constructor
  · rintro ⟨qs, h⟩
    exact ((Acceptable.of_resolve h).of_tables perm fun name => (same name).symm).exists_ok
  · rintro ⟨qs, h⟩
    exact ((Acceptable.of_resolve h).of_tables perm.symm same).exists_ok

/-- Each table takes its lookup query along. -/
theorem resolve_shuffled_tables (names : (s.tables.map (·.name)).Nodup)
    (h : resolve ds s = .ok qs) : ∃ declared, qs = declared ++ s.tables.map Query.lookup ∧
      resolve ds (s.shuffled σ) =
        .ok (declared ++ List.ofFn fun i => Query.lookup s.tables[σ i]) := by
  obtain ⟨-, -, declared, each, rfl⟩ := resolve_eq_ok.1 h
  have same (name : String) : s.table? name = (s.shuffled σ).table? name :=
    Schema.table?_shuffled names name
  have acceptable := (Acceptable.of_resolve h).of_tables (shuffled_perm s.tables σ).symm same
  have each' : List.Forall₂ (fun d q => d.resolve (s.shuffled σ) = .ok q) ds declared :=
    each.imp fun d q resolved => Definition.resolve_congr (same d.table) ▸ resolved
  have lookups : (s.shuffled σ).tables.map Query.lookup =
      List.ofFn fun i => Query.lookup s.tables[σ i] := List.map_ofFn
  exact ⟨declared, rfl, lookups ▸ acceptable.resolve_eq each'⟩

/-- SHUFFLED: definitions resolve in any order if they do in one, and their queries move with them;
    and so it is with tables under different names and their lookup queries. -/
theorem resolve_shuffled (ds : List Definition) (s : Schema) :
    (∀ σ : Equiv.Perm (Fin ds.length),
      ((∃ qs, resolve (shuffled ds σ) s = .ok qs) ↔ ∃ qs, resolve ds s = .ok qs) ∧
      ∀ qs, resolve ds s = .ok qs → ∃ query : Fin ds.length → Query,
        qs = List.ofFn query ++ s.tables.map Query.lookup ∧
        resolve (shuffled ds σ) s = .ok (List.ofFn (query ∘ σ) ++ s.tables.map Query.lookup)) ∧
    ∀ σ : Equiv.Perm (Fin s.tables.length), (s.tables.map (·.name)).Nodup →
      ((∃ qs, resolve ds (s.shuffled σ) = .ok qs) ↔ ∃ qs, resolve ds s = .ok qs) ∧
      ∀ qs, resolve ds s = .ok qs → ∃ declared,
        qs = declared ++ s.tables.map Query.lookup ∧
        resolve ds (s.shuffled σ) =
          .ok (declared ++ List.ofFn fun i => Query.lookup s.tables[σ i]) := by
  refine ⟨fun σ => ⟨?_, fun qs h => resolve_shuffled_definitions σ h⟩, fun σ names => ?_⟩
  · exact exists_resolve_perm (shuffled_perm ds σ)
  · exact ⟨exists_resolve_tables names, fun qs h => resolve_shuffled_tables names h⟩

/-- A table of users. -/
def users : Table := ⟨"", "public", "users", [eventId], [eventId], []⟩

/-- A schema of events and users. -/
def club : Schema := ⟨"public", [], [events, users]⟩

/-- A definition on users. -/
def members : Definition := ⟨"members", "users", [], ["-id"], some "paged"⟩

/-- What it defines. -/
def membersQuery : Query := ⟨"members", users, [], [⟨eventId, true⟩], false, true, true, false⟩

theorem resolve_shuffled_club :
    resolve [recent, members] club =
      .ok ([recentQuery, membersQuery] ++ club.tables.map Query.lookup) ∧
    resolve [members, recent] club =
      .ok ([membersQuery, recentQuery] ++ club.tables.map Query.lookup) ∧
    (club.tables.map (·.name)).Nodup ∧
    resolve [recent, members] ⟨"public", [], [users, events]⟩ =
      .ok ([recentQuery, membersQuery] ++ [Query.lookup users, Query.lookup events]) := by
  have resolved : resolve [recent, members] club =
      .ok ([recentQuery, membersQuery] ++ club.tables.map Query.lookup) := by cbv
  have names : (club.tables.map (·.name)).Nodup := by decide
  obtain ⟨definitions, tables⟩ := resolve_shuffled [recent, members] club
  let swap : Equiv.Perm (Fin 2) := Equiv.swap 0 1
  obtain ⟨query, queries, moved⟩ := (definitions swap).2 _ resolved
  obtain ⟨declared, same, kept⟩ := (tables swap names).2 _ resolved
  replace queries : [recentQuery, membersQuery] = [query (0 : Fin 2), query (1 : Fin 2)] :=
    List.append_cancel_right queries
  obtain rfl : [recentQuery, membersQuery] = declared := List.append_cancel_right same
  obtain ⟨first, second⟩ : recentQuery = query (0 : Fin 2) ∧ membersQuery = query (1 : Fin 2) := by
    simpa using queries
  refine ⟨resolved, ?_, names, kept⟩
  rw [first, second]
  exact moved

/-! ### One more table -/

/-- The schema with one more table, at its end. -/
def Schema.addTable (s : Schema) (t : Table) : Schema := { s with tables := s.tables ++ [t] }

theorem Schema.table?_addTable {name : String} {found : Table} (h : s.table? name = some found) :
    (s.addTable t).table? name = some found :=
  (List.prefix_append s.tables [t]).find?_eq_some h

theorem Definition.resolve_ok_addTable {q : Query} (h : d.resolve s = .ok q) :
    d.resolve (s.addTable t) = .ok q := by
  obtain ⟨u, found, h⟩ := resolve_eq_ok.1 h
  exact resolve_eq_ok.2 ⟨u, Schema.table?_addTable found, h⟩

/-- If all definitions resolve, nothing new can be wrong but that the name of the lookup query of
    the new table is taken. -/
theorem resolveErrors_addTable (h : resolveErrors ds s = []) :
    resolveErrors ds (s.addTable t) = (lookupClash? ds t).toList := by
  obtain ⟨distinct, free, declared, each⟩ := resolveErrors_eq_nil.1 h
  have uses : (firstUses [] ds).flatMap (useErrors (s.addTable t)) = [] := by
    rw [useErrors_eq_nil, fresh_mem_nil]
    refine ⟨distinct, fun d hd => ?_⟩
    obtain ⟨q, resolved⟩ := exists_forall₂_iff.1 ⟨declared, each⟩ d hd
    exact ⟨q, Definition.resolve_ok_addTable resolved⟩
  have lookups : s.tables.filterMap (lookupClash? ds) = [] :=
    List.filterMap_eq_nil_iff.2 fun t ht => lookupClash?_eq_none.2 (free t ht)
  have last : [t].filterMap (lookupClash? ds) = (lookupClash? ds t).toList := by
    cases clash : lookupClash? ds t with
    | none => simp [clash]
    | some e => simp [clash]
  rw [resolveErrors, uses, Schema.addTable, List.filterMap_append, lookups, last]
  rfl

/-- ADDED: a further table changes no query of a run and adds its lookup query behind them, unless
    the name of that is taken by a definition, which then is the one error. -/
theorem resolve_addTable (ds : List Definition) (s : Schema) (t : Table) (qs : List Query)
    (h : resolve ds s = .ok qs) :
    ((∀ d ∈ ds, d.exported ≠ Name.exported ("Get" ++ t.exported)) →
      resolve ds (s.addTable t) = .ok (qs ++ [Query.lookup t])) ∧
    ∀ d ∈ ds, d.exported = Name.exported ("Get" ++ t.exported) →
      resolve ds (s.addTable t) = .error [.duplicateQuery d.name] := by
  obtain ⟨distinct, free, declared, each, rfl⟩ := resolve_eq_ok.1 h
  refine ⟨fun new => ?_, fun d hd taken => ?_⟩
  · -- new
    refine resolve_eq_ok.2
      ⟨distinct, ?_, declared, each.imp fun _ _ => Definition.resolve_ok_addTable, ?_⟩
    · rw [Schema.addTable, List.forall_mem_append, List.forall_mem_singleton]
      exact ⟨free, new⟩
    · rw [Schema.addTable, List.map_append, List.append_assoc]
      rfl
  · -- taken
    have none : resolveErrors ds s = [] := resolveErrors_eq_nil.2 ⟨distinct, free, declared, each⟩
    have found : ds.find? (·.exported = Name.exported (Query.lookupName t)) = some d :=
      (find?_key_of_nodup distinct).2 ⟨hd, taken⟩
    rw [resolve_eq, resolveErrors_addTable none, lookupClash?, found]
    rfl

/-- A table of guests. -/
def guests : Table := { users with name := "guests" }

/-- A definition on events whose name is that of the lookup query of users. -/
def getUsers : Definition := .new "get_users" "events"

/-- What it defines as long as there are no users. -/
def getUsersQuery : Query := ⟨"get_users", events, [], [], false, false, false, false⟩

theorem resolve_addTable_users :
    resolve [getUsers] diary = .ok [getUsersQuery, Query.lookup events] ∧
    resolve [getUsers] (diary.addTable guests) =
      .ok [getUsersQuery, Query.lookup events, Query.lookup guests] ∧
    resolve [getUsers] (diary.addTable users) = .error [.duplicateQuery "get_users"] := by
  have resolved : resolve [getUsers] diary = .ok [getUsersQuery, Query.lookup events] := by cbv
  have named : getUsers.exported = "GetUsers" := by cbv
  have ofUsers : Name.exported ("Get" ++ users.exported) = "GetUsers" := by cbv
  have ofGuests : Name.exported ("Get" ++ guests.exported) = "GetGuests" := by cbv
  obtain ⟨free, -⟩ := resolve_addTable [getUsers] diary guests _ resolved
  obtain ⟨-, taken⟩ := resolve_addTable [getUsers] diary users _ resolved
  refine ⟨resolved, free fun d hd => ?_, taken getUsers (by simp) (named.trans ofUsers.symm)⟩
  obtain rfl := List.mem_singleton.1 hd
  rw [named, ofGuests]
  decide

end Introspect
