import Introspect.Proofs.Entries
import Introspect.Types.Registry

/-! Registration: what a registry knows after it took in enums.

    An insertion is seen at its own name only, and there it replaces what was known. Registering is
    refused for a name that is taken, so it never replaces anything. A whole list of enums is taken
    in exactly when the names are new and differ from each other (`registerAll_eq_none`), and then
    the registry knows each enum under its name and everything else as before. Since a registry is
    what it knows (`eq_of_find?`), this tells it whole (`registerAll_iff_extends`): enums in any
    order leave the same registry (`registerAll_perm`), and one extension after another is an
    extension (`Extends.trans`).

    The fresh registry knows the scalars under their names and nothing else
    (`find?_fresh_rawName`, `find?_fresh_of_other`). -/

namespace Introspect.Registry

variable {r r' : Registry} {e : Enumeration} {es : List Enumeration}

/-! ### Look-ups -/

theorem lookup_eq_ok {k : String} {t : ColumnType} : r.lookup k = .ok t ↔ r.find? k = some t := by
  rw [lookup]
  cases r.find? k with
  | none => simp
  | some u => simp

theorem contains_iff {k : String} : r.contains k = true ↔ ∃ t, r.find? k = some t :=
  Option.isSome_iff_exists

/-! ### Insertions -/

/-- A name that is inserted is known by its type; other names keep theirs. -/
theorem find?_insert (r : Registry) (name k : String) (type : ColumnType) :
    (r.insert name type).find? k = if k = name then some type else r.find? k := by
  rw [find?, insert, find?_insertEntry]
  by_cases hk : k = name
  · rw [if_pos hk, if_pos hk, Option.map_some]
  · rw [if_neg hk, if_neg hk, find?]

/-! ### Registrations -/

theorem register_eq_ok : r.register e = .ok r' ↔
    r.contains e.name = false ∧ r' = r.insert e.name (.enumeration e.name e.exported) := by
  rw [register]
  cases r.contains e.name with
  | true => simp
  | false => simp [eq_comm]

theorem register_eq_error {err : RegistryError} :
    r.register e = .error err ↔ r.contains e.name = true ∧ err = .duplicate e.name := by
  rw [register]
  cases r.contains e.name with
  | true => simp [eq_comm]
  | false => simp

theorem find?_register (h : r.register e = .ok r') (k : String) :
    r'.find? k = if k = e.name then some (.enumeration k (Name.exported k)) else r.find? k := by
  obtain ⟨-, rfl⟩ := register_eq_ok.1 h
  rw [find?_insert]
  by_cases hk : k = e.name
  · rw [if_pos hk, if_pos hk, hk]; rfl
  · rw [if_neg hk, if_neg hk]

theorem contains_register (h : r.register e = .ok r') (k : String) :
    r'.contains k = true ↔ k = e.name ∨ r.contains k = true := by
  rw [contains, find?_register h k]
  by_cases hk : k = e.name
  · simp [hk]
  · simp [hk, contains]

theorem registerAll_cons_eq_none : r.registerAll (e :: es) = (none, r') ↔
    ∃ r₁, r.register e = .ok r₁ ∧ r₁.registerAll es = (none, r') := by
  rw [registerAll]
  cases r.register e with
  | error err => simp
  | ok r₁ => simp

/-- Enums are all taken in exactly when their names are free and differ from each other. -/
theorem registerAll_eq_none : ∀ {es : List Enumeration} {r : Registry},
    (r.registerAll es).1 = none ↔ Fresh (r.contains · = true) (es.map (·.name))
  | [], r => by simp [registerAll, fresh_nil]
  | e :: es, r => by
    rw [registerAll, List.map_cons, fresh_cons, Bool.not_eq_true]
    cases h : r.register e with
    | error err =>
      have taken : r.contains e.name ≠ false := by
        intro free
        rw [register_eq_ok.2 ⟨free, rfl⟩] at h
        cases h
      simp [taken]
    | ok r₁ =>
      rw [registerAll_eq_none, fresh_congr (contains_register h)]
      exact (and_iff_right (register_eq_ok.1 h).1).symm

/-- After a list of enums was taken in, each is known under its name, and nothing else changed. -/
theorem find?_registerAll : ∀ {es : List Enumeration} {r r' : Registry},
    r.registerAll es = (none, r') → ∀ k, r'.find? k =
      if k ∈ es.map (·.name) then some (.enumeration k (Name.exported k)) else r.find? k
  | [], r, r', h, k => by cases h; simp
  | e :: es, r, r', h, k => by
    obtain ⟨r₁, first, rest⟩ := registerAll_cons_eq_none.1 h
    rw [find?_registerAll rest k, find?_register first k, List.map_cons]
    by_cases hk : k ∈ es.map (·.name)
    · rw [if_pos hk, if_pos (List.mem_cons_of_mem _ hk)]
    · by_cases he : k = e.name
      · rw [if_neg hk, if_pos he, if_pos (he ▸ List.mem_cons_self)]
      · rw [if_neg hk, if_neg he, if_neg (by simpa [he] using hk)]

/-- What stops a registration is the first enum whose name is taken, when those before it are
    registered already. -/
theorem registerAll_eq_some {err : RegistryError} : ∀ {es : List Enumeration} {r r' : Registry},
    r.registerAll es = (some err, r') ↔ ∃ before e after, es = before ++ e :: after ∧
      r.registerAll before = (none, r') ∧ r'.contains e.name = true ∧ err = .duplicate e.name
  | [], r, r' => by simp [registerAll]
  | e :: es, r, r' => by
    rw [exists_place_cons]
    cases h : r.register e with
    | error stop =>
      obtain ⟨taken, rfl⟩ := register_eq_error.1 h
      have stops (es : List Enumeration) :
          r.registerAll (e :: es) = (some (.duplicate e.name), r) := by rw [registerAll, h]
      rw [stops]
      constructor
      · rintro ⟨⟩
        exact .inl ⟨rfl, taken, rfl⟩
      · rintro (⟨⟨⟩, -, rfl⟩ | ⟨before, x, after, -, all, -⟩)
        · rfl
        · rw [stops] at all
          cases all
    | ok r₁ =>
      have goes (es : List Enumeration) : r.registerAll (e :: es) = r₁.registerAll es := by
        rw [registerAll, h]
      simp only [goes]
      rw [registerAll_eq_some, or_iff_right]
      rintro ⟨⟨⟩, taken, -⟩
      rw [(register_eq_ok.1 h).1] at taken
      cases taken

theorem find?_registerAll_of_mem (h : r.registerAll es = (none, r')) (he : e ∈ es) :
    r'.find? e.name = some (.enumeration e.name e.exported) := by
  rw [find?_registerAll h, if_pos (List.mem_map_of_mem he)]
  rfl

theorem find?_registerAll_of_contains (h : r.registerAll es = (none, r')) {k : String}
    (hk : r.contains k = true) : r'.find? k = r.find? k := by
  have free := (registerAll_eq_none.1 (congrArg Prod.fst h)).2
  rw [find?_registerAll h, if_neg fun again => free k again hk]

theorem contains_registerAll (h : r.registerAll es = (none, r')) {k : String} :
    r'.contains k = true ↔ r.contains k = true ∨ ∃ e ∈ es, e.name = k := by
  rw [← List.mem_map, contains, find?_registerAll h]
  by_cases hk : k ∈ es.map (·.name)
  · simp [hk]
  · simp [hk, contains]

/-! ### Registries that know the same -/

theorem nodup_names (r : Registry) : (r.entries.map (·.1)).Nodup := nodup_of_ascending r.ascending

/-- Registries that know the same are equal, since their entries are in order. -/
theorem eq_of_find? (same : ∀ k, r.find? k = r'.find? k) : r = r' := by
  have entry (r : Registry) (k : String) :
      r.entries.find? (·.1 = k) = (r.find? k).map fun t => (k, t) := by
    rw [find?, Option.map_map]
    cases found : r.entries.find? (·.1 = k) with
    | none => rfl
    | some x =>
      obtain rfl : x.1 = k := by simpa using List.find?_some found
      rfl
  have entries : r.entries = r'.entries :=
    eq_of_find?_ascending r.ascending r'.ascending fun k => by rw [entry, entry, same]
  cases r
  cases r'
  cases entries
  rfl

/-! ### Extensions -/

/-- A registry with enums added to another one: their names were free and differ from each other,
    each is known under its name, and everything else is known as before. -/
structure Extends (r : Registry) (es : List Enumeration) (r' : Registry) : Prop where
  fresh : Fresh (r.contains · = true) (es.map (·.name))
  find? : ∀ k, r'.find? k =
    if k ∈ es.map (·.name) then some (.enumeration k (Name.exported k)) else r.find? k

/-- Enums are all taken in exactly when the registry becomes the one extended by them. -/
theorem registerAll_iff_extends : r.registerAll es = (none, r') ↔ r.Extends es r' := by
  constructor
  · intro h
    exact ⟨registerAll_eq_none.1 (congrArg Prod.fst h), find?_registerAll h⟩
  · intro h
    have all : r.registerAll es = (none, (r.registerAll es).2) :=
      Prod.ext (registerAll_eq_none.2 h.fresh) rfl
    rw [all]
    refine congrArg (Prod.mk none) (eq_of_find? fun k => ?_)
    rw [find?_registerAll all, h.find?]

/-- The order in which enums are taken in does not matter. -/
theorem registerAll_perm {es' : List Enumeration} (perm : es.Perm es')
    (h : r.registerAll es = (none, r')) : r.registerAll es' = (none, r') := by
  obtain ⟨fresh, found⟩ := registerAll_iff_extends.1 h
  have names : (es.map (·.name)).Perm (es'.map (·.name)) := perm.map _
  refine registerAll_iff_extends.2 ⟨⟨names.nodup_iff.1 fresh.1, fun k hk => ?_⟩, fun k => ?_⟩
  · exact fresh.2 k (names.mem_iff.2 hk)
  · rw [found]
    simp only [names.mem_iff]

/-- Of enums with different names, what stops a registration is the first whose name was taken from
    the start. -/
theorem registerAll_eq_some_of_nodup {err : RegistryError} (distinct : (es.map (·.name)).Nodup) :
    r.registerAll es = (some err, r') ↔ ∃ before e after, es = before ++ e :: after ∧
      r.Extends before r' ∧ r.contains e.name = true ∧ err = .duplicate e.name := by
  rw [registerAll_eq_some]
  refine exists_congr fun before => exists_congr fun e => exists_congr fun after =>
    and_congr_right fun parts => ?_
  rw [registerAll_iff_extends]
  refine and_congr_right fun added => and_congr_left fun _ => ?_
  rw [contains_registerAll (registerAll_iff_extends.2 added), or_iff_left]
  rw [parts] at distinct
  exact fun met => not_mem_before distinct (List.mem_map.2 met)

theorem extends_of_register (h : r.register e = .ok r') : r.Extends [e] r' :=
  registerAll_iff_extends.1 (registerAll_cons_eq_none.2 ⟨r', h, rfl⟩)

namespace Extends

variable {es' : List Enumeration} {r'' : Registry} {k : String}

theorem refl (r : Registry) : r.Extends [] r := ⟨fresh_nil, by simp⟩

theorem kept (h : r.Extends es r') {t : ColumnType} (found : r.find? k = some t) :
    r'.find? k = some t := by
  rw [find?_registerAll_of_contains (registerAll_iff_extends.2 h) (contains_iff.2 ⟨t, found⟩), found]

theorem contains (h : r.Extends es r') :
    r'.contains k = true ↔ r.contains k = true ∨ ∃ e ∈ es, e.name = k :=
  contains_registerAll (registerAll_iff_extends.2 h)

theorem trans (h : r.Extends es r') (h' : r'.Extends es' r'') : r.Extends (es ++ es') r'' := by
  refine ⟨⟨?_, fun k hk => ?_⟩, fun k => ?_⟩
  · rw [List.map_append, List.nodup_append]
    refine ⟨h.fresh.1, h'.fresh.1, ?_⟩
    rintro k hk _ again rfl
    exact h'.fresh.2 k again (h.contains.2 (.inr (List.mem_map.1 hk)))
  · rw [List.map_append, List.mem_append] at hk
    rcases hk with hk | hk
    · exact h.fresh.2 k hk
    · exact fun old => h'.fresh.2 k hk (h.contains.2 (.inl old))
  · rw [h'.find?, h.find?, List.map_append]
    by_cases hk : k ∈ es'.map (·.name)
    · rw [if_pos hk, if_pos (List.mem_append_right _ hk)]
    · simp [hk]

end Extends

/-! ### Entries -/

theorem mem_entries {k : String} {t : ColumnType} : (k, t) ∈ r.entries ↔ r.find? k = some t := by
  rw [find?, Option.map_eq_some_iff]
  constructor
  · intro h
    exact ⟨(k, t), (find?_key_of_nodup r.nodup_names).2 ⟨h, rfl⟩, rfl⟩
  · rintro ⟨x, found, rfl⟩
    obtain ⟨hx, rfl⟩ := (find?_key_of_nodup r.nodup_names).1 found
    exact hx

theorem mem_enumNames {k : String} :
    k ∈ r.enumNames ↔ ∃ t, r.find? k = some t ∧ t.isEnumeration = true := by
  simp [enumNames, mem_entries]

theorem enumNames_ascending (r : Registry) : r.enumNames.Pairwise (· < ·) :=
  List.pairwise_map.2 (r.ascending.filter _)

/-! ### The fresh registry -/

theorem mem_all (x : Scalar) : x ∈ Scalar.all := by
  cases x <;> decide

theorem nodup_rawNames : (Scalar.all.map Scalar.rawName).Nodup := by decide

theorem find?_fresh (k : String) :
    fresh.find? k = (Scalar.all.find? (·.rawName = k)).map .scalar := by
  have entries : fresh.entries = ascendingEntries (Scalar.all.map fun x => (x.rawName, .scalar x)) :=
    rfl
  have distinct : (Scalar.all.reverse.map Scalar.rawName).Nodup :=
    (Scalar.all.reverse_perm.map _).nodup_iff.2 nodup_rawNames
  rw [find?, entries, find?_ascendingEntries, ← List.map_reverse, List.find?_map, Option.map_map,
    ← find?_key_perm Scalar.all.reverse_perm distinct]
  rfl

/-- Each scalar is found under its own name. -/
theorem find?_fresh_rawName (x : Scalar) : fresh.find? x.rawName = some (.scalar x) := by
  rw [find?_fresh, (find?_key_of_nodup nodup_rawNames).2 ⟨mem_all x, rfl⟩]
  rfl

theorem find?_fresh_of_other {k : String} (other : ∀ x : Scalar, x.rawName ≠ k) :
    fresh.find? k = none := by
  rw [find?_fresh, List.find?_eq_none.2 fun x _ => by simpa using other x]
  rfl

/-- A registry in which the scalars are known under their names, and under no others, has as many
    entries as there are scalars and enums. -/
theorem size_eq (names : ∀ k, (∃ t, r.find? k = some t ∧ t.isEnumeration = false) ↔
    ∃ x : Scalar, x.rawName = k) : r.size = Scalar.all.length + r.enumNames.length := by
  have distinct : ((r.entries.filter (!·.2.isEnumeration)).map (·.1)).Nodup :=
    r.nodup_names.sublist (List.filter_sublist.map _)
  have scalars : ((r.entries.filter (!·.2.isEnumeration)).map (·.1)).Perm
      (Scalar.all.map Scalar.rawName) := by
    refine (List.perm_ext_iff_of_nodup distinct nodup_rawNames).2 fun k => ?_
    simpa [mem_entries, mem_all] using names k
  have count := scalars.length_eq
  rw [List.length_map, List.length_map] at count
  rw [size, enumNames, List.length_map, ← count, Nat.add_comm]
  exact List.length_eq_length_filter_add _

end Introspect.Registry
