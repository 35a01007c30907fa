import Introspect.Session
import Introspect.Proofs.CodeModel
import Introspect.Proofs.Refusal

/-! Sessions: what builds and registrations leave in a registry.

    A build that fails does not take back what it registered. How far it came with the enums is seen
    in its outcome: none of them if they were not delivered, those before the first whose name was
    taken if that is the error, and otherwise all of them, whatever went wrong later
    (`Schema.Leaves`). So a registry only ever gains enums, each under its own name
    (`Registry.Extends`), and so does a session, whatever it is asked (`Session.extends_run`). From
    this one invariant follows what a registry that was reached is like (`Registry.Sound`). -/

namespace Introspect

variable {c : Catalog} {n : String} {r r' : Registry} {es : List Enumeration}

/-! ### Builds -/

/-- What a build leaves in a registry `r`, by its outcome. -/
inductive Schema.Leaves (c : Catalog) (r : Registry) : Except BuildError Schema → Registry → Prop
  | unanswered {i : InspectError} (answer : c.enums = .error i) : Leaves c r (.error (.inspect i)) r
  | stopped {labels : List LabelRow} {before after : List Enumeration} {e : Enumeration}
      {r' : Registry} (answer : c.enums = .ok labels)
      (place : Enumeration.group labels = before ++ e :: after) (added : r.Extends before r')
      (taken : r.contains e.name = true) : Leaves c r (.error (.registry (.duplicate e.name))) r'
  | passed {labels : List LabelRow} {outcome : Except BuildError Schema} {r' : Registry}
      (answer : c.enums = .ok labels) (added : r.Extends (Enumeration.group labels) r')
      (other : ∀ e, outcome ≠ .error (.registry e)) : Leaves c r outcome r'

theorem Table.build_ne_registry {row : TableRow} (e : RegistryError) :
    Table.build c row ≠ .error (.registry e) := by
  simp [Table.build_eq_error, columnsOfRows_eq_error]

theorem typedTables_ne_registry (e : RegistryError) :
    typedTables c n r ≠ .error (.registry e) := by
  simp [typedTables_eq_error, buildTables_eq_error, List.findSome?_eq_some_iff, unmapped?_eq_some,
    Table.build_ne_registry]

theorem Schema.leaves_of_build (c : Catalog) (n : String) (r : Registry) :
    Schema.Leaves c r (Schema.build c n r).1 (Schema.build c n r).2 := by
  rw [Schema.build]
  cases answer : c.enums with
  | error i => exact .unanswered answer
  | ok labels =>
    dsimp only
    cases registered : r.registerAll (Enumeration.group labels) with
    | mk stop r' =>
      cases stop with
      | some err =>
        obtain ⟨before, e, after, place, added, taken, rfl⟩ :=
          (Registry.registerAll_eq_some_of_nodup Enumeration.nodup_names_group).1 registered
        exact .stopped answer place added taken
      | none =>
        refine .passed answer (Registry.registerAll_iff_extends.1 registered) fun e h => ?_
        exact typedTables_ne_registry e (map_eq_error.1 h)

namespace Schema.Leaves

variable {outcome : Except BuildError Schema} {labels : List LabelRow} {e : Enumeration}

theorem added (h : Leaves c r outcome r') : ∃ es, r.Extends es r' := by
  cases h with
  | unanswered => exact ⟨[], .refl r⟩
  | stopped _ _ added => exact ⟨_, added⟩
  | passed _ added => exact ⟨_, added⟩

/-- The first enum is known after every build: either it was before, or it is registered. -/
theorem knows_first (h : Leaves c r outcome r') (answer : c.enums = .ok labels)
    (first : Enumeration.group labels = e :: es) : r'.contains e.name = true := by
  cases h with
  | unanswered failed => simp [failed] at answer
  | @stopped _ before _ _ _ asked place added taken =>
    cases asked.symm.trans answer
    rw [added.contains]
    cases before with
    | nil =>
      obtain ⟨rfl, -⟩ := List.cons.inj (first.symm.trans place)
      exact .inl taken
    | cons _ _ =>
      obtain ⟨rfl, -⟩ := List.cons.inj (first.symm.trans place)
      exact .inr ⟨e, List.mem_cons_self, rfl⟩
  | passed asked added =>
    cases asked.symm.trans answer
    exact added.contains.2 (.inr ⟨e, first ▸ List.mem_cons_self, rfl⟩)

end Schema.Leaves

theorem Schema.build_of_taken {labels : List LabelRow} {e : Enumeration}
    (answer : c.enums = .ok labels) (first : Enumeration.group labels = e :: es)
    (taken : r.contains e.name = true) :
    (Schema.build c n r).1 = .error (.registry (.duplicate e.name)) := by
  rw [Schema.build, answer]
  simp [first, Registry.registerAll, Registry.register, taken]

/-- A build is stopped by a taken name whenever a build before it was given the same labels, unless
    there are none. -/
theorem Schema.stopped_again_iff {outcome : Except BuildError Schema} {labels : List LabelRow}
    {c' : Catalog} (left : Schema.Leaves c r outcome r') (answer : c.enums = .ok labels)
    (again : c'.enums = .ok labels) :
    (∃ k, (Schema.build c' n r').1 = .error (.registry (.duplicate k))) ↔ labels ≠ [] := by
  cases labels with
  | nil =>
    refine iff_of_false ?_ (by simp)
    rintro ⟨k, h⟩
    have second := Schema.leaves_of_build c' n r'
    rw [h] at second
    cases second with
    | stopped asked place =>
      cases asked.symm.trans again
      simp [Enumeration.group] at place
    | passed _ _ other => exact other _ rfl
  | cons row rows =>
    refine iff_of_true ?_ (by simp)
    have named : row.name ∈ (Enumeration.group (row :: rows)).map (·.name) :=
      Enumeration.mem_names_group.2 ⟨row, List.mem_cons_self, rfl⟩
    cases first : Enumeration.group (row :: rows) with
    | nil => simp [first] at named
    | cons e es =>
      exact ⟨e.name, Schema.build_of_taken again first (left.knows_first answer first)⟩

/-- LEFT BEHIND: after every build the registry knows all that it knew, and has gained the enums that
    the outcome tells. So a second build that is given the same labels is stopped by a taken name,
    unless there are none. -/
theorem Schema.build_leaves (c : Catalog) (n : String) (r : Registry) :
    (∀ k t, r.find? k = some t → (Schema.build c n r).2.find? k = some t) ∧
    Schema.Leaves c r (Schema.build c n r).1 (Schema.build c n r).2 ∧
    ∀ (c' : Catalog) (n' : String) (labels : List LabelRow),
      c.enums = .ok labels → c'.enums = .ok labels →
        ((∃ k, (Schema.build c' n' (Schema.build c n r).2).1 = .error (.registry (.duplicate k))) ↔
          labels ≠ []) := by
  have left := Schema.leaves_of_build c n r
  obtain ⟨es, added⟩ := left.added
  exact ⟨fun k t found => added.kept found, left, fun c' n' labels answer again =>
    Schema.stopped_again_iff left answer again⟩

open Snapshot in
theorem Schema.build_leaves_flawed :
    Registry.fresh.find? "int8" = some (.scalar .int8) ∧ flawed.toCatalog.enums = .ok flawed.labels ∧
    (Schema.build flawed.toCatalog "public" .fresh).2.find? "int8" = some (.scalar .int8) ∧
    ∃ k, (Schema.build flawed.toCatalog "public"
      (Schema.build flawed.toCatalog "public" .fresh).2).1 = .error (.registry (.duplicate k)) := by
  have known : Registry.fresh.find? "int8" = some (.scalar .int8) := by cbv
  obtain ⟨kept, -, again⟩ := Schema.build_leaves flawed.toCatalog "public" .fresh
  exact ⟨known, rfl, kept _ _ known, (again flawed.toCatalog "public" _ rfl rfl).2 (by simp [flawed])⟩

/-! ### Calls -/

namespace Session

/-- What a session is asked. -/
inductive Call
  | register (e : Enumeration)
  | build (c : Catalog) (schema : String)

/-- The session after a call, whether it succeeded or not. -/
def after (s : Session) : Call → Session
  | .register e => (s.register e).2
  | .build c schema => (s.build c schema).2

/-- The session after calls, one after another. -/
def run (s : Session) (calls : List Call) : Session := calls.foldl after s

variable {s : Session} {e : Enumeration}

theorem register_of_free (free : s.types.contains e.name = false) : s.register e =
    (.ok (), { s with types := s.types.insert e.name (.enumeration e.name e.exported) }) := by
  rw [register, Registry.register_eq_ok.2 ⟨free, rfl⟩]

theorem register_of_taken (taken : s.types.contains e.name = true) :
    s.register e = (.error (.duplicate e.name), s) := by
  rw [register, Registry.register_eq_error.2 ⟨taken, rfl⟩]

theorem types_build (s : Session) (c : Catalog) (n : String) :
    (s.build c n).2.types = (Schema.build c n s.types).2 := by
  rw [build]
  cases Schema.build c n s.types with
  | mk outcome r =>
    cases outcome with
    | error e => rfl
    | ok m => rfl

/-- A call adds enums to the registry, and does nothing else to it. -/
theorem extends_after (s : Session) (call : Call) :
    ∃ es, s.types.Extends es (s.after call).types := by
  cases call with
  | register e =>
    rw [after]
    cases taken : s.types.contains e.name with
    | true =>
      rw [register_of_taken taken]
      exact ⟨[], .refl _⟩
    | false =>
      rw [register_of_free taken]
      exact ⟨[e], Registry.extends_of_register (Registry.register_eq_ok.2 ⟨taken, rfl⟩)⟩
  | build c n =>
    rw [after, types_build]
    exact (Schema.leaves_of_build c n s.types).added

/-- So do any calls. -/
theorem extends_run (calls : List Call) (s : Session) :
    ∃ es, s.types.Extends es (s.run calls).types := by
  induction calls generalizing s with
  | nil => exact ⟨[], .refl _⟩
  | cons call calls ih =>
    obtain ⟨es, first⟩ := s.extends_after call
    obtain ⟨es', rest⟩ := ih (s.after call)
    exact ⟨es ++ es', first.trans rest⟩

end Session

/-! ### Registries that are reached -/

/-- What a registry is like that was reached from the fresh one: each built-in name has its own
    scalar, every other name that is known is that of an enum, and the enums are listed in order. -/
structure Registry.Sound (r : Registry) : Prop where
  scalars : ∀ x : Scalar, r.find? x.rawName = some (.scalar x)
  enums : ∀ k t, r.find? k = some t → (∀ x : Scalar, x.rawName ≠ k) →
    t = .enumeration k (Name.exported k)
  ascending : r.enumNames.Pairwise (· < ·)
  names : ∀ k, k ∈ r.enumNames ↔ r.contains k = true ∧ ∀ x : Scalar, x.rawName ≠ k
  size : r.size = 14 + r.enumNames.length

theorem Registry.Extends.sound (h : Registry.fresh.Extends es r) : r.Sound := by
  have scalars (x : Scalar) : r.find? x.rawName = some (.scalar x) :=
    h.kept (find?_fresh_rawName x)
  have enums (k : String) (t : ColumnType) (found : r.find? k = some t)
      (other : ∀ x : Scalar, x.rawName ≠ k) : t = .enumeration k (Name.exported k) := by
    rw [h.find?, find?_fresh_of_other other] at found
    split at found
    · exact (Option.some.inj found).symm
    · cases found
  have other_of_enum {k : String} {t : ColumnType} (found : r.find? k = some t)
      (isEnum : t.isEnumeration = true) (x : Scalar) : x.rawName ≠ k := by
    rintro rfl
    cases found.symm.trans (scalars x)
    cases isEnum
  refine ⟨scalars, enums, r.enumNames_ascending, fun k => ?_, size_eq fun k => ?_⟩
  · -- names
    rw [mem_enumNames, contains_iff]
    constructor
    · rintro ⟨t, found, isEnum⟩
      exact ⟨⟨t, found⟩, other_of_enum found isEnum⟩
    · rintro ⟨⟨t, found⟩, other⟩
      exact ⟨t, found, enums k t found other ▸ rfl⟩
  · -- size
    constructor
    · rintro ⟨t, found, notEnum⟩
      by_contra other
      rw [enums k t found (by simpa using other)] at notEnum
      cases notEnum
    · rintro ⟨x, rfl⟩
      exact ⟨_, scalars x, rfl⟩

/-- REACHED: whatever a session was asked, its registry is sound; what it knows stays as it is
    whatever else is asked; and an enum is taken in exactly when its name is free. Then its name
    stands for it and nothing else has changed, and otherwise nothing has changed at all. -/
theorem Session.run_sound (before more : List Session.Call) :
    let s := Session.start.run before
    s.types.Sound ∧
    (∀ k t, s.types.find? k = some t → (s.run more).types.find? k = some t) ∧
    ∀ e, ((s.register e).1 = .ok () ↔ s.types.contains e.name = false) ∧
      ((s.register e).1 = .ok () → (s.register e).2.schema? = s.schema? ∧
        ∀ k, (s.register e).2.types.find? k =
          if k = e.name then some (.enumeration e.name (Name.exported e.name))
          else s.types.find? k) ∧
      ∀ err, (s.register e).1 = .error err → (s.register e).2 = s := by
  intro s
  obtain ⟨es, reached⟩ := Session.start.extends_run before
  obtain ⟨es', later⟩ := s.extends_run more
  refine ⟨reached.sound, fun k t found => later.kept found, fun e => ?_⟩
  cases taken : s.types.contains e.name with
  | true => simp [Session.register_of_taken taken]
  | false =>
    rw [Session.register_of_free taken]
    refine ⟨by simp, fun _ => ⟨rfl, fun k => ?_⟩, by simp⟩
    rw [Registry.find?_insert]
    rfl

namespace Session

/-- Calls of which all but the first fail: a build that stops behind its enums, the same build again,
    and an enum with the name of a scalar. -/
def mixed : List Call :=
  [.register ⟨"audit", "size", ["small"]⟩, .build Snapshot.flawed.toCatalog "public",
    .build Snapshot.flawed.toCatalog "public", .register ⟨"public", "text", []⟩]

theorem run_sound_mixed :
    (start.run mixed).types.find? "mood" = some (.enumeration "mood" "Mood") ∧
    ((start.run mixed).run mixed).types.find? "mood" = some (.enumeration "mood" "Mood") ∧
    ((start.run mixed).register ⟨"public", "text", []⟩).1 = .error (.duplicate "text") ∧
    ((start.run mixed).register ⟨"public", "text", []⟩).2 = start.run mixed ∧
    ((start.run mixed).register ⟨"public", "colour", []⟩).1 = .ok () ∧
    ((start.run mixed).register ⟨"public", "colour", []⟩).2.types.find? "mood" =
      some (.enumeration "mood" "Mood") := by
  have known : (start.run mixed).types.find? "mood" = some (.enumeration "mood" "Mood") := by cbv
  obtain ⟨sound, kept, register⟩ := run_sound mixed mixed
  have taken : (start.run mixed).types.contains "text" = true :=
    Registry.contains_iff.2 ⟨_, sound.scalars .text⟩
  have refused := congrArg Prod.fst (register_of_taken (e := ⟨"public", "text", []⟩) taken)
  have free : (start.run mixed).types.contains "colour" = false := by cbv
  obtain ⟨accepted, added, -⟩ := register ⟨"public", "colour", []⟩
  obtain ⟨-, entries⟩ := added (accepted.2 free)
  refine ⟨known, kept _ _ known, refused, (register _).2.2 _ refused, accepted.2 free, ?_⟩
  rw [entries, if_neg (by decide), known]

end Session

end Introspect
