import Introspect.Proofs.Outcome
import Introspect.Proofs.Reading
import Introspect.Document.Record
import Mathlib.Logic.Relation

/-! Edits of a document that its reader does not notice.

    A record may lose an empty value that stands for a default, have its fields reordered, gain a
    field of an unknown name, or be edited in this manner inside one of its parts (`Edit`). What
    was read before is read afterwards as well, one edit at a time (`Stable`), and so after any
    number of edits (`Stable.run`): the parts of an edited record are those of the record, but for
    an empty one that is gone or one that was edited itself (`Kept`). -/

namespace Introspect

namespace Datum

/-- An empty text or list. -/
def IsEmpty (d : Datum) : Prop := d = .text "" ∨ d = .list []

/-- One edit of a record with the declared `names`, of which the `optional` ones may be left out;
    `part` tells how a declared part itself may be edited. -/
inductive Edit (names optional : List String) (part : String → Datum → Datum → Prop) :
    Datum → Datum → Prop
  | drop {before after : List (String × Datum)} {name : String} {value : Datum}
      (default : name ∈ optional) (empty : value.IsEmpty) :
      Edit names optional part (.record (before ++ (name, value) :: after))
        (.record (before ++ after))
  | reorder {fields fields' : List (String × Datum)} (perm : fields.Perm fields') :
      Edit names optional part (.record fields) (.record fields')
  | add {before after : List (String × Datum)} {name : String} {value : Datum}
      (unknown : name ∉ names) :
      Edit names optional part (.record (before ++ after))
        (.record (before ++ (name, value) :: after))
  | inside {before after : List (String × Datum)} {name : String} {value value' : Datum}
      (edit : part name value value') :
      Edit names optional part (.record (before ++ (name, value) :: after))
        (.record (before ++ (name, value') :: after))

/-- One edit of one item of a list. -/
inductive ItemEdit (edit : Datum → Datum → Prop) : Datum → Datum → Prop
  | item {before after : List Datum} {d d' : Datum} (h : edit d d') :
      ItemEdit edit (.list (before ++ d :: after)) (.list (before ++ d' :: after))

variable {α : Type} {names optional : List String} {part : String → Datum → Datum → Prop}
  {edit : Datum → Datum → Prop} {read : Datum → Option α} {x : α} {d d' : Datum}
  {fields fields' before after : List (String × Datum)} {name k : String} {value value' : Datum}
  {p p' : Parts} {surplus : Surplus}

/-! ### Stable readers -/

/-- A reader does not notice the edits, as long as no number without a value comes in; and no edit
    takes one out. -/
structure Stable (edit : Datum → Datum → Prop) (read : Datum → Option α) : Prop where
  readable : ∀ {d d'}, edit d d' → d'.isReadable = true → d.isReadable = true
  reads : ∀ {d d' x}, edit d d' → d'.isReadable = true → read d = some x → read d' = some x

/-- What is never edited is read as before. -/
theorem Stable.of_none (none : ∀ d d', ¬ edit d d') : Stable edit read where
  readable h := absurd h (none _ _)
  reads h := absurd h (none _ _)

theorem Stable.items (stable : Stable edit read) : Stable (ItemEdit edit) (list? read) where
  readable := by
    rintro _ _ ⟨h⟩ readable
    rw [isReadable, Json.areReadable_iff] at readable ⊢
    rw [List.forall_mem_append, List.forall_mem_cons] at readable ⊢
    exact ⟨readable.1, stable.readable h readable.2.1, readable.2.2⟩
  reads := by
    rintro _ _ xs ⟨h⟩ readable found
    rw [isReadable, Json.areReadable_iff, List.forall_mem_append, List.forall_mem_cons] at readable
    rw [list?, List.mapM_append, List.mapM_cons] at found ⊢
    obtain ⟨ys, first, found⟩ := Option.bind_eq_some_iff.1 found
    obtain ⟨zs, found, joined⟩ := Option.bind_eq_some_iff.1 found
    obtain ⟨y, item, others⟩ := Option.bind_eq_some_iff.1 found
    have item' := stable.reads h readable.2.1 item
    exact Option.bind_eq_some_iff.2 ⟨ys, first, Option.bind_eq_some_iff.2
      ⟨zs, Option.bind_eq_some_iff.2 ⟨y, item', others⟩, joined⟩⟩

/-- Any number of edits goes unnoticed. -/
theorem Stable.run (stable : Stable edit read) (edits : Relation.ReflTransGen edit d d')
    (readable : d'.isReadable = true) (found : read d = some x) : read d' = some x := by
  induction edits with
  | refl => exact found
  | tail _ last ih => exact stable.reads last readable (ih (stable.readable last readable))

/-! ### Parts of a record -/

/-- The fields with the given name. -/
def named (name : String) (fields : List (String × Datum)) : List (String × Datum) :=
  fields.filter (·.1 = name)

theorem field?_eq_named : field? fields name = (named name fields).head?.map (·.2) := by
  rw [field?, named, List.head?_filter]

theorem parts_record : (record fields).parts surplus names = some p ↔
    (∀ name ∈ names, (named name fields).length ≤ 1) ∧
      (∀ f ∈ fields, f.1 ∉ names → f.2.isReadable = true) ∧ p = ⟨field? fields⟩ := by
  have once : repeats names fields = false ↔ ∀ name ∈ names, (named name fields).length ≤ 1 := by
    simp [repeats, named]
  have others : haveReadable (fields.filter (·.1 ∉ names)) = true ↔
      ∀ f ∈ fields, f.1 ∉ names → f.2.isReadable = true := by
    rw [Json.haveReadable_iff]
    simp
  rw [parts, ← once, ← others]
  cases repeats names fields with
  | true => simp
  | false =>
    cases haveReadable (fields.filter (·.1 ∉ names)) with
    | true => simp [eq_comm]
    | false => simp

theorem named_place : named name (before ++ (name, value) :: after) =
    named name before ++ (name, value) :: named name after := by
  rw [named, List.filter_append, List.filter_cons_of_pos (by simp)]
  rfl

theorem named_other (other : name ≠ k) :
    named k (before ++ (name, value) :: after) = named k (before ++ after) := by
  rw [named, named, List.filter_append, List.filter_append, List.filter_cons_of_neg (by simpa)]

/-- A name that stands at most once stands at no other place. -/
theorem named_nowhere (once : (named name (before ++ (name, value) :: after)).length ≤ 1) :
    named name before = [] ∧ named name after = [] := by
  rw [named_place, List.length_append, List.length_cons] at once
  exact ⟨List.length_eq_zero_iff.1 (by omega), List.length_eq_zero_iff.1 (by omega)⟩

theorem named_perm (perm : fields.Perm fields') (once : (named name fields).length ≤ 1) :
    named name fields' = named name fields := by
  have same : (named name fields).Perm (named name fields') := perm.filter _
  cases found : named name fields with
  | nil =>
    rw [found] at same
    exact List.nil_perm.1 same
  | cons f fs =>
    rw [found] at same once
    obtain rfl : fs = [] := List.length_eq_zero_iff.1 (by simpa using once)
    exact (List.singleton_perm.1 same).symm

theorem field?_place (once : (named name (before ++ (name, value) :: after)).length ≤ 1) :
    field? (before ++ (name, value) :: after) name = some value := by
  rw [field?_eq_named, named_place, (named_nowhere once).1]
  rfl

theorem field?_gone (once : (named name (before ++ (name, value) :: after)).length ≤ 1) :
    field? (before ++ after) name = none := by
  obtain ⟨left, right⟩ := named_nowhere once
  rw [field?_eq_named, named, List.filter_append, ← named, ← named, left, right]
  rfl

theorem field?_other (other : name ≠ k) :
    field? (before ++ (name, value) :: after) k = field? (before ++ after) k := by
  rw [field?_eq_named, field?_eq_named, named_other other]

/-- What an edit leaves of a part. -/
inductive Kept (optional : List String) (part : String → Datum → Datum → Prop) (name : String) :
    Option Datum → Option Datum → Prop
  | same (value : Option Datum) : Kept optional part name value value
  | dropped {value : Datum} (default : name ∈ optional) (empty : value.IsEmpty) :
      Kept optional part name (some value) none
  | edited {value value' : Datum} (edit : part name value value')
      (readable : value'.isReadable = true) : Kept optional part name (some value) (some value')

namespace Edit

/-- No edit lets a declared name stand twice. -/
theorem once (h : Edit names optional part (.record fields) (.record fields')) (hk : k ∈ names)
    (once : (named k fields).length ≤ 1) : (named k fields').length ≤ 1 := by
  cases h with
  | @drop before after name value =>
    have fewer : (before ++ after).Sublist (before ++ (name, value) :: after) :=
      (List.sublist_cons_self _ _).append_left before
    exact (fewer.filter _).length_le.trans once
  | reorder perm =>
    rw [named_perm perm once]
    exact once
  | @add before after name value unknown =>
    have other : name ≠ k := fun same => unknown (same ▸ hk)
    rw [named_other other]
    exact once
  | @inside before after name value value' =>
    by_cases same : name = k
    · subst same
      rw [named_place, List.length_append] at once ⊢
      exact once
    · rw [named_other same] at once ⊢
      exact once

theorem kept (h : Edit names optional part (.record fields) (.record fields')) (hk : k ∈ names)
    (once : (named k fields).length ≤ 1) (readable : ∀ f ∈ fields', f.2.isReadable = true) :
    Kept optional part k (field? fields k) (field? fields' k) := by
  have once' := h.once hk once
  cases h with
  | @drop before after name value default empty =>
    by_cases same : name = k
    · subst same
      rw [field?_place once, field?_gone once]
      exact .dropped default empty
    · rw [field?_other same]
      exact .same _
  | reorder perm =>
    rw [field?_eq_named, field?_eq_named, named_perm perm once]
    exact .same _
  | @add before after name value unknown =>
    have other : name ≠ k := fun same => unknown (same ▸ hk)
    rw [field?_other other]
    exact .same _
  | @inside before after name value value' edit =>
    by_cases same : name = k
    · subst same
      rw [field?_place once, field?_place once']
      exact .edited edit (readable (name, value') (by simp))
    · rw [field?_other same, field?_other same]
      exact .same _

theorem records (h : Edit names optional part d d') :
    ∃ fields fields', d = .record fields ∧ d' = .record fields' := by
  cases h with
  | drop | reorder | add | inside => exact ⟨_, _, rfl, rfl⟩

theorem parts (h : Edit names optional part d d') (readable : d'.isReadable = true)
    (found : d.parts surplus names = some p) : ∃ p', d'.parts surplus names = some p' ∧
      ∀ k ∈ names, Kept optional part k (p.value? k) (p'.value? k) := by
  obtain ⟨fields, fields', rfl, rfl⟩ := h.records
  obtain ⟨once, -, rfl⟩ := parts_record.1 found
  rw [isReadable, Json.haveReadable_iff] at readable
  exact ⟨_, parts_record.2 ⟨fun k hk => h.once hk (once k hk), fun f hf _ => readable f hf, rfl⟩,
    fun k hk => h.kept hk (once k hk) readable⟩

theorem readable (inside : ∀ {k v v'}, part k v v' → v'.isReadable = true → v.isReadable = true)
    (h : Edit names optional part d d') (after : d'.isReadable = true) : d.isReadable = true := by
  obtain ⟨fields, fields', rfl, rfl⟩ := h.records
  rw [isReadable, Json.haveReadable_iff] at after ⊢
  cases h with
  | drop default empty =>
    rw [List.forall_mem_append] at after ⊢
    refine ⟨after.1, List.forall_mem_cons.2 ⟨?_, after.2⟩⟩
    rcases empty with rfl | rfl <;> rfl
  | reorder perm => exact fun f hf => after f (perm.mem_iff.1 hf)
  | add =>
    rw [List.forall_mem_append, List.forall_mem_cons] at after
    exact List.forall_mem_append.2 ⟨after.1, after.2.2⟩
  | inside edit =>
    rw [List.forall_mem_append, List.forall_mem_cons] at after ⊢
    exact ⟨after.1, inside edit after.2.1, after.2.2⟩

end Edit

/-! ### Readings of parts -/

namespace Kept

theorem read_required (kept : Kept optional part k (p.value? k) (p'.value? k))
    (needed : k ∉ optional) (stable : Stable (part k) read) (found : p.required k read = some x) :
    p'.required k read = some x := by
  rw [Parts.required] at found ⊢
  generalize p.value? k = before at kept found
  generalize p'.value? k = after at kept ⊢
  cases kept with
  | same => exact found
  | dropped default => exact absurd default needed
  | edited edit readable => exact stable.reads edit readable found

theorem read_optional {default : α} (kept : Kept optional part k (p.value? k) (p'.value? k))
    (empty : ∀ {v y}, v.IsEmpty → read v = some y → y = default) (stable : Stable (part k) read)
    (found : p.optional k default read = some x) : p'.optional k default read = some x := by
  rw [Parts.optional] at found ⊢
  generalize p.value? k = before at kept found
  generalize p'.value? k = after at kept ⊢
  cases kept with
  | same => exact found
  | dropped _ gone => exact congrArg some (empty gone found).symm
  | edited edit readable => exact stable.reads edit readable found

end Kept

/-- One edit of a record whose parts are all needed and are not edited themselves. -/
def RowEdit (names : List String) : Datum → Datum → Prop := Edit names [] fun _ _ _ => False

namespace RowEdit

theorem parts (h : RowEdit names d d') (readable : d'.isReadable = true)
    (found : d.parts surplus names = some p) : ∃ p', d'.parts surplus names = some p' ∧
      ∀ k ∈ names, ∀ {α : Type} {read : Datum → Option α} {x : α},
        p.required k read = some x → p'.required k read = some x := by
  obtain ⟨p', found', kept⟩ := Edit.parts h readable found
  exact ⟨p', found', fun k hk _ _ _ => (kept k hk).read_required List.not_mem_nil
    (.of_none fun _ _ => id)⟩

theorem readable (h : RowEdit names d d') (after : d'.isReadable = true) : d.isReadable = true :=
  Edit.readable False.elim h after

end RowEdit

theorem text_of_isEmpty {v : Datum} {s : String} (empty : v.IsEmpty) (found : v.text? = some s) :
    s = "" := by
  rcases empty with rfl | rfl
  · exact (Option.some.inj found).symm
  · cases found

theorem list_of_isEmpty {v : Datum} {xs : List α} (empty : v.IsEmpty)
    (found : v.list? read = some xs) : xs = [] := by
  rcases empty with rfl | rfl
  · cases found
  · exact (Option.some.inj found).symm

end Datum

end Introspect
