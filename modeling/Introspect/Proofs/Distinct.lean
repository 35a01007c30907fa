import Mathlib.Data.List.Nodup

/-! Distinct keys: lists that pass where a key is refused once it was met.

    Positions of columns, names of tables, of enums and of queries are all checked in this manner:
    one after another, each against those before it and against what was taken from the start. Such
    a pass goes through exactly when the keys are fresh (`fresh_cons` is its step).

    A pass that stops does so at a place: a list is the items before it, that item and those after
    (`exists_place_cons`). What is first with its key is so because of those before it
    (`find?_key_eq_some`).

    If keys differ, nothing stands before an item that could be found in its place. So the order
    does not matter to what is found (`find?_key_perm`), and what is found tells the items up to
    their order (`perm_of_find?_key`). -/

namespace Introspect

variable {κ : Type} {taken : κ → Prop} {seen keys : List κ} {k : κ}

/-- The keys differ from each other, and none of them is taken. -/
def Fresh (taken : κ → Prop) (keys : List κ) : Prop := keys.Nodup ∧ ∀ k ∈ keys, ¬ taken k

theorem fresh_nil : Fresh taken [] := ⟨List.nodup_nil, by simp⟩

theorem fresh_cons : Fresh taken (k :: keys) ↔
    ¬ taken k ∧ Fresh (fun j => j = k ∨ taken j) keys := by
  rw [Fresh, Fresh, List.nodup_cons, List.forall_mem_cons]
  constructor
  · rintro ⟨⟨new, distinct⟩, free, each⟩
    refine ⟨free, distinct, fun j hj => ?_⟩
    rintro (rfl | taken)
    · exact new hj
    · exact each j hj taken
  · rintro ⟨free, distinct, each⟩
    exact ⟨⟨fun again => each k again (.inl rfl), distinct⟩, free, fun j hj => each j hj ∘ .inr⟩

theorem fresh_congr {taken' : κ → Prop} (same : ∀ j, taken j ↔ taken' j) :
    Fresh taken keys ↔ Fresh taken' keys := by
  rw [funext fun j => propext (same j)]

theorem fresh_mem_cons : Fresh (· ∈ seen) (k :: keys) ↔ k ∉ seen ∧ Fresh (· ∈ k :: seen) keys := by
  rw [fresh_cons, fresh_congr fun j => List.mem_cons.symm]

theorem fresh_mem_nil : Fresh (· ∈ []) keys ↔ keys.Nodup := by
  simp [Fresh]

/-! ### Places in a list -/

variable {α : Type} {x : α} {xs : List α}

/-- A place in a list is its beginning or a place in what follows. -/
theorem exists_place_cons {P : List α → α → List α → Prop} :
    (∃ before y after, x :: xs = before ++ y :: after ∧ P before y after) ↔
      P [] x xs ∨ ∃ before y after, xs = before ++ y :: after ∧ P (x :: before) y after := by
  constructor
  · rintro ⟨before, y, after, parts, h⟩
    cases before with
    | nil =>
      obtain ⟨rfl, rfl⟩ := List.cons.inj parts
      exact .inl h
    | cons z before =>
      obtain ⟨rfl, rest⟩ := List.cons.inj parts
      exact .inr ⟨before, y, after, rest, h⟩
  · rintro (h | ⟨before, y, after, rfl, h⟩)
    · exact ⟨[], x, xs, rfl, h⟩
    · exact ⟨x :: before, y, after, rfl, h⟩

theorem pairwise_of_places {R : α → α → Prop} :
    ∀ {xs : List α}, (∀ before x after, xs = before ++ x :: after → ∀ y ∈ before, R y x) →
      xs.Pairwise R
  | [], _ => .nil
  | x :: xs, h => by
    refine .cons (fun y hy => ?_) (pairwise_of_places fun before y after parts z hz => ?_)
    · obtain ⟨before, after, rfl⟩ := List.append_of_mem hy
      exact h (x :: before) y after rfl x List.mem_cons_self
    · exact h (x :: before) y after (parts ▸ rfl) z (List.mem_cons_of_mem _ hz)

/-! ### Keys of items -/

variable {key : α → κ} {before after : List α}

/-- Of different keys, that at a place is not among those before it. -/
theorem not_mem_before (distinct : ((before ++ x :: after).map key).Nodup) :
    key x ∉ before.map key := by
  rw [List.map_append, List.nodup_append] at distinct
  exact fun met => distinct.2.2 _ met (key x) (by simp) rfl

/-- A key was met before a place that follows an item, whether the item counts as seen or not. -/
theorem met_cons : k ∈ seen ∨ k ∈ (x :: before).map key ↔
    k ∈ key x :: seen ∨ k ∈ before.map key := by
  rw [List.map_cons, List.mem_cons, List.mem_cons, or_left_comm, or_assoc]

/-- The first item with a key is that at the place before which the key was not met. -/
theorem find?_key_eq_some [DecidableEq κ] : xs.find? (key · = k) = some x ↔
    key x = k ∧ ∃ before after, xs = before ++ x :: after ∧ k ∉ before.map key := by
  rw [List.find?_eq_some_iff_append]
  simp

/-- Each item is the first with its key exactly when the keys differ. -/
theorem find?_key_iff [DecidableEq κ] (distinct : xs.Nodup) :
    (∀ x ∈ xs, xs.find? (key · = key x) = some x) ↔ (xs.map key).Nodup := by
  rw [List.nodup_map_iff_inj_on distinct]
  constructor
  · intro first x hx y hy same
    have found := first x hx
    rw [same, first y hy] at found
    exact (Option.some.inj found).symm
  · intro inj x hx
    cases found : xs.find? (key · = key x) with
    | none => exact absurd (List.find?_eq_none.1 found x hx) (by simp)
    | some y =>
      have same : key y = key x := by simpa using List.find?_some found
      rw [inj y (List.mem_of_find?_eq_some found) x hx same]

/-! ### Items in another order -/

variable {ys : List α}

/-- Of different keys, each finds the item that has it. -/
theorem find?_key_of_nodup [DecidableEq κ] (distinct : (xs.map key).Nodup) :
    xs.find? (key · = k) = some x ↔ x ∈ xs ∧ key x = k := by
  constructor
  · intro found
    exact ⟨List.mem_of_find?_eq_some found, (find?_key_eq_some.1 found).1⟩
  · rintro ⟨hx, rfl⟩
    exact (find?_key_iff (.of_map key distinct)).2 distinct x hx

/-- What different keys find does not depend on the order of the items. -/
theorem find?_key_perm [DecidableEq κ] (perm : xs.Perm ys) (distinct : (xs.map key).Nodup) :
    xs.find? (key · = k) = ys.find? (key · = k) := by
  have distinct' : (ys.map key).Nodup := (perm.map key).nodup_iff.1 distinct
  refine Option.ext fun x => ?_
  rw [find?_key_of_nodup distinct, find?_key_of_nodup distinct', perm.mem_iff]

/-- Items under different keys are the same, up to their order, if the keys find the same. -/
theorem perm_of_find?_key [DecidableEq κ] (left : (xs.map key).Nodup) (right : (ys.map key).Nodup)
    (same : ∀ k, xs.find? (key · = k) = ys.find? (key · = k)) : xs.Perm ys := by
  refine (List.perm_ext_iff_of_nodup (.of_map key left) (.of_map key right)).2 fun x => ?_
  have hx := find?_key_of_nodup (x := x) (k := key x) left
  rw [same, find?_key_of_nodup right] at hx
  simpa using hx.symm

end Introspect
