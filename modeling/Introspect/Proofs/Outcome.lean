import Introspect.Query.Resolution
import Introspect.Proofs.Distinct

/-! Outcomes: what it takes for steps that can fail to succeed.

    A chain of steps succeeds exactly when each of its steps does, and steps over a list succeed
    exactly when each item gives a value; item and value then stand at the same place of two lists.
    Definitions are resolved with all outcomes kept first and split into errors and values later, so
    the same is stated of a list of outcomes without an error in it. -/

namespace Introspect

variable {ε ε' α β γ : Type}

/-! ### Chains of steps -/

theorem bind_eq_ok {x : Except ε α} {f : α → Except ε β} {b : β} :
    x >>= f = .ok b ↔ ∃ a, x = .ok a ∧ f a = .ok b := by
  cases x with
  | error e => simp [bind, Except.bind]
  | ok a => simp [bind, Except.bind]

theorem pure_eq_ok {a b : α} : (pure a : Except ε α) = .ok b ↔ a = b := by
  simp [pure, Except.pure]

theorem map_eq_ok {x : Except ε α} {f : α → β} {b : β} :
    x.map f = .ok b ↔ ∃ a, x = .ok a ∧ f a = b := by
  cases x with
  | error e => simp [Except.map]
  | ok a => simp [Except.map]

theorem mapError_eq_ok {x : Except ε α} {f : ε → ε'} {a : α} :
    x.mapError f = .ok a ↔ x = .ok a := by
  cases x with
  | error e => simp [Except.mapError]
  | ok b => simp [Except.mapError]

theorem bind_eq_error {x : Except ε α} {f : α → Except ε β} {e : ε} :
    x >>= f = .error e ↔ x = .error e ∨ ∃ a, x = .ok a ∧ f a = .error e := by
  cases x with
  | error e' => simp [bind, Except.bind]
  | ok a => simp [bind, Except.bind]

theorem map_eq_error {x : Except ε α} {f : α → β} {e : ε} : x.map f = .error e ↔ x = .error e := by
  cases x with
  | error e' => simp [Except.map]
  | ok a => simp [Except.map]

theorem mapError_eq_error {x : Except ε α} {f : ε → ε'} {e : ε'} :
    x.mapError f = .error e ↔ ∃ e', x = .error e' ∧ f e' = e := by
  cases x with
  | error e' => simp [Except.mapError]
  | ok a => simp [Except.mapError]

theorem exists_ok_iff {x : Except ε α} : (∃ a, x = .ok a) ↔ ∀ e, x ≠ .error e := by
  cases x with
  | error e => simp
  | ok a => simp

/-! ### Steps over a list -/

theorem mapM_eq_ok {f : α → Except ε β} : ∀ {xs : List α} {ys : List β},
    xs.mapM f = .ok ys ↔ List.Forall₂ (fun x y => f x = .ok y) xs ys
  | [], ys => by rw [List.mapM_nil, pure_eq_ok, List.forall₂_nil_left_iff, eq_comm]
  | x :: xs, ys => by
    rw [List.mapM_cons, List.forall₂_cons_left_iff, bind_eq_ok]
    constructor
    · rintro ⟨y, hy, h⟩
      obtain ⟨zs, hzs, h⟩ := bind_eq_ok.1 h
      exact ⟨y, zs, hy, mapM_eq_ok.1 hzs, (pure_eq_ok.1 h).symm⟩
    · rintro ⟨y, zs, hy, hzs, rfl⟩
      exact ⟨y, hy, bind_eq_ok.2 ⟨zs, mapM_eq_ok.2 hzs, rfl⟩⟩

/-- Steps over a list fail at the first item that fails, with its error. -/
theorem mapM_eq_error {f : α → Except ε β} {e : ε} : ∀ {xs : List α},
    xs.mapM f = .error e ↔ ∃ before x after, xs = before ++ x :: after ∧
      (∀ y ∈ before, ∃ b, f y = .ok b) ∧ f x = .error e
  | [] => by simp [pure, Except.pure]
  | x :: xs => by
    rw [List.mapM_cons, bind_eq_error, exists_place_cons]
    simp only [bind_eq_error, pure, Except.pure, mapM_eq_error, List.forall_mem_cons]
    constructor
    · rintro (stop | ⟨b, first, ⟨before, y, after, parts, fine, stop⟩ | ⟨-, -, ⟨⟩⟩⟩)
      · exact .inl ⟨by simp, stop⟩
      · exact .inr ⟨before, y, after, parts, ⟨⟨b, first⟩, fine⟩, stop⟩
    · rintro (⟨-, stop⟩ | ⟨before, y, after, parts, ⟨⟨b, first⟩, fine⟩, stop⟩)
      · exact .inl stop
      · exact .inr ⟨b, first, .inl ⟨before, y, after, parts, fine, stop⟩⟩

/-- What is read back from each item is read back from all of them. -/
theorem mapM_map_eq_ok {f : β → Except ε α} {g : α → β} (back : ∀ x, f (g x) = .ok x)
    (xs : List α) : (xs.map g).mapM f = .ok xs := by
  rw [mapM_eq_ok, List.forall₂_map_left_iff]
  exact List.forall₂_same.2 fun x _ => back x

theorem mapM_congr {f g : α → Except ε β} : ∀ {xs : List α},
    (∀ x ∈ xs, f x = g x) → xs.mapM f = xs.mapM g
  | [], _ => rfl
  | x :: xs, same => by
    obtain ⟨first, rest⟩ := List.forall_mem_cons.1 same
    rw [List.mapM_cons, List.mapM_cons, first, mapM_congr rest]

theorem mapM_eq_some {f : α → Option β} : ∀ {xs : List α} {ys : List β},
    xs.mapM f = some ys ↔ List.Forall₂ (fun x y => f x = some y) xs ys
  | [], ys => by simp [eq_comm]
  | x :: xs, ys => by
    rw [List.mapM_cons, List.forall₂_cons_left_iff, Option.bind_eq_bind, Option.bind_eq_some_iff]
    constructor
    · rintro ⟨y, hy, h⟩
      obtain ⟨zs, hzs, h⟩ := Option.bind_eq_some_iff.1 h
      exact ⟨y, zs, hy, mapM_eq_some.1 hzs, (Option.some.inj h).symm⟩
    · rintro ⟨y, zs, hy, hzs, rfl⟩
      exact ⟨y, hy, Option.bind_eq_some_iff.2 ⟨zs, mapM_eq_some.2 hzs, rfl⟩⟩

theorem forall₂_mem_right {R : α → β → Prop} {xs : List α} {ys : List β}
    (h : List.Forall₂ R xs ys) {y : β} (hy : y ∈ ys) : ∃ x ∈ xs, R x y := by
  induction h with
  | nil => simp at hy
  | cons first _ ih =>
    rcases List.mem_cons.1 hy with rfl | hy
    · exact ⟨_, List.mem_cons_self, first⟩
    · obtain ⟨x, hx, hxy⟩ := ih hy
      exact ⟨x, List.mem_cons_of_mem _ hx, hxy⟩

/-- A place on the right has one opposite on the left. -/
theorem forall₂_place_right {R : α → β → Prop} {y : β} {after : List β} :
    ∀ {xs : List α} {before : List β}, List.Forall₂ R xs (before ++ y :: after) →
      ∃ before' x after', xs = before' ++ x :: after' ∧ List.Forall₂ R before' before ∧ R x y
  | _, [], h => by
    obtain ⟨x, after', first, -, rfl⟩ := List.forall₂_cons_right_iff.1 h
    exact ⟨[], x, after', rfl, .nil, first⟩
  | _, z :: before, h => by
    obtain ⟨w, xs, first, rest, rfl⟩ := List.forall₂_cons_right_iff.1 h
    obtain ⟨before', x, after', rfl, others, h⟩ := forall₂_place_right rest
    exact ⟨w :: before', x, after', rfl, .cons first others, h⟩

theorem exists_forall₂_iff {R : α → β → Prop} : ∀ {xs : List α},
    (∃ ys, List.Forall₂ R xs ys) ↔ ∀ x ∈ xs, ∃ y, R x y
  | [] => by simp
  | x :: xs => by
    rw [List.forall_mem_cons, ← exists_forall₂_iff]
    constructor
    · rintro ⟨ys, h⟩
      obtain ⟨y, zs, hy, hzs, -⟩ := List.forall₂_cons_left_iff.1 h
      exact ⟨⟨y, hy⟩, zs, hzs⟩
    · rintro ⟨⟨y, hy⟩, zs, hzs⟩
      exact ⟨y :: zs, .cons hy hzs⟩

theorem forall₂_ofFn {R : α → β → Prop} {n : ℕ} {f : Fin n → α} {g : Fin n → β}
    (h : ∀ i, R (f i) (g i)) : List.Forall₂ R (List.ofFn f) (List.ofFn g) := by
  rw [List.forall₂_iff_get]
  refine ⟨by simp, fun i hf hg => ?_⟩
  simpa using h ⟨i, by simpa using hf⟩

theorem forall₂_map_eq {R : α → β → Prop} {f : α → γ} {g : β → γ} {xs : List α} {ys : List β}
    (h : List.Forall₂ R xs ys) (same : ∀ x y, R x y → f x = g y) : xs.map f = ys.map g := by
  induction h with
  | nil => rfl
  | cons first _ ih => rw [List.map_cons, List.map_cons, same _ _ first, ih]

/-- Where each item goes with one value only, a list goes with the list of these values only. -/
theorem forall₂_iff_eq_map {R : α → β → Prop} {f : α → β} : ∀ {xs : List α} {ys : List β},
    (∀ x ∈ xs, ∀ y, R x y ↔ y = f x) → (List.Forall₂ R xs ys ↔ ys = xs.map f)
  | [], ys, _ => by simp
  | x :: xs, ys, only => by
    obtain ⟨first, rest⟩ := List.forall_mem_cons.1 only
    rw [List.forall₂_cons_left_iff, List.map_cons]
    simp only [first, forall₂_iff_eq_map rest]
    constructor
    · rintro ⟨_, _, rfl, rfl, rfl⟩
      rfl
    · rintro rfl
      exact ⟨_, _, rfl, rfl, rfl⟩

/-! ### Lists of outcomes -/

theorem mem_errorsOf_map {f : α → Except ε β} {xs : List α} {e : ε} :
    e ∈ errorsOf (xs.map f) ↔ ∃ x ∈ xs, f x = .error e := by
  rw [errorsOf, List.filterMap_map, List.mem_filterMap]
  refine exists_congr fun x => and_congr_right fun _ => ?_
  cases hx : f x with
  | error e' => simp [hx]
  | ok b => simp [hx]

theorem valuesOf_map {f : α → Except ε β} {xs : List α} {ys : List β}
    (h : List.Forall₂ (fun x y => f x = .ok y) xs ys) : valuesOf (xs.map f) = ys := by
  induction h with
  | nil => rfl
  | cons first _ ih =>
    rw [List.map_cons, first]
    exact congrArg _ ih

/-- There is no error among the outcomes exactly when each item has a value, and then these are the
    values among the outcomes. -/
theorem errorsOf_map_eq_nil {f : α → Except ε β} : ∀ {xs : List α},
    errorsOf (xs.map f) = [] ↔ List.Forall₂ (fun x y => f x = .ok y) xs (valuesOf (xs.map f))
  | [] => by simp [errorsOf, valuesOf]
  | x :: xs => by
    rw [List.map_cons]
    cases hx : f x with
    | error e => simp [errorsOf, valuesOf, hx, List.forall₂_cons_left_iff]
    | ok y => simpa [errorsOf, valuesOf, hx] using @errorsOf_map_eq_nil f xs

end Introspect
