import Introspect.Name.Exported
import Mathlib

/-! Acronyms: what writing them in capitals changes.

    Each acronym is looked for in what the one before it left, and its first occurrence is written
    in capitals. So a name is only ever raised: it keeps its length, and each of its characters
    stays or is written in upper case (`raised_withAcronyms`). What one acronym raised no other
    brings back (`Raised.antisymm`), so a name stays as it is exactly if there is no acronym in it
    (`withAcronyms_eq_self_iff`).

    The character in front stays there, whatever follows it, unless an acronym starts with it
    (`withAcronyms_cons`). -/

namespace Introspect.Name

variable {a : Acronym} {c : Char} {old new rest s s' t : List Char}

/-! ### Raised names -/

/-- `s'` is `s` with some of its letters written in upper case. -/
def Raised (s s' : List Char) : Prop := List.Forall₂ (fun c c' => c' = c ∨ c' = c.toUpper) s s'

theorem Raised.refl (s : List Char) : Raised s s := List.forall₂_same.2 fun _ _ => .inl rfl

theorem Raised.trans (first : Raised s s') (later : Raised s' t) : Raised s t := by
  induction first generalizing t with
  | nil => exact later
  | cons here _ ih =>
    obtain ⟨d, t, there, rest, rfl⟩ := List.forall₂_cons_left_iff.1 later
    refine .cons ?_ (ih rest)
    rcases here with rfl | rfl
    · exact there
    · exact .inr (by simpa using there)

theorem raised_map_toUpper (s : List Char) : Raised s (s.map Char.toUpper) :=
  List.forall₂_map_right_iff.2 (List.forall₂_same.2 fun _ _ => .inr rfl)

/-- Raising changes nothing but case. -/
theorem Raised.lower (raised : Raised s s') : s'.map Char.toLower = s.map Char.toLower := by
  induction raised with
  | nil => rfl
  | cons here _ ih =>
    rw [List.map_cons, List.map_cons, ih]
    rcases here with rfl | rfl
    · rfl
    · rw [Char.toLower_toUpper_eq_toLower]

/-- What was raised is not raised back. -/
theorem Raised.antisymm (raised : Raised s s') (back : Raised s' s) : s = s' := by
  induction raised with
  | nil => rfl
  | cons here _ ih =>
    obtain ⟨there, back⟩ := List.forall₂_cons.1 back
    rw [ih back]
    rcases here with rfl | rfl
    · rfl
    · rcases there with same | same
      · rw [← same]
      · rw [Char.toUpper_toUpper_eq_toUpper] at same
        rw [← same]

/-- Small letters in front of a raised name stood there before. -/
theorem Raised.prefix_of_small (raised : Raised s s') (found : t <+: s')
    (small : ∀ c ∈ t, c.isLower = true) : t <+: s := by
  induction raised generalizing t with
  | nil => exact found
  | cons here _ ih =>
    cases t with
    | nil => exact List.nil_prefix
    | cons c t =>
      obtain ⟨smallHere, smallRest⟩ := List.forall_mem_cons.1 small
      obtain ⟨rfl, follows⟩ := List.cons_prefix_cons.1 found
      rcases here with rfl | rfl
      · exact List.cons_prefix_cons.2 ⟨rfl, ih follows smallRest⟩
      · rw [Char.isLower_toUpper_eq_false] at smallHere
        cases smallHere

/-! ### One replacement -/

theorem replaceFirst_cons (free : ¬ old <+: c :: rest) :
    replaceFirst old new (c :: rest) = c :: replaceFirst old new rest := by
  rw [replaceFirst, if_neg (by simpa using free)]

theorem replaceFirst_append (found : c :: rest = old ++ t) :
    replaceFirst old new (c :: rest) = new ++ t := by
  rw [replaceFirst, if_pos (List.isPrefixOf_iff_prefix.2 ⟨t, found.symm⟩), found, List.drop_left]

theorem raised_replaceFirst (capitals : Raised old new) (s : List Char) :
    Raised s (replaceFirst old new s) := by
  induction s with
  | nil => exact .nil
  | cons c rest ih =>
    by_cases found : old <+: c :: rest
    · obtain ⟨t, whole⟩ := found
      rw [replaceFirst_append whole.symm, ← whole]
      exact List.rel_append capitals (Raised.refl t)
    · rw [replaceFirst_cons found]
      exact .cons (.inl rfl) ih

/-- A replacement changes something exactly if there is an occurrence. -/
theorem replaceFirst_eq_self_iff (some : old ≠ []) (differ : old ≠ new) :
    ∀ {s : List Char}, replaceFirst old new s = s ↔ ¬ old <:+: s
  | [] => by simp [replaceFirst, some]
  | c :: rest => by
    rw [List.infix_cons_iff]
    by_cases found : old <+: c :: rest
    · obtain ⟨t, whole⟩ := found
      rw [replaceFirst_append whole.symm, ← whole, List.append_left_inj]
      simp [differ.symm]
    · rw [replaceFirst_cons found, List.cons_inj_right,
        replaceFirst_eq_self_iff some differ, or_iff_right found]

/-! ### All acronyms -/

/-- An acronym is a capital and small letters, and its capitals are the same letters raised. -/
theorem exists_letters (ha : a ∈ acronyms) : ∃ first small, a.titled = first :: small ∧
    a.capitals = first :: small.map Char.toUpper ∧ first.isUpper = true ∧
      ∀ c ∈ small, c.isLower = true := by
  simp only [acronyms, List.mem_cons, List.not_mem_nil, or_false] at ha
  rcases ha with rfl | rfl | rfl
  · exact ⟨'I', ['d'], rfl, rfl, by decide, by simp⟩
  · exact ⟨'I', ['p'], rfl, rfl, by decide, by simp⟩
  · exact ⟨'U', ['r', 'l'], rfl, rfl, by decide, by simp⟩

theorem raised_capitals (ha : a ∈ acronyms) : Raised a.titled a.capitals := by
  obtain ⟨first, small, titled, capitals, -, -⟩ := exists_letters ha
  rw [titled, capitals]
  exact .cons (.inl rfl) (raised_map_toUpper small)

theorem raised_replacement (ha : a ∈ acronyms) (s : List Char) :
    Raised s (replaceFirst a.titled a.capitals s) :=
  raised_replaceFirst (raised_capitals ha) s

theorem replacement_eq_self_iff (ha : a ∈ acronyms) (s : List Char) :
    replaceFirst a.titled a.capitals s = s ↔ ¬ a.titled <:+: s := by
  have differ : ∀ a ∈ acronyms, a.titled ≠ [] ∧ a.titled ≠ a.capitals := by decide
  exact replaceFirst_eq_self_iff (differ a ha).1 (differ a ha).2

/-- What holds of each replacement, and of one after another, holds of several of them. -/
theorem replacements_induction {R : List Char → List Char → Prop} (refl : ∀ s, R s s)
    (trans : ∀ {s t u}, R s t → R t u → R s u) : ∀ {as : List Acronym} {s : List Char},
    (∀ a ∈ as, ∀ s, R s (replaceFirst a.titled a.capitals s)) →
      R s (as.foldl (fun s a => replaceFirst a.titled a.capitals s) s)
  | [], s, _ => refl s
  | a :: as, s, step => by
    obtain ⟨first, others⟩ := List.forall_mem_cons.1 step
    exact trans (first s) (replacements_induction refl trans others)

theorem raised_withAcronyms (s : List Char) : Raised s (withAcronyms s) :=
  replacements_induction Raised.refl Raised.trans fun _ ha => raised_replacement ha

theorem head?_withAcronyms (s : List Char) : (withAcronyms s).head? = s.head? := by
  refine replacements_induction (R := fun s s' => s'.head? = s.head?) (fun _ => rfl)
    (fun same same' => same'.trans same) fun a ha s => ?_
  obtain ⟨first, small, titled, capitals, -, -⟩ := exists_letters ha
  rw [titled, capitals]
  cases s with
  | nil => rfl
  | cons c rest =>
    by_cases found : first :: small <+: c :: rest
    · obtain ⟨t, whole⟩ := found
      rw [replaceFirst_append whole.symm, ← whole]
      rfl
    · rw [replaceFirst_cons found]
      rfl

/-- A character stays in front if no acronym starts with it, however what follows is raised. -/
theorem withAcronyms_cons
    (free : ∀ a ∈ acronyms, ∀ s, Raised rest s → ¬ a.titled <+: c :: s) :
    withAcronyms (c :: rest) = c :: withAcronyms rest := by
  have raises : ∀ a ∈ acronyms, ∀ s, Raised s (replaceFirst a.titled a.capitals s) :=
    fun _ ha => raised_replacement ha
  rw [withAcronyms, withAcronyms]
  -- What follows changes from one acronym to the next, but is always raised.
  generalize acronyms = as at free raises
  induction as generalizing rest with
  | nil => rfl
  | cons a as ih =>
    obtain ⟨freeHere, freeOthers⟩ := List.forall_mem_cons.1 free
    obtain ⟨raised, raises⟩ := List.forall_mem_cons.1 raises
    rw [List.foldl_cons, List.foldl_cons,
      replaceFirst_cons (freeHere rest (.refl rest))]
    exact ih (fun b hb s further => freeOthers b hb s ((raised rest).trans further)) raises

theorem withAcronyms_cons_of_ne (plain : ∀ a ∈ acronyms, a.titled.head? ≠ some c)
    (rest : List Char) : withAcronyms (c :: rest) = c :: withAcronyms rest := by
  refine withAcronyms_cons fun a ha s _ found => plain a ha ?_
  obtain ⟨first, small, titled, -, -, -⟩ := exists_letters ha
  rw [titled] at found ⊢
  rw [(List.cons_prefix_cons.1 found).1]
  rfl

/-- Acronyms change nothing exactly if there is none in the name. -/
theorem withAcronyms_eq_self_iff (s : List Char) :
    withAcronyms s = s ↔ ∀ a ∈ acronyms, ¬ a.titled <:+: s := by
  have raises : ∀ a ∈ acronyms, ∀ s, Raised s (replaceFirst a.titled a.capitals s) :=
    fun _ ha => raised_replacement ha
  have unchanged : ∀ a ∈ acronyms, ∀ s, replaceFirst a.titled a.capitals s = s ↔
      ¬ a.titled <:+: s := fun _ ha => replacement_eq_self_iff ha
  rw [withAcronyms]
  generalize acronyms = as at raises unchanged
  induction as with
  | nil => simp
  | cons a as ih =>
    obtain ⟨raised, raises⟩ := List.forall_mem_cons.1 raises
    obtain ⟨here, unchanged⟩ := List.forall_mem_cons.1 unchanged
    rw [List.forall_mem_cons, List.foldl_cons, ← here]
    constructor
    · intro same
      -- What the others raise further is again the name, so the first raised nothing.
      have back : Raised (replaceFirst a.titled a.capitals s) s := by
        have others := replacements_induction (s := replaceFirst a.titled a.capitals s)
          Raised.refl Raised.trans raises
        rwa [same] at others
      have stays := ((raised s).antisymm back).symm
      rw [stays] at same
      exact ⟨stays, (ih raises unchanged).1 same⟩
    · rintro ⟨stays, free⟩
      rw [stays]
      exact (ih raises unchanged).2 free

end Introspect.Name
