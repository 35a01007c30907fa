import Introspect.Proofs.Acronym

/-! Places of acronyms: which of them writing in capitals changes.

    A replacement changes the letters of one occurrence, the first (`getElem?_replaceFirst`). The
    letters that are raised stand in no other acronym, and what they become stands in none: so a
    replacement brings no acronym to a new place, and takes none from an old one but its own from
    the first (`stands_replacement`). Each acronym is then written where it stands first in the name
    as it was before any replacement (`Localized`), and so their order does not matter
    (`Localized.eq_of_perm`). -/

namespace Introspect.Name

variable {a b : Acronym} {as bs : List Acronym} {c : Char} {i j : Nat}
  {old new token rest r s t : List Char}

/-- The token stands in the text at the place `i`. -/
def Stands (token s : List Char) (i : Nat) : Prop := token <+: s.drop i

instance : Decidable (Stands token s i) := inferInstanceAs (Decidable (token <+: s.drop i))

/-- The place `i` is the first at which the token stands. -/
def StandsFirst (token s : List Char) (i : Nat) : Prop :=
  Stands token s i ∧ ∀ j < i, ¬ Stands token s j

instance : Decidable (StandsFirst token s i) :=
  inferInstanceAs (Decidable (Stands token s i ∧ ∀ j < i, ¬ Stands token s j))

/-- The character at the place `j` belongs to the first occurrence of the token. -/
def InFirst (token s : List Char) (j : Nat) : Prop :=
  ∃ i ≤ j, StandsFirst token s i ∧ j < i + token.length

instance : Decidable (InFirst token s j) :=
  inferInstanceAs (Decidable (∃ i ≤ j, StandsFirst token s i ∧ j < i + token.length))

/-- `r` is `s` with each of the acronyms written in capitals where it stands first in `s`. -/
structure Localized (as : List Acronym) (s r : List Char) : Prop where
  stands : ∀ b ∈ acronyms, ∀ i, Stands b.titled r i ↔
    Stands b.titled s i ∧ ¬ (b ∈ as ∧ StandsFirst b.titled s i)
  raised : ∀ a ∈ as, ∀ j, InFirst a.titled s j → r[j]? = s[j]?.map Char.toUpper
  kept : ∀ j, (∀ a ∈ as, ¬ InFirst a.titled s j) → r[j]? = s[j]?

/-! ### Places -/

theorem stands_iff_getElem? :
    Stands token s i ↔ ∀ k c, token[k]? = some c → s[i + k]? = some c := by
  rw [Stands, List.prefix_iff_getElem?]
  simp only [List.getElem?_drop]
  constructor
  · intro h k c hc
    obtain ⟨hk, rfl⟩ := List.getElem?_eq_some_iff.1 hc
    exact h k hk
  · exact fun h k hk => h k _ (List.getElem?_eq_getElem hk)

theorem StandsFirst.eq (first : StandsFirst token s i) (first' : StandsFirst token s j) : i = j := by
  rcases Nat.lt_trichotomy i j with lt | rfl | gt
  · exact absurd first.1 (first'.2 i lt)
  · rfl
  · exact absurd first'.1 (first.2 j gt)

theorem standsFirst_zero : StandsFirst token s 0 ↔ token <+: s :=
  ⟨fun first => first.1, fun found => ⟨found, fun _ h => absurd h (Nat.not_lt_zero _)⟩⟩

theorem standsFirst_succ (free : ¬ token <+: c :: rest) :
    StandsFirst token (c :: rest) (i + 1) ↔ StandsFirst token rest i := by
  constructor
  · rintro ⟨here, earlier⟩
    exact ⟨here, fun j hj => earlier (j + 1) (Nat.succ_lt_succ hj)⟩
  · rintro ⟨here, earlier⟩
    refine ⟨here, fun j hj => ?_⟩
    cases j with
    | zero => exact free
    | succ j => exact earlier j (Nat.lt_of_succ_lt_succ hj)

theorem inFirst_iff_lt (found : token <+: s) : InFirst token s j ↔ j < token.length := by
  constructor
  · rintro ⟨i, -, first, within⟩
    rw [first.eq (standsFirst_zero.2 found), Nat.zero_add] at within
    exact within
  · exact fun within => ⟨0, Nat.zero_le j, standsFirst_zero.2 found, by omega⟩

theorem not_inFirst_zero (free : ¬ token <+: s) : ¬ InFirst token s 0 := by
  rintro ⟨i, hi, first, -⟩
  obtain rfl := Nat.le_zero.1 hi
  exact free (standsFirst_zero.1 first)

theorem inFirst_succ (free : ¬ token <+: c :: rest) :
    InFirst token (c :: rest) (j + 1) ↔ InFirst token rest j := by
  constructor
  · rintro ⟨i, hi, first, within⟩
    cases i with
    | zero => exact absurd (standsFirst_zero.1 first) free
    | succ i => exact ⟨i, by omega, (standsFirst_succ free).1 first, by omega⟩
  · rintro ⟨i, hi, first, within⟩
    exact ⟨i + 1, by omega, (standsFirst_succ free).2 first, by omega⟩

/-- A letter of the first occurrence is the letter of the token that belongs there. -/
theorem InFirst.exists_letter (inFirst : InFirst token s j) :
    ∃ i k c, j = i + k ∧ StandsFirst token s i ∧ token[k]? = some c ∧ s[j]? = some c := by
  obtain ⟨i, hi, first, within⟩ := inFirst
  obtain ⟨k, rfl⟩ := Nat.exists_eq_add_of_le hi
  have hk : k < token.length := by omega
  have letter := List.getElem?_eq_getElem hk
  exact ⟨i, k, _, rfl, first, letter, stands_iff_getElem?.1 first.1 k _ letter⟩

theorem StandsFirst.inFirst (first : StandsFirst token s i) {k : Nat}
    (letter : token[k]? = some c) : InFirst token s (i + k) := by
  obtain ⟨hk, -⟩ := List.getElem?_eq_some_iff.1 letter
  exact ⟨i, by omega, first, by omega⟩

theorem standsFirst_congr (same : ∀ i, Stands token t i ↔ Stands token s i) :
    StandsFirst token t i ↔ StandsFirst token s i := by
  simp only [StandsFirst, same]

theorem inFirst_congr (same : ∀ i, Stands token t i ↔ Stands token s i) :
    InFirst token t j ↔ InFirst token s j := by
  simp only [InFirst, standsFirst_congr same]

/-! ### One replacement -/

/-- A replacement raises the letters of the first occurrence and keeps all others. -/
theorem getElem?_replaceFirst (capitals : new = old.map Char.toUpper) (s : List Char) (j : Nat) :
    (InFirst old s j → (replaceFirst old new s)[j]? = s[j]?.map Char.toUpper) ∧
      (¬ InFirst old s j → (replaceFirst old new s)[j]? = s[j]?) := by
  induction s generalizing j with
  | nil => simp [replaceFirst]
  | cons c rest ih =>
    by_cases found : old <+: c :: rest
    · obtain ⟨t, whole⟩ := found
      have same : new.length = old.length := by rw [capitals, List.length_map]
      rw [inFirst_iff_lt ⟨t, whole⟩, replaceFirst_append whole.symm, ← whole]
      constructor
      · intro within
        rw [List.getElem?_append_left (by omega), List.getElem?_append_left within, capitals,
          List.getElem?_map]
      · intro beyond
        rw [List.getElem?_append_right (by omega), List.getElem?_append_right (by omega), same]
    · rw [replaceFirst_cons found]
      cases j with
      | zero => exact ⟨fun inFirst => absurd inFirst (not_inFirst_zero found), fun _ => rfl⟩
      | succ j =>
        rw [inFirst_succ found]
        exact ih j

/-! ### One acronym -/

deriving instance DecidableEq for Acronym

theorem capitals_eq : ∀ a ∈ acronyms, a.capitals = a.titled.map Char.toUpper := by
  decide

theorem exists_toUpper_ne : ∀ a ∈ acronyms, ∃ c ∈ a.titled, c.toUpper ≠ c := by
  simp [acronyms]

/-- What an acronym raises becomes no letter of an acronym. -/
theorem toUpper_eq_of_mem : ∀ a ∈ acronyms, ∀ b ∈ acronyms, ∀ c ∈ a.titled, c.toUpper ∈ b.titled →
    c.toUpper = c := by
  simp [acronyms]

/-- What an acronym raises stands in no other acronym, and in this one at one place. -/
theorem eq_or_toUpper_eq : ∀ a ∈ acronyms, ∀ b ∈ acronyms, ∀ m < a.titled.length,
    ∀ k < b.titled.length, a.titled[m]? = b.titled[k]? →
      (a = b ∧ m = k) ∨ a.titled[m]?.map Char.toUpper = a.titled[m]? := by
  decide

theorem getElem?_replacement (ha : a ∈ acronyms) (s : List Char) (j : Nat) :
    (InFirst a.titled s j →
        (replaceFirst a.titled a.capitals s)[j]? = s[j]?.map Char.toUpper) ∧
      (¬ InFirst a.titled s j → (replaceFirst a.titled a.capitals s)[j]? = s[j]?) :=
  getElem?_replaceFirst (capitals_eq a ha) s j

/-- A letter of an acronym stood where it stands now: nothing that was raised is one. -/
theorem letter_of_replacement (ha : a ∈ acronyms) (hb : b ∈ acronyms) (letter : c ∈ b.titled)
    (now : (replaceFirst a.titled a.capitals s)[j]? = some c) : s[j]? = some c := by
  obtain ⟨raised, kept⟩ := getElem?_replacement ha s j
  by_cases inFirst : InFirst a.titled s j
  · obtain ⟨p, m, d, -, -, before, was⟩ := inFirst.exists_letter
    rw [raised inFirst, was, Option.map_some, Option.some.injEq] at now
    subst now
    rw [was, toUpper_eq_of_mem a ha b hb d (List.mem_of_getElem? before) letter]
  · rw [← kept inFirst]
    exact now

theorem stands_of_replacement (ha : a ∈ acronyms) (hb : b ∈ acronyms)
    (now : Stands b.titled (replaceFirst a.titled a.capitals s) i) : Stands b.titled s i :=
  stands_iff_getElem?.2 fun k c hc =>
    letter_of_replacement ha hb (List.mem_of_getElem? hc) (stands_iff_getElem?.1 now k c hc)

/-- Where an acronym was written in capitals it does not stand any more. -/
theorem not_stands_replacement (ha : a ∈ acronyms) (first : StandsFirst a.titled s i) :
    ¬ Stands a.titled (replaceFirst a.titled a.capitals s) i := by
  intro still
  obtain ⟨c, hc, raises⟩ := exists_toUpper_ne a ha
  obtain ⟨k, letter⟩ := List.mem_iff_getElem?.1 hc
  have now := stands_iff_getElem?.1 still k c letter
  rw [(getElem?_replacement ha s (i + k)).1 (first.inFirst letter),
    stands_iff_getElem?.1 first.1 k c letter, Option.map_some, Option.some.injEq] at now
  exact raises now

/-- At all other places acronyms stay: none has a letter that was raised for another. -/
theorem stands_replacement_of_stands (ha : a ∈ acronyms) (hb : b ∈ acronyms)
    (here : Stands b.titled s i) (other : ¬ (b = a ∧ StandsFirst b.titled s i)) :
    Stands b.titled (replaceFirst a.titled a.capitals s) i := by
  rw [stands_iff_getElem?] at here ⊢
  intro k c hc
  obtain ⟨raised, kept⟩ := getElem?_replacement ha s (i + k)
  by_cases inFirst : InFirst a.titled s (i + k)
  · obtain ⟨p, m, d, place, first, letter, was⟩ := inFirst.exists_letter
    obtain rfl : d = c := Option.some.inj (was.symm.trans (here k c hc))
    obtain ⟨hm, -⟩ := List.getElem?_eq_some_iff.1 letter
    obtain ⟨hk, -⟩ := List.getElem?_eq_some_iff.1 hc
    -- If the letter is small it has one place in one acronym, so `b` is `a` at its first place.
    rcases eq_or_toUpper_eq a ha b hb m hm k hk (letter.trans hc.symm) with ⟨rfl, rfl⟩ | stays
    · obtain rfl : i = p := by omega
      exact absurd ⟨rfl, first⟩ other
    · rw [raised inFirst, was]
      rwa [letter] at stays
  · rw [kept inFirst]
    exact here k c hc

/-- A replacement takes an acronym from its first place and moves nothing else. -/
theorem stands_replacement (ha : a ∈ acronyms) (hb : b ∈ acronyms) :
    Stands b.titled (replaceFirst a.titled a.capitals s) i ↔
      Stands b.titled s i ∧ ¬ (b = a ∧ StandsFirst b.titled s i) := by
  constructor
  · intro now
    refine ⟨stands_of_replacement ha hb now, ?_⟩
    rintro ⟨rfl, first⟩
    exact not_stands_replacement ha first now
  · rintro ⟨here, other⟩
    exact stands_replacement_of_stands ha hb here other

theorem localized_replacement (ha : a ∈ acronyms) (s : List Char) :
    Localized [a] s (replaceFirst a.titled a.capitals s) where
  stands b hb i := by
    rw [List.mem_singleton]
    exact stands_replacement ha hb
  raised := by
    intro b hb j inFirst
    obtain rfl := List.mem_singleton.1 hb
    exact (getElem?_replacement ha s j).1 inFirst
  kept j free := (getElem?_replacement ha s j).2 (free a List.mem_cons_self)

/-! ### All acronyms -/

theorem Localized.refl (s : List Char) : Localized [] s s where
  stands b _ i := by simp
  raised _ ha := absurd ha List.not_mem_nil
  kept _ _ := rfl

/-- One more acronym changes no place of the others, so these stand first where they did. -/
theorem Localized.cons (step : Localized [a] s t) (others : Localized as t r) (new : a ∉ as)
    (known : ∀ b ∈ as, b ∈ acronyms) : Localized (a :: as) s r := by
  have same (b : Acronym) (hb : b ∈ acronyms) (other : b ≠ a) (i : Nat) :
      Stands b.titled t i ↔ Stands b.titled s i := by
    rw [step.stands b hb]
    simp [other]
  have sameFirst (b : Acronym) (hb : b ∈ as) (j : Nat) :
      InFirst b.titled t j ↔ InFirst b.titled s j :=
    inFirst_congr (same b (known b hb) (ne_of_mem_of_not_mem hb new))
  -- Raising twice is raising once, so it does not matter which acronym raised a letter.
  have upper (j : Nat) : t[j]?.map Char.toUpper = s[j]?.map Char.toUpper := by
    by_cases here : InFirst a.titled s j
    · rw [step.raised a List.mem_cons_self j here, Option.map_map]
      exact congrArg (Option.map · s[j]?) (funext fun c => by simp)
    · rw [step.kept j (by simpa using here)]
  refine ⟨fun b hb i => ?_, fun b hb j inFirst => ?_, fun j free => ?_⟩
  · -- stands
    rw [others.stands b hb]
    by_cases here : b = a
    · subst here
      simp [step.stands b hb, new]
    · rw [same b hb here, standsFirst_congr (same b hb here)]
      simp [here]
  · -- raised
    by_cases later : ∃ b ∈ as, InFirst b.titled t j
    · obtain ⟨d, hd, inFirst'⟩ := later
      rw [others.raised d hd j inFirst', upper]
    · push Not at later
      rw [others.kept j later]
      rcases List.mem_cons.1 hb with rfl | hb
      · exact step.raised b List.mem_cons_self j inFirst
      · exact absurd ((sameFirst b hb j).2 inFirst) (later b hb)
  · -- kept
    obtain ⟨freeHere, freeOthers⟩ := List.forall_mem_cons.1 free
    rw [others.kept j fun b hb inFirst => freeOthers b hb ((sameFirst b hb j).1 inFirst),
      step.kept j (by simpa using freeHere)]

theorem localized_replacements (known : ∀ a ∈ as, a ∈ acronyms) (distinct : as.Nodup)
    (s : List Char) :
    Localized as s (as.foldl (fun s a => replaceFirst a.titled a.capitals s) s) := by
  induction as generalizing s with
  | nil => exact .refl s
  | cons a as ih =>
    obtain ⟨here, known⟩ := List.forall_mem_cons.1 known
    obtain ⟨new, distinct⟩ := List.nodup_cons.1 distinct
    exact (localized_replacement here s).cons (ih known distinct _) new known

/-- What the acronyms make of a text does not depend on their order. -/
theorem Localized.eq_of_perm (first : Localized as s r) (second : Localized bs s t)
    (order : as.Perm bs) : r = t := by
  refine List.ext_getElem? fun j => ?_
  by_cases raised : ∃ a ∈ as, InFirst a.titled s j
  · obtain ⟨a, ha, inFirst⟩ := raised
    rw [first.raised a ha j inFirst, second.raised a (order.mem_iff.1 ha) j inFirst]
  · push Not at raised
    rw [first.kept j raised, second.kept j fun b hb => raised b (order.mem_iff.2 hb)]

/-- Where an acronym stood first there are its capitals now. -/
theorem Localized.capitals (places : Localized as s r) (ha : a ∈ as) (known : a ∈ acronyms)
    (first : StandsFirst a.titled s i) : Stands a.capitals r i := by
  rw [stands_iff_getElem?, capitals_eq a known]
  intro k c hc
  rw [List.getElem?_map, Option.map_eq_some_iff] at hc
  obtain ⟨d, letter, rfl⟩ := hc
  rw [places.raised a ha (i + k) (first.inFirst letter),
    stands_iff_getElem?.1 first.1 k d letter, Option.map_some]

theorem nodup_acronyms : acronyms.Nodup := by
  decide

theorem localized_withAcronyms (s : List Char) : Localized acronyms s (withAcronyms s) :=
  localized_replacements (fun _ ha => ha) nodup_acronyms s

/-- LOCAL: writing the acronyms in capitals keeps the length of a text, whatever their order gives
    the same, and takes each of them from the first of its places only: there its capitals stand
    now, and all other characters are as they were. -/
theorem withAcronyms_local (s : List Char) :
    (withAcronyms s).length = s.length ∧
    (∀ as : List Acronym, as.Perm acronyms →
      as.foldl (fun s a => replaceFirst a.titled a.capitals s) s = withAcronyms s) ∧
    (∀ w ∈ [("Id", "ID"), ("Ip", "IP"), ("Url", "URL")], ∀ i,
      (Stands w.1.toList (withAcronyms s) i ↔
        Stands w.1.toList s i ∧ ¬ StandsFirst w.1.toList s i) ∧
      (StandsFirst w.1.toList s i → Stands w.2.toList (withAcronyms s) i)) ∧
    ∀ j, (∀ token ∈ ["Id", "Ip", "Url"], ¬ InFirst token.toList s j) →
      (withAcronyms s)[j]? = s[j]? := by
  have places := localized_withAcronyms s
  have each : ∀ a ∈ acronyms, ∀ i,
      (Stands a.titled (withAcronyms s) i ↔ Stands a.titled s i ∧ ¬ StandsFirst a.titled s i) ∧
      (StandsFirst a.titled s i → Stands a.capitals (withAcronyms s) i) := by
    intro a ha i
    refine ⟨?_, places.capitals ha ha⟩
    rw [places.stands a ha]
    simp [ha]
  refine ⟨(raised_withAcronyms s).length_eq.symm, fun as order => ?_, ?_, fun j free => ?_⟩
  · have known : ∀ a ∈ as, a ∈ acronyms := fun _ ha => order.mem_iff.1 ha
    have distinct := order.nodup_iff.2 nodup_acronyms
    exact (localized_replacements known distinct s).eq_of_perm places order
  · simpa [acronyms] using each
  · exact places.kept j (by simpa [acronyms] using free)

/-- A text in which acronyms touch each other, two stand twice and parts of them stand alone. -/
def mesh : List Char := "IIdéUrIpUrlIdpIpId".toList

theorem withAcronyms_local_mesh : acronyms.reverse.Perm acronyms ∧
    acronyms.reverse.foldl (fun s a => replaceFirst a.titled a.capitals s) mesh =
      "IIDéUrIPURLIdpIpId".toList ∧
    StandsFirst "Id".toList mesh 1 ∧ Stands "ID".toList (withAcronyms mesh) 1 ∧
    Stands "Id".toList mesh 11 ∧ Stands "Id".toList (withAcronyms mesh) 11 ∧
    (∀ token ∈ ["Id", "Ip", "Url"], ¬ InFirst token.toList mesh 5) ∧
    (withAcronyms mesh)[5]? = some 'r' := by
  obtain ⟨-, order, each, others⟩ := withAcronyms_local mesh
  have reversed : acronyms.reverse.Perm acronyms := List.reverse_perm acronyms
  have first : StandsFirst "Id".toList mesh 1 := by decide
  have later : Stands "Id".toList mesh 11 := by decide
  have free : ∀ token ∈ ["Id", "Ip", "Url"], ¬ InFirst token.toList mesh 5 := by decide
  have ids := each ("Id", "ID") List.mem_cons_self
  refine ⟨reversed, ?_, first, (ids 1).2 first, later, (ids 11).1.2 ⟨later, by decide⟩, free,
    others 5 free⟩
  rw [order _ reversed]
  rfl

end Introspect.Name
