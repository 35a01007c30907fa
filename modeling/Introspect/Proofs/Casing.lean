import Introspect.Proofs.Acronym

/-! Casing: what a name keeps in generated code, and how its words begin there.

    Pascal and camel case write the letters and numerals of a name in their order and change
    nothing but their case (`lower_cased`), and an acronym is the same letters in capitals. So
    exported and camel names have the spelling of the name (`lower_exported`, `lower_camel`), and
    no other characters than letters and numerals (`isAlphanumeric_of_mem_exported`).

    No word starts with a small letter (`not_small_of_wordStart`), and a word starts after each
    numeral, so no small letter directly follows one (`numeralsEndWords_cased`). Acronyms only raise
    letters, which keeps this. In camel case the very first letter starts no word, so it is no
    capital (`not_capital_of_not_wordStart`). -/

namespace Introspect.Name

open Introspect.Text

variable {c d : Char} {p : Position} {s s' : List Char}

/-! ### Case -/

theorem ascii_of_isAlpha (letter : c.isAlpha = true) : c.toNat < 128 := by
  simp only [Char.isAlpha, Char.isUpper, Char.isLower, Bool.or_eq_true, decide_eq_true_eq,
    UInt32.le_iff_toNat_le, ge_iff_le, Bool.and_eq_true, Char.reduceVal, UInt32.reduceToNat,
    Char.toNat_val] at letter
  omega

theorem isAlpha_of_isLower (small : c.isLower = true) : c.isAlpha = true := by
  rw [Char.isAlpha, small, Bool.or_true]

theorem isAlpha_of_isUpper (capital : c.isUpper = true) : c.isAlpha = true := by
  rw [Char.isAlpha, capital, Bool.true_or]

theorem isAlphanumeric_of_isAlpha (letter : c.isAlpha = true) : isAlphanumeric c = true := by
  rw [isAlphanumeric, isLetter, if_pos (ascii_of_isAlpha letter), letter, Bool.true_or]

theorem isNumeral_of_isAlpha (letter : c.isAlpha = true) : isNumeral c = false := by
  rw [isNumeral, if_pos (ascii_of_isAlpha letter)]
  simp only [Char.isAlpha, Char.isUpper, Char.isLower, Char.isDigit, Bool.or_eq_true,
    decide_eq_true_eq, UInt32.le_iff_toNat_le, ge_iff_le, Bool.and_eq_true, Char.reduceVal,
    UInt32.reduceToNat, Char.toNat_val, Bool.and_eq_false_iff, decide_eq_false_iff_not]
    at letter ⊢
  omega

/-- What all letters of ASCII have in common is the same for characters that differ in case. -/
theorem eq_of_toLower_eq {β : Type} {f : Char → β} {b : β}
    (letters : ∀ c, c.isAlpha = true → f c = b) (same : c.toLower = d.toLower) : f c = f d := by
  have both : c.isAlpha = d.isAlpha := by
    rw [← Char.isAlpha_toLower_eq_isAlpha, same, Char.isAlpha_toLower_eq_isAlpha]
  by_cases letter : c.isAlpha
  · rw [letters c letter, letters d (both ▸ letter)]
  · have other : ¬ d.isAlpha := both ▸ letter
    rw [Char.toLower_eq_of_not_isUpper (letter ∘ isAlpha_of_isUpper),
      Char.toLower_eq_of_not_isUpper (other ∘ isAlpha_of_isUpper)] at same
    rw [same]

theorem isAlphanumeric_eq (same : c.toLower = d.toLower) : isAlphanumeric c = isAlphanumeric d :=
  eq_of_toLower_eq (fun _ => isAlphanumeric_of_isAlpha) same

theorem isNumeral_eq (same : c.toLower = d.toLower) : isNumeral c = isNumeral d :=
  eq_of_toLower_eq (fun _ => isNumeral_of_isAlpha) same

/-! ### Letters of a name -/

/-- Casing keeps letters and numerals in their order, and nothing else. -/
theorem lower_cased (p : Position) (name : List Char) :
    (cased p name).map Char.toLower = (name.filter isAlphanumeric).map Char.toLower := by
  fun_induction cased p name with
  | case1 => rfl
  | case2 p c rest separator ih => rw [ih, List.filter_cons_of_neg (by simpa using separator)]
  | case3 p c rest kept numeral ih =>
    rw [List.filter_cons_of_pos (by simpa using kept), List.map_cons, List.map_cons, ih]
  | case4 p c rest kept letter capital ih =>
    rw [List.filter_cons_of_pos (by simpa using kept), List.map_cons, List.map_cons, ih,
      Char.toLower_toUpper_eq_toLower]
  | case5 p c rest kept letter small ih =>
    rw [List.filter_cons_of_pos (by simpa using kept), List.map_cons, List.map_cons, ih,
      Char.toLower_toLower_eq_toLower]

/-- The letters and numerals of a name, without case. -/
def spelling (name : String) : List Char := (name.toList.filter isAlphanumeric).map Char.toLower

/-- But for case, an exported name is the letters and numerals of the name. -/
theorem lower_exported (name : String) :
    (exported name).toList.map Char.toLower = spelling name := by
  rw [exported, String.toList_ofList, (raised_withAcronyms _).lower, pascalCase, lower_cased,
    spelling]

/-- But for case, so is a camel name. -/
theorem lower_camel (name : String) : (camel name).toList.map Char.toLower = spelling name := by
  rw [camel, String.toList_ofList, (raised_withAcronyms _).lower, camelCase, lower_cased, spelling]

theorem exists_of_mem_exported {name : String} (hc : c ∈ (exported name).toList) :
    ∃ d ∈ name.toList, isAlphanumeric d = true ∧ d.toLower = c.toLower := by
  have lower : c.toLower ∈ spelling name := lower_exported name ▸ List.mem_map_of_mem hc
  obtain ⟨d, hd, same⟩ := List.mem_map.1 lower
  exact ⟨d, (List.mem_filter.1 hd).1, (List.mem_filter.1 hd).2, same⟩

theorem isAlphanumeric_of_mem_exported {name : String} (hc : c ∈ (exported name).toList) :
    isAlphanumeric c = true := by
  obtain ⟨d, -, kept, same⟩ := exists_of_mem_exported hc
  rw [← isAlphanumeric_eq same, kept]

/-! ### Beginnings of words -/

theorem not_small_of_isNumeral (numeral : isNumeral c = true) : c.isLower = false := by
  rw [Bool.eq_false_iff]
  intro small
  rw [isNumeral_of_isAlpha (isAlpha_of_isLower small)] at numeral
  cases numeral

theorem not_capital_of_isNumeral (numeral : isNumeral c = true) : c.isUpper = false := by
  rw [Bool.eq_false_iff]
  intro capital
  rw [isNumeral_of_isAlpha (isAlpha_of_isUpper capital)] at numeral
  cases numeral

/-- A word does not start with a small letter. -/
theorem not_small_of_wordStart (start : p.wordStart = true) :
    ∀ c ∈ (cased p s).head?, c.isLower = false := by
  fun_induction cased p s with
  | case1 => simp
  | case2 p c rest separator ih => exact ih (by simp [start])
  | case3 p c rest kept numeral ih => simpa using not_small_of_isNumeral numeral
  | case4 p c rest kept letter capital ih => simp
  | case5 p c rest kept letter small ih => simp [Position.capital, start] at small

/-- Before anything is written, a name that starts no word does not start with a capital. -/
theorem not_capital_of_not_wordStart (start : p.wordStart = false) (fresh : p.started = false)
    (first : isLower p.previous = false) : ∀ c ∈ (cased p s).head?, c.isUpper = false := by
  fun_induction cased p s with
  | case1 => simp
  | case2 p c rest separator ih => exact ih (by simp [start, fresh]) fresh first
  | case3 p c rest kept numeral ih => simpa using not_capital_of_isNumeral numeral
  | case4 p c rest kept letter capital ih => simp [Position.capital, start, first] at capital
  | case5 p c rest kept letter small ih => simp

/-- No small letter directly follows a numeral. -/
def NumeralsEndWords (s : List Char) : Prop :=
  s.IsChain fun c d => isNumeral c = true → d.isLower = false

theorem numeralsEndWords_cased (p : Position) (s : List Char) : NumeralsEndWords (cased p s) := by
  fun_induction cased p s with
  | case1 => exact .nil
  | case2 p c rest separator ih => exact ih
  | case3 p c rest kept numeral ih =>
    exact ih.cons fun d hd _ => not_small_of_wordStart rfl d hd
  | case4 p c rest kept letter capital ih =>
    refine ih.cons fun d _ numeral => absurd numeral ?_
    rwa [isNumeral_eq (Char.toLower_toUpper_eq_toLower c)]
  | case5 p c rest kept letter small ih =>
    refine ih.cons fun d _ numeral => absurd numeral ?_
    rwa [isNumeral_eq (Char.toLower_toLower_eq_toLower c)]

theorem Raised.numeralsEndWords (raised : Raised s s') (apart : NumeralsEndWords s) :
    NumeralsEndWords s' := by
  induction raised with
  | nil => exact .nil
  | @cons c c' rest rest' here others ih =>
    obtain ⟨next, apart⟩ := List.isChain_cons.1 apart
    refine (ih apart).cons fun d' hd' numeral => ?_
    have same : c'.toLower = c.toLower := by
      rcases here with rfl | rfl
      · rfl
      · exact Char.toLower_toUpper_eq_toLower c
    cases others with
    | nil => simp at hd'
    | @cons d e rest rest' there others =>
      obtain rfl : e = d' := by simpa using hd'
      have small : d.isLower = false := next d rfl (by rwa [← isNumeral_eq same])
      rcases there with rfl | rfl
      · exact small
      · exact Char.isLower_toUpper_eq_false d

/-! ### Exported and camel names -/

/-- `written` has the letters and numerals of the name, with a capital after each numeral. -/
structure Spells (name : String) (written : List Char) : Prop where
  spelling : written.map Char.toLower = spelling name
  words : NumeralsEndWords written

theorem spells_exported (name : String) : Spells name (exported name).toList := by
  refine ⟨lower_exported name, ?_⟩
  rw [exported, String.toList_ofList]
  exact (raised_withAcronyms _).numeralsEndWords (numeralsEndWords_cased _ _)

theorem spells_camel (name : String) : Spells name (camel name).toList := by
  refine ⟨lower_camel name, ?_⟩
  rw [camel, String.toList_ofList]
  exact (raised_withAcronyms _).numeralsEndWords (numeralsEndWords_cased _ _)

end Introspect.Name
