import Introspect.Proofs.Casing

/-! Camel names beside exported names.

    In a name without capitals, casing depends on where words start and on nothing that was read
    before (`cased_congr`). So Pascal and camel case part at the first letter and go on alike
    (`exists_position`). Acronyms are then looked for in two texts that differ in one letter, and the
    places are the same unless one starts with that letter: what follows it small is what followed
    it in the name (`prefix_of_cased`), so the name itself would start with the acronym
    (`camel_eq_exported`). -/

namespace Introspect

namespace Name

open Introspect.Text

variable {a : Acronym} {c : Char} {p q : Position} {s t rest : List Char}

/-! ### Casing without capitals -/

theorem cased_congr (noCapital : ∀ c ∈ s, isUpper c = false) (start : p.wordStart = q.wordStart)
    (started : p.started = q.started) : cased p s = cased q s := by
  induction s generalizing p q with
  | nil => rfl
  | cons c rest ih =>
    obtain ⟨small, noCapital⟩ := List.forall_mem_cons.1 noCapital
    have capital : p.capital c = q.capital c := by
      rw [Position.capital, Position.capital, small, start, Bool.and_false, Bool.and_false]
    rw [cased, cased, capital]
    split
    · exact ih noCapital (by rw [start, started]) started
    · split
      · exact congrArg _ (ih noCapital rfl rfl)
      · split
        · exact congrArg _ (ih noCapital rfl rfl)
        · rfl

theorem not_capital_of_not_isUpper (small : isUpper c = false) : ¬ c.isUpper = true := by
  intro capital
  rw [isUpper, if_pos (ascii_of_isAlpha (isAlpha_of_isUpper capital)), capital] at small
  cases small

theorem eq_nil_of_small (found : t <+: s) (small : ∀ c ∈ t, c.isLower = true)
    (head : ∀ c ∈ s.head?, c.isLower = false) : t = [] := by
  cases t with
  | nil => rfl
  | cons c t =>
    obtain ⟨after, rfl⟩ := found
    have first := small c List.mem_cons_self
    rw [head c rfl] at first
    cases first

/-- Small letters in front of a cased name stand in front of the name. -/
theorem prefix_of_cased (noCapital : ∀ c ∈ s, isUpper c = false) (started : p.started = true)
    (found : t <+: cased p s) (small : ∀ c ∈ t, c.isLower = true) : t <+: s := by
  -- Small letters are written only within a word, where each is the next letter of the name.
  fun_induction cased p s generalizing t with
  | case1 => exact found
  | case2 p c rest separator ih =>
    have start : (p.wordStart || p.started) = true := by rw [started, Bool.or_true]
    rw [eq_nil_of_small found small (not_small_of_wordStart start)]
    exact List.nil_prefix
  | case3 p c rest kept numeral ih =>
    rw [eq_nil_of_small found small (by simpa using not_small_of_isNumeral numeral)]
    exact List.nil_prefix
  | case4 p c rest kept letter capital ih =>
    rw [eq_nil_of_small found small (by simp)]
    exact List.nil_prefix
  | case5 p c rest kept letter inWord ih =>
    obtain ⟨smallHere, noCapital⟩ := List.forall_mem_cons.1 noCapital
    cases t with
    | nil => exact List.nil_prefix
    | cons d t =>
      obtain ⟨rfl, follows⟩ := List.cons_prefix_cons.1 found
      have same := Char.toLower_eq_of_not_isUpper (not_capital_of_not_isUpper smallHere)
      exact List.cons_prefix_cons.2
        ⟨same, ih noCapital rfl follows fun d hd => small d (List.mem_cons_of_mem _ hd)⟩

/-! ### The first letter -/

/-- Pascal and camel case differ in the case of the first letter only. -/
theorem exists_position (letter : isLetter c = true) (small : isUpper c = false)
    (noCapital : ∀ d ∈ rest, isUpper d = false) :
    ∃ p : Position, p.started = true ∧ pascalCase (c :: rest) = c.toUpper :: cased p rest ∧
      camelCase (c :: rest) = c.toLower :: cased p rest := by
  have kept : ¬ (!isAlphanumeric c) = true := by simp [isAlphanumeric, letter]
  rw [pascalCase, camelCase, cased, cased, if_neg kept, if_neg kept]
  by_cases numeral : isNumeral c = true
  · have upper : c.toUpper = c :=
      Char.toUpper_eq_of_not_isLower (by simp [not_small_of_isNumeral numeral])
    have lower : c.toLower = c := Char.toLower_eq_of_not_isUpper (not_capital_of_not_isUpper small)
    refine ⟨⟨true, ' ', true⟩, rfl, ?_, ?_⟩
    · rw [if_pos numeral, upper]
    · rw [if_pos numeral, lower]
  · have begins : Position.capital ⟨true, ' ', false⟩ c = true := rfl
    have continues : ¬ Position.capital ⟨false, ' ', false⟩ c = true := by
      simp [Position.capital, small]
    refine ⟨⟨false, ' ', true⟩, rfl, ?_, ?_⟩
    · rw [if_neg numeral, if_pos begins]
    · rw [if_neg numeral, if_neg continues]
      exact congrArg _ (cased_congr noCapital rfl rfl)

/-- If no acronym starts a name, in small letters, none starts with the first letter in Pascal
    case. -/
theorem not_prefix_of_free (small : isUpper c = false) (noCapital : ∀ d ∈ rest, isUpper d = false)
    (started : p.started = true) (raised : Raised (cased p rest) s) (ha : a ∈ acronyms)
    (free : ¬ a.titled.map Char.toLower <+: c :: rest) : ¬ a.titled <+: c.toUpper :: s := by
  intro found
  obtain ⟨first, others, titled, -, -, smallOthers⟩ := exists_letters ha
  rw [titled] at found free
  obtain ⟨rfl, follows⟩ := List.cons_prefix_cons.1 found
  have before : others <+: rest :=
    prefix_of_cased noCapital started (raised.prefix_of_small follows smallOthers) smallOthers
  refine free ?_
  have sameFirst : c.toUpper.toLower = c := by
    rw [Char.toLower_toUpper_eq_toLower]
    exact Char.toLower_eq_of_not_isUpper (not_capital_of_not_isUpper small)
  have sameOthers : others.map Char.toLower = others := by
    have same : ∀ d ∈ others, d.toLower = d := fun d hd =>
      Char.toLower_eq_of_not_isUpper (Char.not_isUpper_of_isLower (smallOthers d hd))
    rw [List.map_congr_left same, List.map_id']
  rw [List.map_cons, sameFirst, sameOthers]
  exact List.cons_prefix_cons.2 ⟨rfl, before⟩

end Name

/-- CAMEL: if a name has no capitals and starts with a letter, but with no acronym, its camel name
    is its exported name with the first letter in lower case. -/
theorem camel_eq_exported (name : String) (noCapital : ∀ c ∈ name.toList, Text.isUpper c = false)
    (letter : ∃ c ∈ name.toList.head?, Text.isLetter c = true)
    (free : ∀ token ∈ ["id", "ip", "url"], ¬ token.toList <+: name.toList) :
    (Name.camel name).toList = (Name.exported name).toList.modifyHead Char.toLower := by
  obtain ⟨c, head, letter⟩ := letter
  obtain ⟨rest, parts⟩ : ∃ rest, name.toList = c :: rest := List.head?_eq_some_iff.1 head
  rw [parts] at noCapital free
  obtain ⟨small, noCapital⟩ := List.forall_mem_cons.1 noCapital
  obtain ⟨p, started, pascal, camel⟩ := Name.exists_position letter small noCapital
  have tokens : ∀ a ∈ Name.acronyms, ¬ a.titled.map Char.toLower <+: c :: rest := by
    simpa [Name.acronyms] using free
  have exported : (Name.exported name).toList =
      c.toUpper :: Name.withAcronyms (Name.cased p rest) := by
    rw [Name.exported, String.toList_ofList, parts, pascal, Name.withAcronyms_cons]
    exact fun a ha s raised =>
      Name.not_prefix_of_free small noCapital started raised ha (tokens a ha)
  have camel : (Name.camel name).toList = c.toLower :: Name.withAcronyms (Name.cased p rest) := by
    rw [Name.camel, String.toList_ofList, parts, camel, Name.withAcronyms_cons_of_ne]
    intro a ha same
    obtain ⟨first, others, titled, -, capital, -⟩ := Name.exists_letters ha
    rw [titled, List.head?_cons, Option.some.injEq] at same
    rw [same, Char.isUpper_toLower_eq_false] at capital
    cases capital
  rw [camel, exported, List.modifyHead_cons, Char.toLower_toUpper_eq_toLower]

/-- A name with separators, numerals and acronyms, and with the letters of one around a separator in
    front. -/
def sketch : String := "i_d2id__ip-7url_id"

theorem camel_eq_exported_sketch : (∀ c ∈ sketch.toList, Text.isUpper c = false) ∧
    (∃ c ∈ sketch.toList.head?, Text.isLetter c = true) ∧
    (∀ token ∈ ["id", "ip", "url"], ¬ token.toList <+: sketch.toList) ∧
    Name.exported sketch = "ID2IDIP7URLId" ∧ Name.camel sketch = "iD2IDIP7URLId" := by
  have noCapital : ∀ c ∈ sketch.toList, Text.isUpper c = false := by
    simp [sketch, Text.isUpper]
  have letter : ∃ c ∈ sketch.toList.head?, Text.isLetter c = true := ⟨'i', by simp [sketch], rfl⟩
  have free : ∀ token ∈ ["id", "ip", "url"], ¬ token.toList <+: sketch.toList := by simp [sketch]
  have exported : Name.exported sketch = "ID2IDIP7URLId" := by cbv
  have camel := camel_eq_exported sketch noCapital letter free
  rw [exported] at camel
  refine ⟨noCapital, letter, free, exported, String.toList_inj.1 (camel.trans ?_)⟩
  cbv

end Introspect
