import Introspect.Query.Spec

/-! Written forms: the texts of filters and sorts, and what is read from them.

    A filter is a name without a colon, alone or before a colon and a word. A sort is a name, alone
    or after a minus, and one that stands alone does not start with a minus. Every text has one of
    these forms (`FilterText.exists_form`, `SortText.exists_form`), and what is read from it are the
    parts of that form (`FilterText.parse_eq`, `SortText.parse_eq`), so it has no other. -/

namespace Introspect

variable {spec column name w : String} {word : Option String} {descending : Bool}

/-- The forms of a filter: the text before the first colon, and the word after it, if any. -/
inductive FilterText : (spec column : String) → (word : Option String) → Prop
  | plain {column : String} (free : ':' ∉ column.toList) : FilterText column column none
  | compared {column word : String} (free : ':' ∉ column.toList) :
      FilterText (column ++ ":" ++ word) column (some word)

/-- The forms of a sort: at most one minus, and the text after it. -/
inductive SortText : (spec name : String) → (descending : Bool) → Prop
  | ascending {name : String} (bare : name.toList.head? ≠ some '-') : SortText name name false
  | descending {name : String} : SortText ("-" ++ name) name true

/-! ### Runs of characters -/

section

variable {p : Char → Bool} {c : Char} {run rest : List Char}

/-- A run of characters of a class goes up to the first character that is not in it. -/
theorem span_run (inside : ∀ c ∈ run, p c = true) (boundary : ∀ c ∈ rest.head?, p c = false) :
    (run ++ rest).takeWhile p = run ∧ (run ++ rest).dropWhile p = rest := by
  rw [List.takeWhile_append_of_pos inside, List.dropWhile_append_of_pos inside]
  cases rest with
  | nil => simp
  | cons c after => simp [boundary c rfl]

/-- A text is cut at the first place of a character, or at its end. -/
theorem span_free (free : c ∉ run) (rest : List Char) (boundary : ∀ e ∈ rest.head?, e = c) :
    (run ++ rest).takeWhile (· ≠ c) = run ∧ (run ++ rest).dropWhile (· ≠ c) = rest := by
  refine span_run (fun e he => decide_eq_true fun same => free (same ▸ he)) fun e he => ?_
  rw [boundary e he]
  exact decide_eq_false (not_not_intro rfl)

end

/-! ### Words -/

/-- The words for comparisons. -/
def Comparison.words : List String := ["eq", "ne", "lt", "lteq", "gt", "gteq"]

/-- The words for result modes. -/
def ResultMode.words : List String := ["one", "many", "paged"]

theorem Comparison.ofName?_eq_none : Comparison.ofName? w = none ↔ w ∉ Comparison.words := by
  have words : Comparison.words = Comparison.all.map Comparison.name := rfl
  rw [ofName?, List.find?_eq_none, words, List.mem_map]
  simp only [beq_iff_eq, not_exists, not_and]

/-- The comparison that a word stands for, if it is known; without a word it is equality. -/
def Comparison.ofWord : Option String → Except String Comparison
  | none => .ok .eq
  | some w =>
    match Comparison.ofName? w with
    | some c => .ok c
    | none => .error w

theorem Comparison.ofWord_eq_error :
    Comparison.ofWord word = .error w ↔ w ∈ word ∧ w ∉ Comparison.words := by
  rw [← ofName?_eq_none]
  cases word with
  | none => simp [ofWord]
  | some v =>
    rw [ofWord, Option.mem_some_iff]
    cases known : ofName? v with
    | none =>
      constructor
      · rintro ⟨⟩
        exact ⟨rfl, known⟩
      · rintro ⟨rfl, -⟩
        rfl
    | some c =>
      constructor
      · rintro ⟨⟩
      · rintro ⟨rfl, unknown⟩
        rw [unknown] at known
        cases known

theorem ResultMode.ofName?_eq_none : ResultMode.ofName? w = none ↔ w ∉ ResultMode.words := by
  have words : ResultMode.words = ResultMode.all.map ResultMode.name := rfl
  rw [ofName?, List.find?_eq_none, words, List.mem_map]
  simp only [beq_iff_eq, not_exists, not_and]

/-! ### Filters -/

namespace FilterText

theorem exists_form (spec : String) : ∃ column word, FilterText spec column word := by
  by_cases colon : ':' ∈ spec.toList
  · obtain ⟨before, after, parts, free⟩ := List.eq_append_cons_of_mem colon
    have text : spec = String.ofList before ++ ":" ++ .ofList after := by
      rw [← String.toList_inj, parts]
      simp
    refine ⟨.ofList before, some (.ofList after), text ▸ compared ?_⟩
    rwa [String.toList_ofList]
  · exact ⟨spec, none, plain colon⟩

theorem free (h : FilterText spec column word) : ':' ∉ column.toList := by
  cases h with
  | plain free => exact free
  | compared free => exact free

/-- What is read of a filter: its column, and the comparison that its word stands for. -/
theorem parse_eq (h : FilterText spec column word) :
    FilterSpec.parse spec = ⟨column, Comparison.ofWord word⟩ := by
  cases h with
  | plain free =>
    obtain ⟨before, after⟩ := span_free free [] (by simp)
    rw [List.append_nil] at before after
    simp only [FilterSpec.parse, before, after, String.ofList_toList, Comparison.ofWord]
  | @compared column word free =>
    obtain ⟨before, after⟩ := span_free free (':' :: word.toList) (by simp)
    have chars : (column ++ ":" ++ word).toList = column.toList ++ ':' :: word.toList := by simp
    simp only [FilterSpec.parse, chars, before, after, String.ofList_toList, Comparison.ofWord]
    cases Comparison.ofName? word with
    | none => rfl
    | some c => rfl

end FilterText

/-! ### Sorts -/

namespace SortText

theorem exists_form (spec : String) : ∃ name descending, SortText spec name descending := by
  cases chars : spec.toList with
  | nil => exact ⟨spec, false, .ascending (by simp [chars])⟩
  | cons c rest =>
    by_cases minus : c = '-'
    · have text : spec = "-" ++ .ofList rest := by
        rw [← String.toList_inj, chars, minus]
        simp
      exact ⟨.ofList rest, true, text ▸ .descending⟩
    · exact ⟨spec, false, .ascending (by simpa [chars] using minus)⟩

/-- What is read of a sort: its name, and whether there is a minus. -/
theorem parse_eq (h : SortText spec name descending) :
    SortSpec.parse spec = ⟨name, descending⟩ := by
  cases h with
  | ascending bare =>
    rw [SortSpec.parse]
    split
    · rename_i rest chars
      simp [chars] at bare
    · rfl
  | descending => simp [SortSpec.parse]

end SortText

end Introspect
